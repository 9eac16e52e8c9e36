import Outbox.Charset.Chinese
import Outbox.Charset.Japanese
import Outbox.Charset.Korean
import Outbox.Charset.Upper
import Outbox.Charset.Utf7

/-!
# Outbox.Charset — how the octets of foreign text are read

Words in a header name the charset that their octets are in. A charset is found by any of
its registered names, in which letters may be of either case and an underscore is as good
as a hyphen.

Reading is total: what has no character in a charset is replaced by U+FFFD.
-/

namespace Outbox

/-- A charset, by how its octets are read. -/
inductive Charset where
  | utf8
  | utf7
  /-- UTF-16 in an order, or in the one that the text names. -/
  | utf16 (order : Option Charset.OctetOrder)
  /-- Single octets. Those below `first` are characters of the same number, and the others
  have their code points in a table. -/
  | single (first : Nat) (upper : List Nat)
  | shiftJis
  | eucJp
  | iso2022Jp
  | eucKr
  | gb18030
  | big5
deriving DecidableEq, Repr

namespace Charset

open Upper in
/-- The charsets with their registered names. -/
def registered : List (List String × Charset) := [
  (["utf-8", "csutf8"], .utf8),
  (["utf-7", "csutf7"], .utf7),
  (["utf-16", "csutf16"], .utf16 none),
  (["utf-16be", "csutf16be"], .utf16 (some .big)),
  (["utf-16le", "csutf16le"], .utf16 (some .little)),
  (["iso-8859-1", "iso-8859-1:1987", "iso-ir-100", "latin1", "l1", "ibm819", "cp819",
    "csisolatin1"], .single 256 []),
  (["iso-8859-2", "iso-8859-2:1987", "iso-ir-101", "latin2", "l2", "csisolatin2"],
    .single 0xA0 latin2),
  (["iso-8859-3", "iso-8859-3:1988", "iso-ir-109", "latin3", "l3", "csisolatin3"],
    .single 0xA0 latin3),
  (["iso-8859-4", "iso-8859-4:1988", "iso-ir-110", "latin4", "l4", "csisolatin4"],
    .single 0xA0 latin4),
  (["iso-8859-5", "iso-8859-5:1988", "iso-ir-144", "cyrillic", "csisolatincyrillic"],
    .single 0xA0 cyrillic),
  (["iso-8859-6", "iso-8859-6:1987", "iso-ir-127", "ecma-114", "asmo-708", "arabic",
    "csisolatinarabic", "iso-8859-6-e", "csiso88596e", "iso-8859-6-i", "csiso88596i"],
    .single 0xA0 arabic),
  (["iso-8859-7", "iso-8859-7:1987", "iso-ir-126", "elot-928", "ecma-118", "greek", "greek8",
    "csisolatingreek"], .single 0xA0 greek),
  (["iso-8859-8", "iso-8859-8:1988", "iso-ir-138", "hebrew", "csisolatinhebrew",
    "iso-8859-8-e", "csiso88598e", "iso-8859-8-i", "csiso88598i"], .single 0xA0 hebrew),
  (["iso-8859-9", "iso-8859-9:1989", "iso-ir-148", "latin5", "l5", "csisolatin5"],
    .single 0xA0 latin5),
  (["iso-8859-10", "iso-8859-10:1992", "iso-ir-157", "latin6", "l6", "csisolatin6"],
    .single 0xA0 latin6),
  (["iso-8859-13", "csiso885913"], .single 0xA0 latin7),
  (["iso-8859-14", "iso-8859-14:1998", "iso-ir-199", "latin8", "l8", "iso-celtic",
    "csiso885914"], .single 0xA0 latin8),
  (["iso-8859-15", "latin-9", "csiso885915"], .single 0xA0 latin9),
  (["iso-8859-16", "iso-8859-16:2001", "iso-ir-226", "latin10", "l10", "csiso885916"],
    .single 0xA0 latin10),
  (["tis-620", "cstis620", "iso-8859-11"], .single 0xA0 thai),
  (["koi8-r", "cskoi8r"], .single 0x80 koi8R),
  (["koi8-u", "cskoi8u"], .single 0x80 koi8U),
  (["macintosh", "mac", "csmacintosh"], .single 0x80 macintosh),
  (["ibm850", "cp850", "850", "cspc850multilingual"], .single 0x80 ibm850),
  (["ibm866", "cp866", "866", "csibm866"], .single 0x80 ibm866),
  (["windows-874", "cswindows874"], .single 0x80 windows874),
  (["windows-1250", "cswindows1250"], .single 0x80 windows1250),
  (["windows-1251", "cswindows1251"], .single 0x80 windows1251),
  (["windows-1252", "cswindows1252"], .single 0x80 windows1252),
  (["windows-1253", "cswindows1253"], .single 0x80 windows1253),
  (["windows-1254", "cswindows1254"], .single 0x80 windows1254),
  (["windows-1255", "cswindows1255"], .single 0x80 windows1255),
  (["windows-1256", "cswindows1256"], .single 0x80 windows1256),
  (["windows-1257", "cswindows1257"], .single 0x80 windows1257),
  (["windows-1258", "cswindows1258"], .single 0x80 windows1258),
  (["shift-jis", "ms-kanji", "csshiftjis"], .shiftJis),
  (["euc-jp", "extended-unix-code-packed-format-for-japanese", "cseucpkdfmtjapanese"], .eucJp),
  (["iso-2022-jp", "csiso2022jp"], .iso2022Jp),
  (["euc-kr", "cseuckr", "ks-c-5601-1987", "iso-ir-149", "ks-c-5601-1989", "ksc-5601", "korean",
    "csksc56011987"], .eucKr),
  (["gb18030", "csgb18030", "gbk", "cp936", "ms936", "windows-936", "csgbk", "gb2312", "csgb2312",
    "gb-2312-80", "iso-ir-58", "chinese", "csiso58gb231280"], .gb18030),
  (["big5", "csbig5", "big5-hkscs", "csbig5hkscs"], .big5)]

/-- A name as it is compared. -/
def normalName (name : List Char) : List Char :=
  name.map fun c => if c = '_' then '-' else c.toLower

/-- The charset of a name. -/
def ofName? (name : List Char) : Option Charset :=
  (registered.find? fun (names, _) => names.any (·.toList == normalName name)).map (·.2)

/-- Reads octets as text by `read`, unless a mark at their start says that they are Unicode. -/
def readUnmarked (read : Octets → List Char) : Octets → List Char
  | 0xEF :: 0xBB :: 0xBF :: rest => Utf8.decode rest
  | 0xFE :: 0xFF :: rest => Utf16.decode .big rest
  | 0xFF :: 0xFE :: rest => Utf16.decode .little rest
  | octets => read octets

/-- Reads octets as text. -/
def decode (charset : Charset) (octets : Octets) : List Char :=
  match charset with
  | .utf8 => Utf8.decode octets
  | .utf7 => Utf7.decode octets
  | .utf16 none => Utf16.decodeMarked octets
  | .utf16 (some order) => Utf16.decode order octets
  | .single first upper => octets.map fun b =>
    if b.toNat < first then Char.ofNat b.toNat
    else Char.ofNat (upper.getD (b.toNat - first) 0xFFFD)
  | .shiftJis => readUnmarked (readBy nextShiftJis) octets
  | .eucJp => readUnmarked (readBy nextEucJp) octets
  | .iso2022Jp => readUnmarked (readIso2022Jp .ascii false) octets
  | .eucKr => readUnmarked (readBy nextEucKr) octets
  | .gb18030 => readUnmarked (readBy nextGb) octets
  | .big5 => readUnmarked (readBy nextBig5) octets

end Charset
end Outbox
