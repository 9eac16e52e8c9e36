import Outbox.RateLimit

/-!
# Outbox.RateLimit.Queue — waiting for tokens together

Several waiters share one bucket. A waiter asks for a token; if it is refused it sleeps for as
long as it was told, but for a millisecond at least, and asks again. Waiters that were
put into the background ask while the one in the foreground sleeps; at the same
millisecond the foreground comes first. The clock can also be moved under the sleepers:
`jump` does not stop at the times between, so a waiter that was due at one of them asks
late, in the next sleep.
-/

namespace Outbox

/-- A waiter in the background: the group it belongs to, and when it asks next. -/
structure Waiter where
  group : Nat
  due : Instant
deriving DecidableEq

/-- A bucket with its waiters. -/
structure Queue (K : Type) where
  bucket : Bucket K
  now : Instant
  /-- The waiters, in the order in which they ask if they are due at the same time. -/
  waiters : List Waiter
  /-- The number of waiters of each group that have their token, as a list of groups. -/
  served : List Nat
deriving DecidableEq

namespace Queue

variable {K : Type} [Quantity K]

/-- When a waiter asks again that has been refused. -/
def retryAt (now : Instant) (wait : Duration) : Instant := (now.timer (max wait leastWait)).tick

/-- Lets a waiter ask. One that could only wait longer than any duration gives up. -/
def ask (q : Queue K) (w : Waiter) : Queue K :=
  let (taking, bucket) := q.bucket.take q.now
  let q := { q with bucket }
  match taking with
  | .granted => { q with served := w.group :: q.served }
  | .refused wait => { q with waiters := q.waiters ++ [{ w with due := retryAt q.now wait }] }
  | .unbounded => q

/-- The earliest time at which a waiter asks. -/
def nextDue? (q : Queue K) : Option Instant :=
  q.waiters.foldl (fun earliest w =>
    match earliest with
    | none => some w.due
    | some t => some (min t w.due)) none

/-- Lets those waiters ask that were due at a time, the earlier ones first, but at most
`most` of them. -/
def askDue (most : Nat) (q : Queue K) (time : Instant) : Queue K :=
  let (due, later) := q.waiters.partition fun w => decide (w.due ≤ time)
  let due := due.mergeSort fun v w => decide (v.due ≤ w.due)
  (due.take most).foldl ask { q with waiters := due.drop most ++ later }

/-- Lets the waiters ask that are due before `target`, in at most `rounds` rounds. -/
def advance (rounds : Nat) (q : Queue K) (target : Instant) : Queue K :=
  match rounds with
  | 0 => { q with now := target }
  | rounds + 1 =>
    match q.nextDue? with
    | none => { q with now := target }
    | some t =>
      if t < target then
        advance rounds (askDue q.waiters.length { q with now := max q.now t } (max q.now t)) target
      else { q with now := target }

/-- Sleeps in the foreground. Every round but the first takes a millisecond, so the
milliseconds bound the rounds. -/
def sleepUntil (q : Queue K) (target : Instant) : Queue K :=
  if target ≤ q.now then q else advance (target.millis - q.now.millis + 1) q target

/-- The number of waiters that ask before the foreground has its turn again. -/
abbrev turn : Nat := 61

/-- Moves the clock by a duration at once. Waiters that were due before ask at the new
time. -/
def jump (q : Queue K) (d : Duration) : Queue K :=
  askDue turn { q with now := ⟨q.now.nanos + d.nanos⟩ } q.now

/-- Puts waiters into the background. -/
def spawn (q : Queue K) (group count : Nat) : Queue K :=
  { q with waiters := q.waiters ++ List.replicate count ⟨group, q.now⟩ }

/-- How many waiters of a group have their token. -/
def servedOf (q : Queue K) (group : Nat) : Nat := q.served.count group

/-- Asks in the foreground, once. -/
def tryTake (q : Queue K) : Taking × Queue K :=
  let (taking, bucket) := q.bucket.take q.now
  (taking, { q with bucket })

/-- Waits for a token in the foreground; `refused` is the answer if there was none after so
many rounds. -/
def wait (rounds : Nat) (q : Queue K) : Taking × Queue K :=
  let (taking, q) := q.tryTake
  match taking, rounds with
  | .refused d, rounds + 1 => wait rounds (q.sleepUntil (retryAt q.now d))
  | taking, _ => (taking, q)

end Queue
end Outbox
