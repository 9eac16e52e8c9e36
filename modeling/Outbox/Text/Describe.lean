import Outbox.Text.Quote

/-!
# Outbox.Text.Describe — descriptions of settings

One line texts that show a record by its name and fields, for logs. A record may
be marked as open, which says that it has fields that are not shown: secrets are
never part of a description.
-/

namespace Outbox.Text

/-- An opening brace and the blank after it, or a blank and a closing brace. -/
def braced (inner : String) : String := " \x7b " ++ inner ++ " \x7d"

/-- A record by its name and its fields' names and descriptions. -/
def describeRecord (name : String) (fields : List (String × String)) (hidden : Bool) : String :=
  let shown := fields.map fun (field, value) => field ++ ": " ++ value
  name ++ braced (", ".intercalate (if hidden then shown ++ [".."] else shown))

/-- A list of descriptions. -/
def describeList (items : List String) : String := "[" ++ ", ".intercalate items ++ "]"

/-- An optional value by its description. -/
def describeOption : Option String → String
  | none => "None"
  | some value => "Some(" ++ value ++ ")"

/-- A truth value. -/
def describeBool (b : Bool) : String := if b then "true" else "false"

end Outbox.Text
