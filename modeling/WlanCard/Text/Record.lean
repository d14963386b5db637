import WlanCard.Text.Numeral

/-!
# The one-line text of a record

A state is shown on one line: a record as its name and its fields in order, a value that may be
missing as `Some(x)` or `None`, a list in brackets, a truth value as `true` or `false`.
-/

namespace WlanCard.Text

/-- One field of a record: its name and the text of its value. -/
def field (name value : String) : String :=
  name ++ ": " ++ value

/-- A record with all its fields. -/
def record (name : String) (fields : List String) : String :=
  name ++ " \x7b " ++ ", ".intercalate fields ++ " \x7d"

/-- A record that shows only some of its fields and says so. -/
def openRecord (name : String) (fields : List String) : String :=
  name ++ " \x7b " ++ ", ".intercalate fields ++ ", .. \x7d"

/-- A value that may be missing. -/
def optional {α : Type} (text : α → String) : Option α → String
  | none => "None"
  | some x => "Some(" ++ text x ++ ")"

/-- A number in decimal. -/
def decimal (n : Nat) : String :=
  n.repr

/-- Numbers in brackets, in decimal. -/
def decimals (ns : List Nat) : String :=
  listing (ns.map decimal)

/-- A truth value. -/
def truth : Bool → String
  | true => "true"
  | false => "false"

end WlanCard.Text
