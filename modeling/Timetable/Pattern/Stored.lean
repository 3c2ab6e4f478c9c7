import Timetable.Pattern

/-!
# Stored patterns

In a document a pattern is stored as the text of its canonical expression, and
any text that compiles is read as a pattern.  What is not a text is refused with
a message that names what was found.
-/

namespace Timetable

set_option autoImplicit false

/-- A value of a document, as far as reading a pattern tells values apart. -/
inductive Datum where
  | null
  | boolean (value : Bool)
  | integer (value : Int)
  | text (value : String)
  | sequence
  | map
  deriving DecidableEq

namespace Datum

/-- What a value is called where a text was expected. -/
def kind : Datum → String
  | null => "null"
  | boolean value => "boolean `" ++ (if value then "true" else "false") ++ "`"
  | integer value =>
    "integer `" ++ (if value < 0 then "-" else "") ++ Text.numeral value.natAbs ++ "`"
  | text value => "string \"" ++ value ++ "\""
  | sequence => "sequence"
  | map => "map"

end Datum

namespace Pattern

/-- The stored form of a pattern. -/
def stored (pattern : Pattern) : Datum := .text pattern.written

/-- Why a value is not a stored pattern. -/
inductive StoredFault where
  /-- The text does not compile. -/
  | refused (defect : Defect)
  /-- The value is not a text. -/
  | notText (found : Datum)
  deriving DecidableEq

namespace StoredFault

/-- The wording of the fault. -/
def message : StoredFault → String
  | refused defect => (Fault.expression defect).message
  | notText found => "invalid type: " ++ found.kind ++ ", expected a six-field cron expression"

end StoredFault

/-- The pattern that a stored value stands for. -/
def ofStored : Datum → Except StoredFault Pattern
  | .text expression => (compile expression).mapError .refused
  | other => .error (.notText other)

end Pattern

end Timetable
