import Timetable.Field.Constraint
import Timetable.Field.Item
import Timetable.Text.Blank
import Timetable.Text.UpperCase

/-!
# Reading a field

A field is a list of items with commas between them.  Blanks around an item do
not count, and neither does an item of blanks alone; items are read in capitals.
The field stands for the union of its items and is refused if it has none.  A
field that is a star and nothing else is not a list of items: it leaves its
number free.
-/

namespace Timetable

open Text

set_option autoImplicit false

namespace Domain

/-- The items of a field as they are read: trimmed, none empty, in capitals. -/
def itemsOf (text : List Char) : List (List Char) :=
  (((pieces (· = ',') text).map trim).filter fun item => !item.isEmpty).map upper

/-- The set that a field stands for, in characters. -/
def readChars (domain : Domain) (text : List Char) : Except Defect ValueSet := do
  let stretches ← (itemsOf text).mapM domain.readItem
  match ValueSet.ofList? (stretches.flatMap Stretch.numbers) with
  | some set => .ok set
  | none => .error (.noValues domain.field (String.ofList text))

/-- The set that a field stands for. -/
def read (domain : Domain) (expression : String) : Except Defect ValueSet :=
  domain.readChars expression.toList

end Domain

namespace Field

/-- The constraint that one word of an expression stands for. -/
def readConstraint (field : Field) (word : List Char) : Except Defect Constraint :=
  if word = ['*'] then .ok .any else .only <$> field.domain.readChars word

end Field

end Timetable
