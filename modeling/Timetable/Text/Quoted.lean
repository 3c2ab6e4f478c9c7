import Timetable.Text.Blank
import Timetable.Text.HiddenTable

/-!
# Quoted text

A text in double quotes on one line.  A backslash stands before a quote and a
backslash; the null, the tab, the line feed and the carriage return have letters
of their own; any other character that does not show by itself is written as
its code point in hexadecimal.
-/

namespace Timetable.Text

set_option autoImplicit false

/-- The lower-case hexadecimal digits of a number. -/
def hexDigits (n : Nat) : List Char := Nat.toDigits 16 n

/-- One character as it stands between quotes. -/
def escaped (c : Char) : List Char :=
  if c.toNat = 0 then ['\\', '0']
  else if c = '\t' then ['\\', 't']
  else if c = '\r' then ['\\', 'r']
  else if c = '\n' then ['\\', 'n']
  else if c = '\\' ∨ c = '"' then ['\\', c]
  else if inRanges hiddenRanges c.toNat then
    ['\\', 'u', '\x7b'] ++ hexDigits c.toNat ++ ['\x7d']
  else [c]

/-- A text between double quotes. -/
def quoted (text : String) : String :=
  String.ofList (['"'] ++ text.toList.flatMap escaped ++ ['"'])

end Timetable.Text
