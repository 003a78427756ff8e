import TransitKit.Text.Blank
import TransitKit.Text.Digit

/-!
# Integer literals in text

A decimal integer written in text: blanks around it, an optional `+` or `-`, then
decimal digits of any script (each script's digits count 0 to 9), where single
underscores may stand between two digits. Leading zeros are allowed and count among the
digits, of which there are at most 4300. Nothing else may appear.
-/

namespace TransitKit.Text

/-- Reads digits with single underscores between them: the value, or nothing when a
character is not a digit or an underscore is misplaced. `prev` says whether the last
character read was a digit. -/
def readDigitGroups : List Char → Nat → Bool → Option Nat
  | [], acc, prev => if prev then some acc else none
  | '_' :: cs, acc, prev =>
    match cs with
    | c :: _ => if prev && (decimalValue? c).isSome then readDigitGroups cs acc false else none
    | [] => none
  | c :: cs, acc, _ =>
    match decimalValue? c with
    | some d => readDigitGroups cs (acc * 10 + d) true
    | none => none

/-- The most digits a decimal integer literal may have. -/
def maxIntDigits : Nat := 4300

/-- The sign of a literal, as whether it is negative, and the text after it. -/
def splitSign : List Char → Bool × List Char
  | '-' :: rest => (true, rest)
  | '+' :: rest => (false, rest)
  | rest => (false, rest)

/-- Reads a decimal integer literal of at most `maxIntDigits` digits, blanks around it
allowed. -/
def readInt? (s : String) : Option Int :=
  let (negative, digits) := splitSign ((s.toList.dropWhile isBlank).reverse.dropWhile isBlank).reverse
  if (digits.filter (· != '_')).length > maxIntDigits then none
  else (readDigitGroups digits 0 false).map fun n => if negative then -(n : Int) else n

end TransitKit.Text
