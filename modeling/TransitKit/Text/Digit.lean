import TransitKit.Text.CharSet

/-!
# Digits

Two classes of the Unicode Character Database (version 14.0): the decimal digits
(general category `Nd`), each of which has a value from 0 to 9 and may stand in a
written integer, and the wider class of digits (`Numeric_Type` `Digit` or `Decimal`),
which adds superscripts, circled digits and the like.

Every decimal digit belongs to a run of ten consecutive code points that starts with
its zero, so the value of a decimal digit is its distance from the start of its run,
taken modulo ten.
-/

namespace TransitKit.Text

/-- The decimal digits: code points of general category `Nd`. -/
def decimalDigits : CharSet := CharSet.ofHex (
    "30-39,660-669,6f0-6f9,7c0-7c9,966-96f,9e6-9ef,a66-a6f,ae6-aef,b66-b6f,be6-bef,c66-c6f,ce6-cef,d6" ++
    "6-d6f,de6-def,e50-e59,ed0-ed9,f20-f29,1040-1049,1090-1099,17e0-17e9,1810-1819,1946-194f,19d0-19d" ++
    "9,1a80-1a89,1a90-1a99,1b50-1b59,1bb0-1bb9,1c40-1c49,1c50-1c59,a620-a629,a8d0-a8d9,a900-a909,a9d0" ++
    "-a9d9,a9f0-a9f9,aa50-aa59,abf0-abf9,ff10-ff19,104a0-104a9,10d30-10d39,11066-1106f,110f0-110f9,11" ++
    "136-1113f,111d0-111d9,112f0-112f9,11450-11459,114d0-114d9,11650-11659,116c0-116c9,11730-11739,11" ++
    "8e0-118e9,11950-11959,11c50-11c59,11d50-11d59,11da0-11da9,16a60-16a69,16ac0-16ac9,16b50-16b59,1d" ++
    "7ce-1d7ff,1e140-1e149,1e2f0-1e2f9,1e950-1e959,1fbf0-1fbf9")

/-- The digits: `Numeric_Type` is `Digit` or `Decimal`. -/
def digitChars : CharSet := CharSet.ofHex (
    "30-39,b2-b3,b9,660-669,6f0-6f9,7c0-7c9,966-96f,9e6-9ef,a66-a6f,ae6-aef,b66-b6f,be6-bef,c66-c6f,c" ++
    "e6-cef,d66-d6f,de6-def,e50-e59,ed0-ed9,f20-f29,1040-1049,1090-1099,1369-1371,17e0-17e9,1810-1819" ++
    ",1946-194f,19d0-19da,1a80-1a89,1a90-1a99,1b50-1b59,1bb0-1bb9,1c40-1c49,1c50-1c59,2070,2074-2079," ++
    "2080-2089,2460-2468,2474-247c,2488-2490,24ea,24f5-24fd,24ff,2776-277e,2780-2788,278a-2792,a620-a" ++
    "629,a8d0-a8d9,a900-a909,a9d0-a9d9,a9f0-a9f9,aa50-aa59,abf0-abf9,ff10-ff19,104a0-104a9,10a40-10a4" ++
    "3,10d30-10d39,10e60-10e68,11052-1105a,11066-1106f,110f0-110f9,11136-1113f,111d0-111d9,112f0-112f" ++
    "9,11450-11459,114d0-114d9,11650-11659,116c0-116c9,11730-11739,118e0-118e9,11950-11959,11c50-11c5" ++
    "9,11d50-11d59,11da0-11da9,16a60-16a69,16ac0-16ac9,16b50-16b59,1d7ce-1d7ff,1e140-1e149,1e2f0-1e2f" ++
    "9,1e950-1e959,1f100-1f10a,1fbf0-1fbf9")

/-- A character is a decimal digit. -/
def isDecimalDigit (c : Char) : Bool := decimalDigits.contains c.toNat

/-- A character is a digit in the wide sense (superscripts and circled digits count). -/
def isDigitLike (c : Char) : Bool := c.isDigit || digitChars.contains c.toNat

/-- The value of a decimal digit, read as its offset in its run of ten; the ASCII digits
are the first run. -/
def decimalValue? (c : Char) : Option Nat :=
  if c.isDigit then some (c.toNat - '0'.toNat)
  else match decimalDigits.rangeOf? c.toNat with
    | some (lo, _) => some ((c.toNat - lo) % 10)
    | none => none

end TransitKit.Text
