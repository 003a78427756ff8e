import TransitKit.Number.Shortest

/-!
# Text of a double

A double is written with its shortest decimal digits. With the digits `d₁…dₙ` and the
point position `p` (the value is `0.d₁…dₙ · 10^p`), positional notation is used when
`-4 < p ≤ 16`, and otherwise one digit, a point and the rest of the digits (if any),
then `e`, a sign and an exponent of at least two digits. Positional text always shows a
fractional part (`1.0`). Zero keeps its sign (`-0.0`); the special values are `inf`,
`-inf` and `nan`.
-/

namespace TransitKit.Number

/-- The texts of the special values. -/
structure SpecialTexts where
  infinity : String
  nan : String

/-- The special values as a number's own text writes them. -/
def plainSpecials : SpecialTexts := ⟨"inf", "nan"⟩

/-- The special values as JSON text writes them. -/
def jsonSpecials : SpecialTexts := ⟨"Infinity", "NaN"⟩

/-- Pads a text on the left with a character up to a width. -/
def padLeft (s : String) (width : Nat) (c : Char) : String :=
  String.ofList (List.replicate (width - s.length) c) ++ s

/-- Positional or exponent text for digits `ds` with point position `p`. -/
def layoutDigits (ds : List Char) (p : Int) : String :=
  let n : Int := ds.length
  if p ≤ -4 ∨ p > 16 then
    let e := p - 1
    let mant := match ds with
      | [] => "0"
      | [d] => String.ofList [d]
      | d :: rest => String.ofList (d :: '.' :: rest)
    let sign := if e < 0 then "-" else "+"
    mant ++ "e" ++ sign ++ padLeft (toString e.natAbs) 2 '0'
  else if p ≤ 0 then
    "0." ++ String.ofList (List.replicate (-p).toNat '0') ++ String.ofList ds
  else if n ≤ p then
    String.ofList ds ++ String.ofList (List.replicate (p - n).toNat '0') ++ ".0"
  else
    String.ofList (ds.take p.toNat) ++ "." ++ String.ofList (ds.drop p.toNat)

/-- The text of a double, with the given spellings of the special values. -/
def floatTextWith (sp : SpecialTexts) (x : Float) : String :=
  match classify x with
  | .nan => sp.nan
  | .infinite neg => (if neg then "-" else "") ++ sp.infinity
  | .finite parts =>
    let sign := if parts.negative then "-" else ""
    if parts.mantissa = 0 then sign ++ "0.0"
    else
      let d := shortest parts.mantissa parts.exponent
      let ds := digitsOf d.coeff
      sign ++ layoutDigits ds (d.exp + ds.length)

/-- The text of a double: `1.5`, `1e+20`, `-0.0`, `inf`. -/
def floatText (x : Float) : String := floatTextWith plainSpecials x

end TransitKit.Number
