/-!
# Shortest decimal form of a double

A finite double is `m · 2^q`, and rounds from every real strictly between the midpoints to its
neighbours, and from the midpoints too when `m` is even. Its shortest decimal form is the
decimal with the fewest significant digits in that interval, the nearest one on its grid, with
ties to the even digit. All comparisons are exact, in natural numbers brought to a common scale.
-/

namespace TransitKit.Number

/-- A finite double with its sign: `(-1)^negative · mantissa · 2^exponent`. -/
structure BinaryParts where
  negative : Bool
  mantissa : Nat
  exponent : Int
deriving Repr

/-- What the bits of a double hold. -/
inductive FloatKind where
  | finite (parts : BinaryParts)
  | infinite (negative : Bool)
  | nan
deriving Repr

/-- Reads sign, exponent field and fraction field of a double. -/
def classify (x : Float) : FloatKind :=
  let b : Nat := x.toBits.toNat
  let negative := b / Nat.pow 2 63 == 1
  let e : Nat := (b / Nat.pow 2 52) % 2048
  let f : Nat := b % Nat.pow 2 52
  if e == 2047 then (if f == 0 then .infinite negative else .nan)
  else if e == 0 then .finite ⟨negative, f, -1074⟩
  else .finite ⟨negative, f + Nat.pow 2 52, (e : Int) - 1075⟩

/-- A decimal `coeff · 10^exp`. -/
structure Decimal where
  coeff : Nat
  exp : Int
deriving Repr, BEq

/-- Compares `c · 10^k` with `x / den`. -/
def compareScaled (c : Nat) (k : Int) (x den : Nat) : Ordering :=
  if 0 ≤ k then compare (c * Nat.pow 10 k.toNat * den) x
  else compare (c * den) (x * Nat.pow 10 (-k).toNat)

/-- The quotient `⌊x / (den · 10^k)⌋`. -/
def floorScaled (x den : Nat) (k : Int) : Nat :=
  if 0 ≤ k then x / (den * Nat.pow 10 k.toNat) else x * Nat.pow 10 (-k).toNat / den

/-- The number of decimal digits of a positive number. -/
def digitCount (n : Nat) : Nat := (Nat.toDigits 10 n).length

/-- The exponent `E` with `10^E ≤ x / den < 10^(E+1)`, for positive `x`. -/
def decimalExponent (x den : Nat) : Int :=
  if den ≤ x then (digitCount (x / den) : Int) - 1
  else
    -- the least `t` with `x · 10^t ≥ den`
    let t := ((List.range 400).find? fun t => den ≤ x * Nat.pow 10 (t + 1)).getD 399
    Int.negSucc t

/-- Strips trailing zeros from a decimal's coefficient. -/
def Decimal.normalize (d : Decimal) : Decimal :=
  go d.coeff d.exp d.coeff
where
  -- `fuel` bounds the number of zeros removed
  go (c : Nat) (k : Int) : Nat → Decimal
    | 0 => ⟨c, k⟩
    | fuel + 1 => if c ≠ 0 ∧ c % 10 = 0 then go (c / 10) (k + 1) fuel else ⟨c, k⟩

/-- The shortest decimal of the positive double `m · 2^q` (`m > 0`). -/
def shortest (m : Nat) (q : Int) : Decimal :=
  let s := q - 2
  let scale := if 0 ≤ s then Nat.pow 2 s.toNat else 1
  let den := if 0 ≤ s then 1 else Nat.pow 2 (-s).toNat
  let v := 4 * m * scale
  let lowerGap := if m = Nat.pow 2 52 ∧ q > -1074 then 1 else 2
  let lo := (4 * m - lowerGap) * scale
  let hi := (4 * m + 2) * scale
  let inside (c : Nat) (k : Int) : Bool :=
    match compareScaled c k lo den, compareScaled c k hi den with
    | .gt, .lt => true
    | .eq, _ => m % 2 == 0
    | _, .eq => m % 2 == 0
    | _, _ => false
  let e := decimalExponent v den
  let pick (n : Nat) : Option Decimal :=
    let k := e - n + 1
    let cl := floorScaled v den k
    let ch := cl + 1
    match inside cl k, inside ch k with
    | true, false => some ⟨cl, k⟩
    | false, true => some ⟨ch, k⟩
    | true, true =>
      -- the nearer of the two; a tie goes to the even coefficient
      let dl := v * Nat.pow 10 (if k < 0 then (-k).toNat else 0) -
        cl * den * Nat.pow 10 (if 0 ≤ k then k.toNat else 0)
      let dh := ch * den * Nat.pow 10 (if 0 ≤ k then k.toNat else 0) -
        v * Nat.pow 10 (if k < 0 then (-k).toNat else 0)
      if dl < dh then some ⟨cl, k⟩
      else if dh < dl then some ⟨ch, k⟩
      else if cl % 2 = 0 then some ⟨cl, k⟩ else some ⟨ch, k⟩
    | false, false => none
  let found := (List.range 17).findSome? fun i => pick (i + 1)
  -- seventeen digits always suffice; the fallback is the seventeen-digit floor
  (found.getD ⟨floorScaled v den (e - 16), e - 16⟩).normalize

/-- The decimal digits of a coefficient, most significant first. -/
def digitsOf (c : Nat) : List Char := Nat.toDigits 10 c

end TransitKit.Number
