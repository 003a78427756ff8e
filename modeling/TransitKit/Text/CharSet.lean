/-!
# Sets of characters and per-character tables

Unicode properties are held as sorted lists of inclusive code-point ranges, and case
mappings as sorted lists of (code point, image) entries. Both are written compactly in
hexadecimal text and read once, then searched by halving.
-/

namespace TransitKit.Text

/-- The value of a hexadecimal digit, if it is one. -/
def hexDigitValue? (c : Char) : Option Nat :=
  if '0' ≤ c ∧ c ≤ '9' then some (c.toNat - '0'.toNat)
  else if 'a' ≤ c ∧ c ≤ 'f' then some (c.toNat - 'a'.toNat + 10)
  else if 'A' ≤ c ∧ c ≤ 'F' then some (c.toNat - 'A'.toNat + 10)
  else none

/-- Reads a run of hexadecimal digits; anything else reads as zero. -/
def readHex (s : String) : Nat :=
  s.toList.foldl (fun acc c => acc * 16 + (hexDigitValue? c).getD 0) 0

/-- A set of code points: sorted, disjoint, inclusive ranges. -/
structure CharSet where
  ranges : Array (Nat × Nat)

namespace CharSet

/-- Reads entries `lo-hi` or `cp` in hexadecimal, separated by commas. -/
def ofHex (s : String) : CharSet :=
  ⟨((s.splitOn ",").filter (· ≠ "")).toArray.map fun e =>
    match e.splitOn "-" with
    | [a, b] => (readHex a, readHex b)
    | _ => (readHex e, readHex e)⟩

/-- The range of the set that holds `n`, searched between positions `lo` and `hi`. -/
def findRange (rs : Array (Nat × Nat)) (n lo hi : Nat) : Option (Nat × Nat) :=
  if lo < hi then
    let mid := (lo + hi) / 2
    let r := rs.getD mid (0, 0)
    if n < r.1 then findRange rs n lo mid
    else if r.2 < n then findRange rs n (mid + 1) hi
    else some r
  else none
termination_by hi - lo

/-- The range of the set that holds `n`, if any. -/
def rangeOf? (t : CharSet) (n : Nat) : Option (Nat × Nat) :=
  findRange t.ranges n 0 t.ranges.size

/-- Whether the set holds the code point `n`. -/
def contains (t : CharSet) (n : Nat) : Bool := (t.rangeOf? n).isSome

end CharSet

/-- A per-character mapping: sorted entries from a code point to its image. -/
structure CaseTable where
  entries : Array (Nat × List Nat)

namespace CaseTable

/-- Reads entries `cp:m1 m2 …` in hexadecimal, separated by commas. -/
def ofHex (s : String) : CaseTable :=
  ⟨((s.splitOn ",").filter (· ≠ "")).toArray.map fun e =>
    match e.splitOn ":" with
    | [a, b] => (readHex a, ((b.splitOn " ").filter (· ≠ "")).map readHex)
    | _ => (readHex e, [readHex e])⟩

/-- The entry for `n`, searched between positions `lo` and `hi`. -/
def findEntry (es : Array (Nat × List Nat)) (n lo hi : Nat) : Option (List Nat) :=
  if lo < hi then
    let mid := (lo + hi) / 2
    let e := es.getD mid (0, [])
    if n < e.1 then findEntry es n lo mid
    else if e.1 < n then findEntry es n (mid + 1) hi
    else some e.2
  else none
termination_by hi - lo

/-- The image of a character: the table's entry, or the character itself. -/
def apply (t : CaseTable) (c : Char) : List Char :=
  match findEntry t.entries c.toNat 0 t.entries.size with
  | some img => img.map Char.ofNat
  | none => [c]

end CaseTable

end TransitKit.Text
