import TransitKit.Json.Reader

/-!
# Why JSON text cannot be read

The reader only says whether a text is JSON. Scripts print the reason, so this module finds the
first fault of a text as a left-to-right scanner reports it, with its position in characters:
a missing value, a missing name, colon or comma, an unterminated text, a raw control character,
a bad escape, extra data after the value, or a byte-order mark. A number is read as far as it
goes. The text of a fault gives its line and column, both counted from one.
-/

namespace TransitKit.JsonReader

/-- A fault of a JSON text: what was expected or found, and where. -/
structure DecodeError where
  message : String
  pos : Nat
deriving Repr, Inhabited

/-- Where a scan stands: the position and the characters from there on. -/
abbrev Scanned := Except DecodeError (Nat × List Char)

/-- Skips JSON blanks, counting the position. -/
def skipCounted (i : Nat) : List Char → Nat × List Char
  | c :: rest => if isJsonBlank c then skipCounted (i + 1) rest else (i, c :: rest)
  | [] => (i, [])

/-- Whether a character is a hexadecimal digit. -/
def isHexDigit (c : Char) : Bool :=
  c.isDigit || ('a' ≤ c && c ≤ 'f') || ('A' ≤ c && c ≤ 'F')

/-- The value of four hexadecimal digits. -/
def hex4 (a b c d : Char) : Option Nat :=
  if isHexDigit a && isHexDigit b && isHexDigit c && isHexDigit d then
    let v (x : Char) : Nat :=
      if x.isDigit then x.toNat - '0'.toNat
      else if x ≤ 'F' then x.toNat - 'A'.toNat + 10 else x.toNat - 'a'.toNat + 10
    some (((v a * 16 + v b) * 16 + v c) * 16 + v d)
  else none

/-- What follows the escape of a high surrogate whose `u` stands at `i`: the length of
an escaped low surrogate after it (6), none (0), or the fault of a broken second
escape. -/
def lowEscapeLength (i : Nat) : List Char → Except DecodeError Nat
  | '\\' :: 'u' :: e :: f :: g :: h :: _ :: _ =>
    match hex4 e f g h with
    | none => .error ⟨"Invalid \\uXXXX escape", i + 6⟩
    | some w => .ok (if 0xDC00 ≤ w ∧ w ≤ 0xDFFF then 6 else 0)
  | _ => .ok 0

/-- Scans the body of a text whose opening quote stands at `begin`; `i` is the position
of the first character of `cs`. -/
def scanText (begin i : Nat) (cs : List Char) : Scanned :=
  match cs with
  | [] => .error ⟨"Unterminated string starting at", begin⟩
  | '"' :: rest => .ok (i + 1, rest)
  | '\\' :: [] => .error ⟨"Unterminated string starting at", begin⟩
  | '\\' :: 'u' :: a :: b :: c :: d :: e :: after =>
    match hex4 a b c d with
    | none => .error ⟨"Invalid \\uXXXX escape", i + 1⟩
    | some v =>
      if 0xD800 ≤ v ∧ v ≤ 0xDBFF then
        match lowEscapeLength (i + 1) (e :: after) with
        | .error err => .error err
        | .ok n => scanText begin (i + 6 + n) ((e :: after).drop n)
      else scanText begin (i + 6) (e :: after)
  | '\\' :: 'u' :: _ => .error ⟨"Invalid \\uXXXX escape", i + 1⟩
  | '\\' :: c :: more =>
    if "\"\\/bfnrt".contains c then scanText begin (i + 2) more
    else .error ⟨"Invalid \\escape", i⟩
  | c :: rest =>
    if c.toNat ≤ 0x1F then .error ⟨"Invalid control character at", i⟩
    else scanText begin (i + 1) rest
termination_by cs.length
decreasing_by all_goals simp_all <;> omega

/-- Skips a run of ASCII digits, counting the position. -/
def skipDigits (i : Nat) (cs : List Char) : Nat × List Char :=
  let ds := cs.takeWhile Char.isDigit
  (i + ds.length, cs.drop ds.length)

/-- The exponent part of a number at `i`, or nothing when no digit follows `e` and its
sign. -/
def scanExponent (i : Nat) (cs : List Char) : Nat × List Char :=
  match cs with
  | e :: r@(_ :: _) =>
    if e == 'e' || e == 'E' then
      let (j, r) := match r with
        | s :: r'@(_ :: _) => if s == '-' || s == '+' then (i + 2, r') else (i + 1, r)
        | _ => (i + 1, r)
      let (k, r) := skipDigits j r
      if k > j then (k, r) else (i, cs)
    else (i, cs)
  | _ => (i, cs)

/-- Scans a number starting at `i`; where none starts, a value was expected. -/
def scanNumber (i : Nat) (cs : List Char) : Scanned := do
  let (j, cs) := match cs with
    | '-' :: r => (i + 1, r)
    | r => (i, r)
  let (j, cs) ← match cs with
    | '0' :: r => pure (j + 1, r)
    | c :: r =>
      if '1' ≤ c && c ≤ '9' then pure (skipDigits (j + 1) r)
      else throw ⟨"Expecting value", i⟩
    | [] => throw ⟨"Expecting value", i⟩
  let (j, cs) := match cs with
    | '.' :: d :: r => if d.isDigit then skipDigits (j + 2) r else (j, cs)
    | _ => (j, cs)
  return scanExponent j cs

mutual
/-- Scans one value starting at `i`. -/
def scanValue : Nat → Nat → List Char → Scanned
  | 0, i, _ => .error ⟨"Expecting value", i⟩
  | fuel + 1, i, cs =>
    match cs with
    | '"' :: rest => scanText i (i + 1) rest
    | '{' :: rest =>
      let (j, rest) := skipCounted (i + 1) rest
      match rest with
      | '}' :: r => .ok (j + 1, r)
      | _ => scanMembers fuel j rest
    | '[' :: rest =>
      let (j, rest) := skipCounted (i + 1) rest
      match rest with
      | ']' :: r => .ok (j + 1, r)
      | _ => scanItems fuel j rest
    | 'n' :: 'u' :: 'l' :: 'l' :: rest => .ok (i + 4, rest)
    | 't' :: 'r' :: 'u' :: 'e' :: rest => .ok (i + 4, rest)
    | 'f' :: 'a' :: 'l' :: 's' :: 'e' :: rest => .ok (i + 5, rest)
    | 'N' :: 'a' :: 'N' :: rest => .ok (i + 3, rest)
    | 'I' :: 'n' :: 'f' :: 'i' :: 'n' :: 'i' :: 't' :: 'y' :: rest => .ok (i + 8, rest)
    | '-' :: 'I' :: 'n' :: 'f' :: 'i' :: 'n' :: 'i' :: 't' :: 'y' :: rest => .ok (i + 9, rest)
    | _ => scanNumber i cs

/-- Scans the items of an array from the first one to the closing bracket. -/
def scanItems : Nat → Nat → List Char → Scanned
  | 0, i, _ => .error ⟨"Expecting value", i⟩
  | fuel + 1, i, cs => do
    let (j, rest) ← scanValue fuel i cs
    let (j, rest) := skipCounted j rest
    match rest with
    | ']' :: r => .ok (j + 1, r)
    | ',' :: r =>
      let (k, r) := skipCounted (j + 1) r
      scanItems fuel k r
    | _ => .error ⟨"Expecting ',' delimiter", j⟩

/-- Scans the members of an object from the first key to the closing brace. -/
def scanMembers : Nat → Nat → List Char → Scanned
  | 0, i, _ => .error ⟨"Expecting value", i⟩
  | fuel + 1, i, cs => do
    let (j, rest) ← match cs with
      | '"' :: r => scanText i (i + 1) r
      | _ => .error ⟨"Expecting property name enclosed in double quotes", i⟩
    let (j, rest) := skipCounted j rest
    let (j, rest) ← match rest with
      | ':' :: r => pure (skipCounted (j + 1) r)
      | _ => .error ⟨"Expecting ':' delimiter", j⟩
    let (j, rest) ← scanValue fuel j rest
    let (j, rest) := skipCounted j rest
    match rest with
    | '}' :: r => .ok (j + 1, r)
    | ',' :: r =>
      let (k, r) := skipCounted (j + 1) r
      scanMembers fuel k r
    | _ => .error ⟨"Expecting ',' delimiter", j⟩
end

/-- The first fault of a text read as one JSON value with blanks around it. -/
def decodeError? (s : String) : Option DecodeError :=
  let cs := s.toList
  if cs.head? == some (Char.ofNat 0xFEFF) then
    some ⟨"Unexpected UTF-8 BOM (decode using utf-8-sig)", 0⟩
  else
    let (i, rest) := skipCounted 0 cs
    match scanValue (4 * (cs.length + 1)) i rest with
    | .error e => some e
    | .ok (j, rest) =>
      let (k, rest) := skipCounted j rest
      if rest.isEmpty then none else some ⟨"Extra data", k⟩

/-- The printed text of a fault of a text: the message, then the line and column of its
position, counted from one, and the position itself. -/
def DecodeError.render (s : String) (e : DecodeError) : String :=
  let before := s.toList.take e.pos
  let line := before.count '\n' + 1
  let column := (before.reverse.takeWhile (· != '\n')).length + 1
  e.message ++ ": line " ++ toString line ++ " column " ++ toString column ++
    " (char " ++ toString e.pos ++ ")"

/-- The printed text of the first fault of a text that is not JSON. -/
def faultText (s : String) : String :=
  (decodeError? s).elim "Expecting value: line 1 column 1 (char 0)" (·.render s)

theorem skipCounted_nil (i : Nat) : skipCounted i [] = (i, []) := rfl

end TransitKit.JsonReader
