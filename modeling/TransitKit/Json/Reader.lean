import TransitKit.Json.Value
import TransitKit.Text.CharSet
import TransitKit.Text.CodePoint

/-!
# Reading JSON text

The reader accepts the JSON grammar with the choices of the runtime: `NaN` and the infinities
are doubles, a number without fraction or exponent is an integer of any size, escaped
surrogates pair up or stand alone, a key written twice keeps its first position and its last
value, and the text is one value with blanks around it and no byte-order mark. The reader works
on the list of characters with fuel four times its length, which bounds every chain of calls.
-/

namespace TransitKit

namespace JsonReader

open Text

/-- A JSON blank. -/
def isJsonBlank (c : Char) : Bool := c == ' ' || c == '\t' || c == '\n' || c == '\r'

/-- Drops JSON blanks from the front. -/
def skipBlanks (cs : List Char) : List Char := cs.dropWhile isJsonBlank

/-- Reads a run of ASCII digits: the digits and the rest. -/
def takeDigits (cs : List Char) : List Char × List Char :=
  (cs.takeWhile Char.isDigit, cs.dropWhile Char.isDigit)

/-- The value of a run of ASCII digits. -/
def digitsValue (ds : List Char) : Nat :=
  ds.foldl (fun acc d => acc * 10 + (d.toNat - '0'.toNat)) 0

/-- The double nearest to `m · 10^e`. -/
def scientific (m : Nat) (e : Int) : Float :=
  if 0 ≤ e then Float.ofScientific m false e.toNat else Float.ofScientific m true (-e).toNat

/-- Reads a number: `-?(0|[1-9][0-9]*)(\.[0-9]+)?([eE][-+]?[0-9]+)?`. -/
def readNumber (cs : List Char) : Option (Json × List Char) := do
  let (neg, cs) := match cs with
    | '-' :: r => (true, r)
    | r => (false, r)
  let (intDigits, rest) ← match cs with
    | '0' :: r => some (['0'], r)
    | c :: _ => if '1' ≤ c ∧ c ≤ '9' then some (takeDigits cs) else none
    | [] => none
  let (fracDigits, rest) := match rest with
    | '.' :: d :: r => if d.isDigit then takeDigits (d :: r) else ([], rest)
    | _ => ([], rest)
  let (expPart, rest) : Option Int × List Char := match rest with
    | e :: r =>
      if e == 'e' || e == 'E' then
        let (sgn, r') := match r with
          | '+' :: t => (1, t)
          | '-' :: t => (-1, t)
          | t => (1, t)
        match takeDigits r' with
        | ([], _) => (none, rest)
        | (ds, r'') => (some (sgn * (digitsValue ds : Int)), r'')
      else (none, rest)
    | [] => (none, rest)
  if fracDigits.isEmpty && expPart.isNone then
    let n : Int := digitsValue intDigits
    return (.int (if neg then -n else n), rest)
  else
    let m := digitsValue (intDigits ++ fracDigits)
    let e := expPart.getD 0 - fracDigits.length
    let x := scientific m e
    return (.float (if neg then -x else x), rest)

/-- Reads exactly four hex digits. -/
def readHex4 : List Char → Option (Nat × List Char)
  | a :: b :: c :: d :: rest => do
    let va ← hexDigitValue? a
    let vb ← hexDigitValue? b
    let vc ← hexDigitValue? c
    let vd ← hexDigitValue? d
    return (((va * 16 + vb) * 16 + vc) * 16 + vd, rest)
  | _ => none

/-- The character of a `\u` escape; a high surrogate pairs with a following low one.
A surrogate left alone is kept as a lone surrogate. -/
def unicodeEscape (cs : List Char) : Option (Char × List Char) := do
  let (u, rest) ← readHex4 cs
  if 0xD800 ≤ u ∧ u ≤ 0xDBFF then
    match rest with
    | '\\' :: 'u' :: more =>
      match readHex4 more with
      | some (l, rest') =>
        if 0xDC00 ≤ l ∧ l ≤ 0xDFFF then
          return (Char.ofNat (0x10000 + (u - 0xD800) * 0x400 + (l - 0xDC00)), rest')
        else return (Text.loneSurrogate u, rest)
      | none => return (Text.loneSurrogate u, rest)
    | _ => return (Text.loneSurrogate u, rest)
  else if 0xDC00 ≤ u ∧ u ≤ 0xDFFF then return (Text.loneSurrogate u, rest)
  else return (Char.ofNat u, rest)

/-- Reads the body of a text after its opening quote, collecting characters in
reverse into `acc`. -/
def readTextBody : List Char → List Char → Option (String × List Char)
  | [], _ => none
  | '"' :: rest, acc => some (String.ofList acc.reverse, rest)
  | '\\' :: c :: rest, acc =>
    match c with
    | '"' => readTextBody rest ('"' :: acc)
    | '\\' => readTextBody rest ('\\' :: acc)
    | '/' => readTextBody rest ('/' :: acc)
    | 'b' => readTextBody rest ('\x08' :: acc)
    | 'f' => readTextBody rest ('\x0c' :: acc)
    | 'n' => readTextBody rest ('\n' :: acc)
    | 'r' => readTextBody rest ('\r' :: acc)
    | 't' => readTextBody rest ('\t' :: acc)
    | 'u' =>
      match unicodeEscape rest with
      | some (ch, rest') =>
        -- the escape consumed at least four characters
        if rest'.length < rest.length then readTextBody rest' (ch :: acc) else none
      | none => none
    | _ => none
  | '\\' :: [], _ => none
  | c :: rest, acc => if c.toNat < 0x20 then none else readTextBody rest (c :: acc)
termination_by cs => cs.length

mutual
/-- Reads one value after blanks. -/
def readValue : Nat → List Char → Option (Json × List Char)
  | 0, _ => none
  | fuel + 1, cs =>
    match skipBlanks cs with
    | '{' :: rest => readObject fuel (skipBlanks rest)
    | '[' :: rest => readArray fuel (skipBlanks rest)
    | '"' :: rest => (readTextBody rest []).map fun (s, r) => (.str s, r)
    | 'n' :: 'u' :: 'l' :: 'l' :: rest => some (.null, rest)
    | 't' :: 'r' :: 'u' :: 'e' :: rest => some (.bool true, rest)
    | 'f' :: 'a' :: 'l' :: 's' :: 'e' :: rest => some (.bool false, rest)
    | 'N' :: 'a' :: 'N' :: rest => some (.float (0.0 / 0.0), rest)
    | 'I' :: 'n' :: 'f' :: 'i' :: 'n' :: 'i' :: 't' :: 'y' :: rest => some (.float (1.0 / 0.0), rest)
    | '-' :: 'I' :: 'n' :: 'f' :: 'i' :: 'n' :: 'i' :: 't' :: 'y' :: rest =>
      some (.float (-1.0 / 0.0), rest)
    | other => readNumber other

/-- Reads the items of an array after `[` and blanks. -/
def readArray : Nat → List Char → Option (Json × List Char)
  | 0, _ => none
  | fuel + 1, cs =>
    match cs with
    | ']' :: rest => some (.arr [], rest)
    | _ => (readItems fuel cs []).map fun (xs, r) => (.arr xs, r)

/-- Reads items and their separators up to the closing `]`. -/
def readItems : Nat → List Char → List Json → Option (List Json × List Char)
  | 0, _, _ => none
  | fuel + 1, cs, acc => do
    let (v, rest) ← readValue fuel cs
    match skipBlanks rest with
    | ']' :: rest' => some ((v :: acc).reverse, rest')
    | ',' :: rest' => readItems fuel rest' (v :: acc)
    | _ => none

/-- Reads the members of an object after `{` and blanks. -/
def readObject : Nat → List Char → Option (Json × List Char)
  | 0, _ => none
  | fuel + 1, cs =>
    match cs with
    | '}' :: rest => some (.obj [], rest)
    | _ => (readMembers fuel cs []).map fun (fs, r) => (.obj fs, r)

/-- Reads `"key": value` members and their separators up to the closing `}`. -/
def readMembers : Nat → List Char → List (String × Json) →
    Option (List (String × Json) × List Char)
  | 0, _, _ => none
  | fuel + 1, cs, acc => do
    let (k, rest) ← match skipBlanks cs with
      | '"' :: r => readTextBody r []
      | _ => none
    let rest ← match skipBlanks rest with
      | ':' :: r => some r
      | _ => none
    let (v, rest) ← readValue fuel rest
    let acc := Json.setField acc k v
    match skipBlanks rest with
    | '}' :: rest' => some (acc, rest')
    | ',' :: rest' => readMembers fuel rest' acc
    | _ => none
end

end JsonReader

namespace Json

/-- Reads a whole JSON text: one value with blanks around it. -/
def parse? (s : String) : Option Json :=
  let cs := s.toList
  if cs.head? == some (Char.ofNat 0xFEFF) then none
  else
    match JsonReader.readValue (4 * (cs.length + 1)) cs with
    | some (v, rest) => if (JsonReader.skipBlanks rest).isEmpty then some v else none
    | none => none

end Json

end TransitKit
