import TransitKit.Json.Literal
import TransitKit.Text.Digit
import TransitKit.Fault

/-!
# Brace templates

A template such as `/Line/{0}/Route/{1}` is filled with positional values. Text outside braces
is copied, doubled braces stand for single ones, and a field is replaced by a value written by
its conversion and laid out by its spec, whose own fields are filled first. Positions are
numbered or taken in turn but not both, and no keyword values are given. The template is read
left to right, so the first fault met is the one reported.
-/

namespace TransitKit.Template

open Text

/-- How the fields of a template are numbered so far. -/
inductive Numbering where
  | unset
  | automatic (next : Nat)
  | manual
deriving Repr, BEq, Inhabited

/-- A layout spec of a field. -/
structure Spec where
  fill : Option Char := none
  align : Option Char := none
  sign : Option Char := none
  noNegativeZero : Bool := false
  alternate : Bool := false
  width : Option Nat := none
  grouping : Option Char := none
  precision : Option Nat := none
  kind : Option Char := none
deriving Repr, Inhabited

/-- Whether a character is an alignment mark. -/
def isAlign (c : Char) : Bool := c == '<' || c == '>' || c == '=' || c == '^'

/-- Reads a run of decimal digits in any script. -/
def readNumber : List Char → Option Nat × List Char
  | cs =>
    let ds := cs.takeWhile fun c => (decimalValue? c).isSome
    if ds.isEmpty then (none, cs)
    else (some (ds.foldl (fun acc c => acc * 10 + (decimalValue? c).getD 0) 0), cs.drop ds.length)

/-- A bad value, the fault of a template that cannot be read. -/
def bad {α : Type} : Outcome α := .error (.plain .badValue)

/-- Reads a spec. `zeroAligns` says whether a leading zero also sets the `=` alignment,
as it does for numbers. -/
def Spec.parse? (s : List Char) (zeroAligns : Bool) : Outcome Spec := do
  let (fill, align, s) := match s with
    | f :: a :: rest => if isAlign a then (some f, some a, rest)
      else if isAlign f then (none, some f, a :: rest) else (none, none, s)
    | [a] => if isAlign a then (none, some a, []) else (none, none, s)
    | [] => (none, none, [])
  let (sign, s) := match s with
    | c :: rest => if c == '+' || c == '-' || c == ' ' then (some c, rest) else (none, s)
    | [] => (none, s)
  let (noNeg, s) := match s with
    | 'z' :: rest => (true, rest)
    | _ => (false, s)
  let (alt, s) := match s with
    | '#' :: rest => (true, rest)
    | _ => (false, s)
  let (fill, align, s) := match fill, s with
    | none, '0' :: rest => (some '0', (if align.isNone && zeroAligns then some '=' else align), rest)
    | _, _ => (fill, align, s)
  let (width, s) := readNumber s
  let (grouping, s) := match s with
    | ',' :: '_' :: _ => (some '!', s)
    | '_' :: ',' :: _ => (some '!', s)
    | ',' :: rest => (some ',', rest)
    | '_' :: rest => (some '_', rest)
    | _ => (none, s)
  if grouping == some '!' then bad
  let (precision, s) ← match s with
    | '.' :: rest =>
      match readNumber rest with
      | (some p, rest) => pure (some p, rest)
      | (none, _) => bad
    | _ => pure (none, s)
  let kind ← match s with
    | [] => pure none
    | [k] => pure (some k)
    | _ => bad
  match grouping, kind with
  | some _, none => pure ()
  | some _, some k =>
    if "defgEGF%".contains k then pure ()
    else if "boxX".contains k && grouping == some '_' then pure ()
    else bad
  | none, _ => pure ()
  return ⟨fill, align, sign, noNeg, alt, width, grouping, precision, kind⟩

/-- Pads a text of `n` characters to the spec's width: `lead` before it and `trail`
after it, by the alignment (`align` defaults to `dflt`). -/
def pad (sp : Spec) (dflt : Char) (body : String) : String :=
  let n := body.length
  let total := max n (sp.width.getD 0)
  let c := sp.fill.getD ' '
  let lead := match sp.align.getD dflt with
    | '>' => total - n
    | '^' => (total - n) / 2
    | _ => 0
  String.ofList (List.replicate lead c) ++ body ++ String.ofList (List.replicate (total - n - lead) c)

/-- Lays out a text by a spec. -/
def formatText (sp : Spec) (s : String) : Outcome String := do
  if sp.sign.isSome || sp.noNegativeZero || sp.alternate || sp.align == some '=' then bad
  if sp.grouping.isSome then bad
  match sp.kind with
  | none | some 's' => pure ()
  | _ => bad
  let s := match sp.precision with
    | some p => String.ofList (s.toList.take p)
    | none => s
  return pad sp '<' s

/-- Digits of a natural number in a base, lower-case. -/
def digitsIn (base n : Nat) : List Char := Nat.toDigits base n

/-- Groups digits from the right in groups of `size` with separator `sep`, padding with
zeros (and separators between them) until the grouped text is `minWidth` long. -/
def groupDigits (ds : List Char) (size : Nat) (sep : Char) (minWidth : Int) : List Char :=
  go ds.reverse minWidth [] false (ds.length + minWidth.toNat + 2)
where
  /-- Takes groups from `rest` (digits in reverse order), building the result from its
  right end. -/
  go (rest : List Char) (minW : Int) (acc : List Char) (useSep : Bool) : Nat → List Char
    | 0 => acc
    | fuel + 1 =>
      let remaining : Int := rest.length
      let l : Int := min size (max (max remaining minW) 1)
      let nChars := (max 0 (min remaining l)).toNat
      let nZeros := (max 0 (l - remaining)).toNat
      let group := (rest.take nChars).reverse
      let acc := List.replicate nZeros '0' ++ group ++ (if useSep then sep :: acc else acc)
      let rest := rest.drop nChars
      let minW := minW - l
      if rest.isEmpty && minW ≤ 0 then acc else go rest (minW - 1) acc true fuel

/-- Zero padding without grouping: zeros in front up to `minWidth` digits. -/
def zeroFill (ds : List Char) (minWidth : Int) : List Char :=
  List.replicate (minWidth.toNat - ds.length) '0' ++ ds

/-- Lays out sign, prefix and digits of a number: padding goes outside the sign for the
alignments `<`, `>` and `^`, and between prefix and digits for `=`. -/
def layoutNumber (sp : Spec) (signText prefixText : String) (ds : List Char)
    (groupSize : Nat) (remainder : String) : String :=
  let fill := sp.fill.getD ' '
  let align := sp.align.getD '>'
  let nonDigits := signText.length + prefixText.length + remainder.length
  let minWidth : Int := if fill == '0' && align == '=' then (sp.width.getD 0 : Int) - nonDigits else 0
  let digits := match sp.grouping with
    | some g => if ds.isEmpty then ds else groupDigits ds groupSize g minWidth
    | none => if ds.isEmpty then ds else zeroFill ds minWidth
  let used := nonDigits + digits.length
  let padding := (sp.width.getD 0) - used
  let rep (n : Nat) := String.ofList (List.replicate n fill)
  let (l, s, r) := match align with
    | '<' => (0, 0, padding)
    | '^' => (padding / 2, 0, padding - padding / 2)
    | '=' => (0, padding, 0)
    | _ => (padding, 0, 0)
  rep l ++ signText ++ prefixText ++ rep s ++ String.ofList digits ++ remainder ++ rep r

/-- The sign text of a number by the spec's sign option. -/
def signOf (sp : Spec) (negative : Bool) : String :=
  if negative then "-"
  else match sp.sign with
    | some '+' => "+"
    | some ' ' => " "
    | _ => ""

/-- Lays out an integer by a spec. -/
def formatInt (sp : Spec) (n : Int) : Outcome String := do
  if sp.precision.isSome || sp.noNegativeZero then bad
  let k := sp.kind.getD 'd'
  if k == 'c' then
    if sp.sign.isSome || sp.alternate then bad
    if n < 0 || n > 0x10FFFF then throw (.plain .overflow)
    return layoutNumber sp "" "" [] 3 (String.ofList [Char.ofNat n.toNat])
  let (base, pre) ← match k with
    | 'd' | 'n' => pure (10, "")
    | 'b' => pure (2, "0b")
    | 'o' => pure (8, "0o")
    | 'x' => pure (16, "0x")
    | 'X' => pure (16, "0X")
    | _ => bad
  let ds := digitsIn base n.natAbs
  let ds := if k == 'X' then ds.map Char.toUpper else ds
  let groupSize := if base == 10 then 3 else 4
  let sp := if k == 'n' then { sp with grouping := none } else sp
  return layoutNumber sp (signOf sp (n < 0)) (if sp.alternate then pre else "") ds groupSize ""

/-- Lays out a number with a fraction by a spec without type or precision: the
shortest text of its magnitude, whose leading digits are grouped and padded like an
integer's; the alternate form keeps a point after them. -/
def formatFloat (sp : Spec) (x : Float) : Outcome String := do
  if sp.kind.isSome || sp.precision.isSome then bad
  let t := Json.literal (.float x)
  let (neg, body) := match t.toList with
    | '-' :: rest => (true, rest)
    | cs => (false, cs)
  let ds := body.takeWhile Char.isDigit
  let tail := body.drop ds.length
  let tail := if sp.alternate && !ds.isEmpty && !tail.contains '.' then '.' :: tail else tail
  if ds.isEmpty then
    return layoutNumber { sp with grouping := none } (signOf sp neg) "" [] 3 (String.ofList tail)
  return layoutNumber sp (signOf sp neg) "" ds 3 (String.ofList tail)

/-- Lays out a value by a spec; the empty spec writes the plain text. -/
def formatValue (v : Json) (spec : List Char) : Outcome String :=
  if spec.isEmpty then pure v.text
  else match v with
    | .str s => do formatText (← Spec.parse? spec false) s
    | .int n => do formatInt (← Spec.parse? spec true) n
    | .bool b => do formatInt (← Spec.parse? spec true) (if b then 1 else 0)
    | .float x => do formatFloat (← Spec.parse? spec true) x
    | _ => .error (.plain .wrongShape)

/-- The literal of a value with every non-ASCII character escaped. -/
def asciiLiteral (v : Json) : String :=
  String.join (v.literal.toList.map fun c =>
    let n := c.toNat
    if n < 128 then String.ofList [c]
    else if n < 0x100 then "\\x" ++ hexPadded n 2
    else if n < 0x10000 then "\\u" ++ hexPadded n 4
    else "\\U" ++ hexPadded n 8)

/-- A value after a conversion mark. -/
def convert (v : Json) : Option Char → Outcome Json
  | none => pure v
  | some 'r' => pure (.str v.literal)
  | some 's' => pure (.str v.text)
  | some 'a' => pure (.str (asciiLiteral v))
  | some _ => bad

/-- Reads a position: decimal digits in any script. -/
def position? (name : List Char) : Option Nat :=
  if name.isEmpty then none
  else if name.all fun c => (decimalValue? c).isSome then (readNumber name).1 else none

/-- A named part of a value: the real and imaginary parts and the fraction parts of
numbers. Any other name is missing. -/
def namedPart (v : Json) (name : List Char) : Outcome Json :=
  match v, String.ofList name with
  | .int n, "real" | .int n, "numerator" => pure (.int n)
  | .int _, "imag" => pure (.int 0)
  | .int _, "denominator" => pure (.int 1)
  | .bool b, "real" | .bool b, "numerator" => pure (.int (if b then 1 else 0))
  | .bool _, "imag" => pure (.int 0)
  | .bool _, "denominator" => pure (.int 1)
  | .float x, "real" => pure (.float x)
  | .float _, "imag" => pure (.float 0)
  | _, _ => throw (.plain .noSuchMember)

/-- An item of a value: a position in a list or a text, or a key of an object. -/
def item (v : Json) (key : List Char) : Outcome Json :=
  match v, position? key with
  | .arr xs, some i => match xs[i]? with
    | some x => pure x
    | none => throw (.plain .outOfRange)
  | .str s, some i => match s.toList[i]? with
    | some c => pure (.str (String.ofList [c]))
    | none => throw (.plain .outOfRange)
  | .obj fs, none => match Json.lookup fs (String.ofList key) with
    | some x => pure x
    | none => throw (.plain .missingKey)
  | .obj _, some _ => throw (.plain .missingKey)
  | _, _ => throw (.plain .wrongShape)

/-- Where the reading of accessors stands: between two of them, inside a `.name`, or
inside a `[key]`, with the characters read so far in reverse. -/
inductive Accessing where
  | between
  | name (acc : List Char)
  | key (acc : List Char)

/-- Follows accessors from a reading state. A name ends at the next `.` or `[`, a key at
the next `]`; each is applied to the value as soon as it ends, so a missing part is
reported before a later accessor is found malformed. An empty name or key, a key
without its `]`, or anything else between accessors is malformed. -/
def accessFrom (v : Json) : Accessing → List Char → Outcome Json
  | .between, [] => pure v
  | .name acc, [] => if acc.isEmpty then bad else namedPart v acc.reverse
  | .key _, [] => bad
  | .between, c :: rest =>
    if c == '.' then accessFrom v (.name []) rest
    else if c == '[' then accessFrom v (.key []) rest
    else bad
  | .name acc, c :: rest =>
    if c == '.' || c == '[' then
      if acc.isEmpty then bad
      else do accessFrom (← namedPart v acc.reverse) (if c == '.' then .name [] else .key []) rest
    else accessFrom v (.name (c :: acc)) rest
  | .key acc, c :: rest =>
    if c == ']' then
      if acc.isEmpty then bad else do accessFrom (← item v acc.reverse) .between rest
    else accessFrom v (.key (c :: acc)) rest

/-- Follows the `.name` and `[key]` accessors after a field's first part. -/
def access (v : Json) (cs : List Char) : Outcome Json := accessFrom v .between cs

/-- The value a field name selects, updating the numbering. A first part of digits is a
position and an empty one the next position; any other first part is a keyword, and no
keyword values are given. -/
def select (args : List Json) (name : List Char) (num : Numbering) :
    Outcome (Json × Numbering) := do
  let first := name.takeWhile fun c => c != '.' && c != '['
  let (index, num) ← match position? first, first.isEmpty, num with
    | some i, _, .unset => pure (i, Numbering.manual)
    | some i, _, .manual => pure (i, Numbering.manual)
    | some _, _, .automatic _ => bad
    | none, true, .unset => pure (0, Numbering.automatic 1)
    | none, true, .automatic k => pure (k, Numbering.automatic (k + 1))
    | none, true, .manual => bad
    | none, false, _ => throw (.plain .missingKey)
  let v ← match args[index]? with
    | some v => pure v
    | none => throw (.plain .outOfRange)
  return (← access v (name.drop first.length), num)

/-- A field: its name, conversion mark, spec, and whether the spec holds fields. -/
structure Field where
  name : List Char
  conversion : Option Char
  spec : List Char
  nested : Bool

/-- Reads a field name up to `}`, `:` or `!`; text in square brackets is part of the
name whatever it holds. Gives the name, the character that ended it, and the rest. -/
def scanName : List Char → List Char → Bool → Outcome (List Char × Option Char × List Char)
  | [], acc, _ => pure (acc.reverse, none, [])
  | c :: rest, acc, true => scanName rest (c :: acc) (c != ']')
  | c :: rest, acc, false =>
    if c == '{' then bad
    else if c == '[' then scanName rest (c :: acc) true
    else if c == '}' || c == ':' || c == '!' then pure (acc.reverse, some c, rest)
    else scanName rest (c :: acc) false

/-- Reads a spec up to the brace that closes the field, braces nesting inside it. Gives
the spec, whether it holds fields, and the rest. -/
def scanSpec : List Char → List Char → Nat → Bool → Outcome (List Char × Bool × List Char)
  | [], _, _, _ => bad
  | c :: rest, acc, d, nested =>
    if c == '{' then scanSpec rest (c :: acc) (d + 1) true
    else if c == '}' then
      if d ≤ 1 then pure (acc.reverse, nested, rest) else scanSpec rest (c :: acc) (d - 1) nested
    else scanSpec rest (c :: acc) d nested

/-- Reads a field from the text after its `{`, with the text after it. -/
def readField (cs : List Char) : Outcome (Field × List Char) := do
  let (name, stop, rest) ← scanName cs [] false
  match stop, rest with
  | some '}', _ => pure (⟨name, none, [], false⟩, rest)
  | some ':', _ => do
    let (spec, nested, after) ← scanSpec rest [] 1 false
    pure (⟨name, none, spec, nested⟩, after)
  | some '!', c :: '}' :: after => pure (⟨name, some c, [], false⟩, after)
  | some '!', c :: ':' :: after => do
    let (spec, nested, after) ← scanSpec after [] 1 false
    pure (⟨name, some c, spec, nested⟩, after)
  | _, _ => bad

/-- Fills a template, reading it left to right; every step reads at least one
character, so `fuel` above the length suffices. `depth` is how many more levels of
fields inside specs may be filled. -/
def fillWith (args : List Json) (depth : Nat) : Nat → List Char → Numbering → List Char →
    Outcome (String × Numbering)
  | 0, _, num, out => pure (String.ofList out.reverse, num)
  | fuel + 1, cs, num, out =>
    match cs with
    | [] => pure (String.ofList out.reverse, num)
    | '{' :: '{' :: rest => fillWith args depth fuel rest num ('{' :: out)
    | '}' :: '}' :: rest => fillWith args depth fuel rest num ('}' :: out)
    | '}' :: _ => bad
    | '{' :: rest => do
      let (f, after) ← readField rest
      let (v, num) ← select args f.name num
      let v ← convert v f.conversion
      let (spec, num) ← if f.nested then
          match depth with
          | 0 => bad
          | d + 1 => do
            let (s, num) ← fillWith args d (f.spec.length + 1) f.spec num []
            pure (s.toList, num)
        else pure (f.spec, num)
      let s ← formatValue v spec
      fillWith args depth fuel after num (s.toList.reverse ++ out)
    | c :: rest => fillWith args depth fuel rest num (c :: out)
termination_by fuel => (depth, fuel)

/-- Fills a template with positional values. -/
def fill (template : String) (args : List Json) : Outcome String :=
  (fillWith args 1 (template.length + 1) template.toList .unset []).map (·.1)

end TransitKit.Template
