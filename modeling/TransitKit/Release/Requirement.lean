import TransitKit.Release.Version
import TransitKit.Text.WordChar
import TransitKit.Text.Pieces

/-!
# Dependency requirements

A requirement names a distribution, then optional extras in brackets, then either a URL or
version specifiers, then optionally an environment marker, with spaces and tabs between the
parts. A specifier is an operator and a version, read by the operator's own rules; a marker
compares environment variables and quoted texts with `and`, `or` and parentheses. Names and
keywords end at a word boundary.
-/

namespace TransitKit.Release

open Text

/-- A version specifier: operator and version text. -/
structure Specifier where
  operator : String
  version : String

/-- A requirement: the name as written and the specifiers in order. -/
structure Requirement where
  name : String
  specifiers : List Specifier

/-- A place in the text being read: the character before it, if any, and the rest. -/
structure Cursor where
  before : Option Char
  rest : List Char

/-- Moves past `n` characters. -/
def Cursor.advance (c : Cursor) (n : Nat) : Cursor :=
  if n == 0 then c else ⟨(c.rest.take n).getLast?.orElse fun _ => c.before, c.rest.drop n⟩

/-- Whether the cursor is at the end. -/
def Cursor.atEnd (c : Cursor) : Bool := c.rest.isEmpty

/-- A word boundary between two characters (a missing one counts as no word
character). -/
def boundary (a b : Option Char) : Bool :=
  (a.map isWordChar).getD false != (b.map isWordChar).getD false

/-- Skips spaces and tabs. -/
def Cursor.blanks (c : Cursor) : Cursor :=
  c.advance (c.rest.takeWhile fun ch => ch == ' ' || ch == '\t').length

/-- Moves past a fixed text, if it comes next. -/
def Cursor.literal (c : Cursor) (t : String) : Option Cursor :=
  if t.toList.isPrefixOf c.rest then some (c.advance t.length) else none

/-- Moves past a keyword that stands between word boundaries. -/
def Cursor.keyword (c : Cursor) (w : String) : Option Cursor :=
  if boundary c.before c.rest.head? && w.toList.isPrefixOf c.rest then
    let d := c.advance w.length
    if boundary d.before d.rest.head? then some d else none
  else none

/-! ## Names -/

/-- A character of a name after the first. -/
def isNameChar (c : Char) : Bool := c.isAlphanum || c == '.' || c == '_' || c == '-'

/-- A name: an ASCII letter or digit, then letters, digits, `.`, `_`, `-`, ending at a
word boundary; the longest such name is taken. -/
def Cursor.name (c : Cursor) : Option (String × Cursor) :=
  match c.rest with
  | first :: more =>
    if first.isAlphanum && boundary c.before (some first) then
      let run := first :: more.takeWhile isNameChar
      let ends := (List.range run.length).reverse.map (· + 1)
      ends.findSome? fun n =>
        let d := c.advance n
        if boundary d.before d.rest.head? then some (String.ofList (run.take n), d) else none
    else none
  | [] => none

/-! ## Specifiers -/

/-- The operators of specifiers, in the order they are tried. -/
def operators : List String := ["~=", "==", "!=", "<=", ">=", "<", ">", "==="]

/-- Drops a run of `[0-9]+` and returns whether there was one. -/
def digitsThen (cs : List Char) : Option (List Char) :=
  match cs with
  | c :: _ => if c.isDigit then some (cs.dropWhile Char.isDigit) else none
  | [] => none

/-- The labels a specifier's pre-release part may use, in the order they are tried. -/
def specPreLabels : List String := ["alpha", "beta", "preview", "pre", "a", "b", "c", "rc"]

/-- An optional lettered part of a specifier version: separator, label, separator,
digits. -/
def specLettered (labels : List String) (cs : List Char) : List Char :=
  match matchFirst labels (dropSeparator cs) with
  | some (_, r) => (dropSeparator r).dropWhile Char.isDigit
  | none => cs

/-- An optional post-release part of a specifier version. -/
def specPost (cs : List Char) : List Char :=
  match cs with
  | '-' :: c :: more => if c.isDigit then (c :: more).dropWhile Char.isDigit else specLettered postLabels cs
  | _ => specLettered postLabels cs

/-- The release of a specifier version with at least `least` numbers after the first. -/
def specRelease (least : Nat) (cs : List Char) : Option (List Char) := do
  let r ← digitsThen cs
  let (ns, r) := releaseRest r.length r
  if ns.length < least then none else some r

/-- The start of a specifier version: blanks, an optional `v`, an optional epoch. -/
def specStart (cs : List Char) : List Char :=
  let cs := cs.dropWhile isBlank
  let cs := match cs with
    | c :: r => if matchesLetter 'v' c then r else cs
    | [] => []
  match digitsThen cs with
  | some ('!' :: r) => r
  | _ => cs

/-- What follows the release in a specifier version that may carry a local label. -/
def specTail (allowLocal : Bool) (cs : List Char) : List Char :=
  let r := specLettered ["dev"] (specPost (specLettered specPreLabels cs))
  if allowLocal then
    match localPart r with
    | some (_, r') => r'
    | none => r
  else r

/-- The rest after the version of a specifier with the given operator, if the operator
admits a version here. -/
def specVersion (op : String) (cs : List Char) : Option (List Char) :=
  if op == "===" then
    some ((cs.dropWhile isBlank).dropWhile fun c => !(isBlank c || c == ';' || c == ')'))
  else if op == "==" || op == "!=" then do
    let r ← specRelease 0 (specStart cs)
    match r with
    | '.' :: '*' :: more => some more
    | _ => some (specTail true r)
  else if op == "~=" then do
    let r ← specRelease 1 (specStart cs)
    some (specTail false r)
  else do
    let r ← specRelease 0 (specStart cs)
    some (specTail false r)

/-- A specifier at the start of a text: the operator, the text of the version, and the
rest. The operators are tried in order, each with the version it admits. -/
def specifierAt (cs : List Char) : Option (String × List Char × List Char) :=
  operators.findSome? fun op =>
    if op.toList.isPrefixOf cs then
      let after := cs.drop op.length
      (specVersion op after).map fun r => (op, after.take (after.length - r.length), r)
    else none

/-- A specifier written alone, with blanks around it allowed. -/
def Specifier.parse? (s : String) : Option Specifier := do
  let (op, v, r) ← specifierAt (s.toList.dropWhile isBlank)
  if r.all isBlank then some ⟨op, stripBlanks (String.ofList v)⟩ else none

/-- The specifiers of a comma-separated list; each non-empty piece must be one. -/
def specifierList (s : String) : Option (List Specifier) :=
  ((splitAt ',' s).map stripBlanks |>.filter (!·.isEmpty)).mapM Specifier.parse?

/-- A local label right after a specifier, which only `==` and `!=` may carry. -/
def localTrail : List Char → Bool
  | '+' :: c :: _ => c.isDigit || c.isLower
  | _ => false

/-- The specifiers of a requirement, joined with commas as written, and the cursor after
them. A failure is a syntax error. -/
def Cursor.specifiers : Nat → String → Cursor → Option (String × Cursor)
  | 0, _, _ => none
  | fuel + 1, acc, c =>
    match specifierAt c.rest with
    | none => some (acc, c)
    | some (op, v, r) =>
      let c := c.advance (op.length + v.length)
      if ['.', '*'].isPrefixOf r || localTrail r then none
      else
        let c := c.blanks
        match c.literal "," with
        | some d => Cursor.specifiers fuel (acc ++ op ++ String.ofList v ++ ",") d.blanks
        | none => some (acc ++ op ++ String.ofList v, c)

/-! ## Markers -/

/-- Escapes of a string literal that are checked: `\x` with two hexadecimal digits, `\u`
with four, `\U` with eight naming a code point, and `\N` with a name in braces. -/
def escapeOk (cs : List Char) : Option (List Char) :=
  let hex (n : Nat) (r : List Char) : Option (List Char × Nat) :=
    let ds := r.take n
    if ds.length == n && ds.all fun d => (hexDigitValue? d).isSome then
      some (r.drop n, ds.foldl (fun acc d => acc * 16 + (hexDigitValue? d).getD 0) 0)
    else none
  match cs with
  | 'x' :: r => (hex 2 r).map (·.1)
  | 'u' :: r => (hex 4 r).map (·.1)
  | 'U' :: r => (hex 8 r).bind fun (r', v) => if v ≤ 0x10FFFF then some r' else none
  | 'N' :: '\x7b' :: r =>
    match r.dropWhile (· != '\x7d') with
    | _ :: r' => if (r.takeWhile (· != '\x7d')).isEmpty then none else some r'
    | [] => none
  | _ :: r => some r
  | [] => none

/-- Whether the body of a quoted text is a valid string literal body: no line break or
null character outside an escape, and valid escapes. -/
def literalBodyOk : Nat → List Char → Bool
  | 0, _ => false
  | _ + 1, [] => true
  | fuel + 1, '\\' :: r =>
    match r with
    | '\n' :: more => literalBodyOk fuel more
    | '\r' :: '\n' :: more => literalBodyOk fuel more
    | '\r' :: more => literalBodyOk fuel more
    | _ =>
      match escapeOk r with
      | some more => literalBodyOk fuel more
      | none => false
  | fuel + 1, c :: r => c != '\n' && c != '\r' && c.toNat != 0 && literalBodyOk fuel r

/-- A quoted text: `'...'` or `"..."` without its own quote inside, whose body is a
valid string literal body. -/
def Cursor.quoted (c : Cursor) : Option Cursor :=
  match c.rest with
  | q :: more =>
    if q == '\'' || q == '"' then
      let body := more.takeWhile (· != q)
      match more.dropWhile (· != q) with
      | _ :: _ => if literalBodyOk (body.length + 1) body then some (c.advance (body.length + 2)) else none
      | [] => none
    else none
  | [] => none

/-- The variables of the environment that markers may use. -/
def markerVariables : List String :=
  ["python_version", "python_full_version", "os.name", "os_name", "sys.platform",
    "sys_platform", "platform_release", "platform_system", "platform.version",
    "platform_version", "platform.machine", "platform_machine",
    "platform.python_implementation", "platform_python_implementation",
    "python_implementation", "implementation_name", "implementation_version", "extras",
    "extra", "dependency_groups"]

/-- A marker variable or a quoted text. -/
def Cursor.markerValue (c : Cursor) : Option Cursor :=
  match markerVariables.findSome? c.keyword with
  | some d => some d
  | none => c.quoted

/-- A marker operator: `in`, `not in`, or a comparison. -/
def Cursor.markerOp (c : Cursor) : Option Cursor :=
  match c.keyword "in" with
  | some d => some d
  | none =>
    match c.keyword "not" with
    | some d =>
      let e := d.blanks
      if e.rest.length == d.rest.length then none else e.keyword "in"
    | none => ["===", "==", "~=", "!=", "<=", ">=", "<", ">"].findSome? c.literal

mutual
/-- A marker: atoms joined by `and` and `or`. -/
def Cursor.marker : Nat → Cursor → Option Cursor
  | 0, _ => none
  | fuel + 1, c => do
    let c ← Cursor.markerAtom fuel c
    Cursor.markerMore fuel c

/-- Further atoms of a marker, each after `and` or `or`. -/
def Cursor.markerMore : Nat → Cursor → Option Cursor
  | 0, _ => none
  | fuel + 1, c =>
    match (c.keyword "or").orElse fun _ => c.keyword "and" with
    | some d => do
      let d ← Cursor.markerAtom fuel d
      Cursor.markerMore fuel d
    | none => some c

/-- A marker atom: a marker in parentheses, or a comparison. -/
def Cursor.markerAtom : Nat → Cursor → Option Cursor
  | 0, _ => none
  | fuel + 1, c =>
    let c := c.blanks
    match c.literal "(" with
    | some d => do
      let d ← Cursor.marker fuel d.blanks
      let d ← d.blanks.literal ")"
      some d.blanks
    | none => do
      let d ← c.markerValue
      let d ← d.blanks.markerOp
      let d ← d.blanks.markerValue
      some d.blanks
end

/-! ## Requirements -/

/-- Extras in brackets: names separated by commas. -/
def Cursor.extras (c : Cursor) : Option Cursor :=
  match c.literal "[" with
  | none => some c
  | some d =>
    let d := d.blanks
    let afterList : Option Cursor :=
      match d.name with
      | none => some d
      | some (_, e) => extrasRest (e.rest.length + 1) e
    afterList.bind fun e => e.blanks.literal "]"
where
  /-- The further extras, each after a comma. -/
  extrasRest : Nat → Cursor → Option Cursor
    | 0, _ => none
    | fuel + 1, e =>
      let e := e.blanks
      if e.name.isSome then none
      else
        match e.literal "," with
        | none => some e
        | some f => do
          let (_, g) ← f.blanks.name
          extrasRest fuel g

/-- The marker after a requirement, starting at `;`. -/
def Cursor.requirementMarker (c : Cursor) : Option Cursor := do
  let d ← c.literal ";"
  let d ← Cursor.marker (2 * d.rest.length + 4) d
  some d.blanks

/-- Reads a requirement. The text should have no blanks at its ends. -/
def Requirement.parse? (s : String) : Option Requirement := do
  let c : Cursor := ⟨none, s.toList⟩
  let (name, c) ← c.blanks.name
  let c ← c.blanks.extras
  let c := c.blanks
  let (specs, c) ← match c.literal "@" with
    | some d => do
      let d := d.blanks
      let url := d.rest.takeWhile fun ch => ch != ' ' && ch != '\t'
      if url.isEmpty then none
      let d := d.advance url.length
      if d.atEnd then some ("", d)
      else
        let e := d.blanks
        if e.rest.length == d.rest.length then none
        else if e.atEnd then some ("", e)
        else (e.requirementMarker).map fun f => ("", f)
    | none => do
      let (paren, d) := match c.literal "(" with
        | some d => (true, d)
        | none => (false, c)
      let (specs, d) ← Cursor.specifiers (d.rest.length + 1) "" d.blanks
      let d := d.blanks
      let d ← if paren then d.literal ")" else some d
      let d := d.blanks
      if d.atEnd then some (specs, d)
      else (d.requirementMarker).map fun f => (specs, f)
  if !c.atEnd then none
  let specifiers ← specifierList specs
  some ⟨name, specifiers⟩

theorem Cursor.advance_zero (c : Cursor) : c.advance 0 = c := by
  simp [Cursor.advance]

end TransitKit.Release
