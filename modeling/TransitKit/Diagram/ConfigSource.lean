import TransitKit.Typing.Expression

/-!
# Endpoints of client configuration source

A client's configuration module assigns to `endpoints` a dictionary with one entry per
operation, whose text `model` names the operation's model. The source is cut into tokens as the
language's tokenizer does, with line ends, indents, dedents and decoded text literals, and read
as simple statements and compound statements whose blocks hold statements one level deeper.
Every assignment of a dictionary display to `endpoints` gives the texts under the key `model` in
the dictionary displays among its values; assignments are taken level by level, outermost first
and in order within a level, and the last one that gives a model wins. Source that does not
read gives nothing.
-/

namespace TransitKit.Diagram

open Typing

/-- What kind of value a text literal is. -/
inductive TextKind where
  | plain
  | bytes
  | formatted
deriving BEq, Repr, Inhabited

/-- A token of module source. -/
inductive SourceToken where
  | name (s : String)
  | number
  | text (kind : TextKind) (value : String)
  | op (s : String)
  | newline
  | indent
  | dedent
deriving BEq, Repr, Inhabited

/-- The value of an octal or hexadecimal digit run. -/
def digitsValue (base : Nat) (ds : List Char) : Nat :=
  ds.foldl (fun n d => n * base + ((Text.hexDigitValue? d).getD 0)) 0

/-- The characters of a literal body after escapes are replaced; `none` when an escape
is malformed. The fuel bounds the steps, each of which consumes a character. -/
def unescape : Nat → List Char → Option (List Char)
  | 0, _ => none
  | _ + 1, [] => some []
  | fuel + 1, '\\' :: c :: rest =>
    let more := unescape fuel
    if c == '\n' then more rest
    else if c == '\\' || c == '\'' || c == '"' then (c :: ·) <$> more rest
    else if c == 'a' then (Char.ofNat 7 :: ·) <$> more rest
    else if c == 'b' then (Char.ofNat 8 :: ·) <$> more rest
    else if c == 'f' then (Char.ofNat 12 :: ·) <$> more rest
    else if c == 'n' then ('\n' :: ·) <$> more rest
    else if c == 'r' then ('\r' :: ·) <$> more rest
    else if c == 't' then ('\t' :: ·) <$> more rest
    else if c == 'v' then (Char.ofNat 11 :: ·) <$> more rest
    else if '0' ≤ c && c ≤ '7' then
      let ds := (c :: rest).takeWhile (fun d => '0' ≤ d && d ≤ '7') |>.take 3
      (Char.ofNat (digitsValue 8 ds) :: ·) <$> more ((c :: rest).drop ds.length)
    else if c == 'x' || c == 'u' || c == 'U' then
      let width := if c == 'x' then 2 else if c == 'u' then 4 else 8
      let ds := rest.take width
      if ds.length == width && ds.all (fun d => (Text.hexDigitValue? d).isSome) then
        let n := digitsValue 16 ds
        if n > 0x10FFFF then none else (Char.ofNat n :: ·) <$> more (rest.drop width)
      else none
    else ('\\' :: ·) <$> more (c :: rest)
  | fuel + 1, c :: rest => (c :: ·) <$> unescape fuel rest

/-- The token of a text literal whose prefix (in lower case) has been read and whose
opening quote starts `cs`, with the rest after it; `none` when it is malformed. -/
def readText (pfx : String) (cs : List Char) : Option (SourceToken × List Char) := do
  let rest ← quotedRest cs
  let whole := cs.take (cs.length - rest.length)
  let q := match cs with
    | a :: b :: c :: _ => if a == b && b == c then 3 else 1
    | _ => 1
  let body := (whole.drop q).take (whole.length - 2 * q)
  let kind := if pfx.contains 'b' then TextKind.bytes
    else if pfx.contains 'f' then .formatted else .plain
  let value ← if pfx.contains 'r' then some body
    else if kind == .bytes then some body
    else unescape (body.length + 1) body
  return (.text kind (String.ofList value), rest)

/-- The state of the tokenizer: the depth of open brackets, whether a line is starting,
the stack of indentation columns, and the tokens so far, last first. -/
structure LexState where
  depth : Nat := 0
  lineStart : Bool := true
  indents : List Nat := [0]
  tokens : List SourceToken := []

/-- The column after the indentation at the start of a line: a tab moves to the next
multiple of eight, a form feed back to the start. -/
def indentColumn : List Char → Nat → Nat × List Char
  | ' ' :: rest, n => indentColumn rest (n + 1)
  | '\t' :: rest, n => indentColumn rest ((n / 8 + 1) * 8)
  | '\x0c' :: rest, _ => indentColumn rest 0
  | cs, n => (n, cs)

/-- The rest of a line after a comment or blanks, without its line end. -/
def restOfLine (cs : List Char) : List Char := cs.dropWhile fun d => d != '\n' && d != '\r'

/-- The rest after one line end at the front, if there is one. -/
def afterLineEnd : List Char → List Char
  | '\r' :: '\n' :: rest => rest
  | '\n' :: rest => rest
  | '\r' :: rest => rest
  | cs => cs

/-- Closes the source: a line end after the last line, and a dedent for every open
indentation. -/
def LexState.close (s : LexState) : List SourceToken :=
  let ts := match s.tokens with
    | [] => []
    | .newline :: _ => s.tokens
    | _ => .newline :: s.tokens
  (ts.reverse ++ (s.indents.filter (· > 0)).map fun _ => .dedent)

/-- The tokens of module source, with fuel bounding the steps. -/
def lexSourceWith : Nat → List Char → LexState → Option (List SourceToken)
  | 0, _, _ => none
  | fuel + 1, cs, s =>
    if s.lineStart && s.depth == 0 then
      let (col, rest) := indentColumn cs 0
      match rest with
      | [] => some s.close
      | c :: _ =>
        if c == '#' then lexSourceWith fuel (afterLineEnd (restOfLine rest)) s
        else if c == '\n' || c == '\r' then lexSourceWith fuel (afterLineEnd rest) s
        else
          let top := s.indents.headD 0
          if col > top then
            let s := { s with lineStart := false, indents := col :: s.indents }
            lexSourceWith fuel rest { s with tokens := .indent :: s.tokens }
          else if col == top then lexSourceWith fuel rest { s with lineStart := false }
          else
            let kept := s.indents.dropWhile (· > col)
            if kept.headD 0 != col then none
            else
              let dedents := (s.indents.length - kept.length).fold (fun _ _ acc => .dedent :: acc) s.tokens
              lexSourceWith fuel rest { s with lineStart := false, indents := kept, tokens := dedents }
    else
      match cs with
      | [] => if s.depth > 0 then none else some s.close
      | c :: rest =>
        if c == ' ' || c == '\t' || c == '\x0c' then lexSourceWith fuel rest s
        else if c == '\n' || c == '\r' then
          if s.depth > 0 then lexSourceWith fuel (afterLineEnd cs) s
          else
            let s := { s with lineStart := true, tokens := .newline :: s.tokens }
            lexSourceWith fuel (afterLineEnd cs) s
        else if c == '#' then lexSourceWith fuel (restOfLine rest) s
        else if c == '\\' then
          match rest with
          | '\n' :: more => lexSourceWith fuel more s
          | '\r' :: '\n' :: more => lexSourceWith fuel more s
          | _ => none
        else if c == '\'' || c == '"' then do
          let (t, r) ← readText "" cs
          lexSourceWith fuel r { s with tokens := t :: s.tokens }
        else if isNameStart c then
          let word := c :: rest.takeWhile isNameChar
          let after := rest.dropWhile isNameChar
          let lower := String.ofList (word.map Char.toLower)
          match after with
          | q :: _ =>
            if (q == '\'' || q == '"') && literalPrefixes.contains lower then do
              let (t, r) ← readText lower after
              lexSourceWith fuel r { s with tokens := t :: s.tokens }
            else lexSourceWith fuel after { s with tokens := .name (String.ofList word) :: s.tokens }
          | [] => lexSourceWith fuel after { s with tokens := .name (String.ofList word) :: s.tokens }
        else if c.isDigit || (c == '.' && rest.head?.any Char.isDigit) then do
          let r ← numberRest cs
          lexSourceWith fuel r { s with tokens := .number :: s.tokens }
        else
          match operators.find? fun o => o.toList.isPrefixOf cs with
          | some o =>
            let after := cs.drop o.length
            let s := { s with tokens := .op o :: s.tokens }
            if o == "(" || o == "[" || o == "\x7b" then lexSourceWith fuel after { s with depth := s.depth + 1 }
            else if o == ")" || o == "]" || o == "\x7d" then
              if s.depth == 0 then none else lexSourceWith fuel after { s with depth := s.depth - 1 }
            else lexSourceWith fuel after s
          | none => none

/-- The tokens of module source, or `none` when it does not tokenize. -/
def lexSource (src : String) : Option (List SourceToken) :=
  lexSourceWith (2 * src.length + 2) src.toList {}

/-- The expression token a source token reads as, if it is one. -/
def SourceToken.plain : SourceToken → Option Token
  | .name s => some (.name s)
  | .number => some .number
  | .text _ _ => some .literal
  | .op o => some (.op o)
  | _ => none

/-- Whether tokens are a list of expressions, as the right side of an assignment or an
expression statement is. -/
def isExpressionList (ts : List SourceToken) : Bool :=
  match ts.mapM SourceToken.plain with
  | some plain =>
    !plain.isEmpty && match Grammar.expressions (20 * (plain.length + 2)) plain with
      | some rest => rest.isEmpty
      | none => false
  | none => false

/-- The change of bracket depth a token makes. -/
def SourceToken.opens : SourceToken → Int
  | .op "(" | .op "[" | .op "\x7b" => 1
  | .op ")" | .op "]" | .op "\x7d" => -1
  | _ => 0

/-- Splits tokens at every separator that stands outside brackets. -/
def splitTop (isSep : SourceToken → Bool) (ts : List SourceToken) : List (List SourceToken) :=
  let (parts, cur, _) := ts.foldl (fun (acc : List (List SourceToken) × List SourceToken × Int) t =>
    let (parts, cur, depth) := acc
    if depth == 0 && isSep t then (cur.reverse :: parts, [], depth)
    else (parts, t :: cur, depth + t.opens)) ([], [], 0)
  (cur.reverse :: parts).reverse

/-- The value of a text constant made of adjacent literals: only plain texts make one. -/
def textConstant? (ts : List SourceToken) : Option String :=
  if ts.isEmpty then none
  else
    ts.foldlM (fun acc t => match t with
      | .text .plain v => some (acc ++ v)
      | _ => none) ""

/-- The entries of a dictionary display: for each, its key tokens (none for `**`) and
its value tokens. `none` when the tokens are not a dictionary display. -/
def dictEntries? (ts : List SourceToken) : Option (List (Option (List SourceToken) × List SourceToken)) :=
  match ts with
  | .op "\x7b" :: rest =>
    match rest.getLast? with
    | some (.op "\x7d") =>
      let inner := rest.dropLast
      if (splitTop (fun _ => false) inner).length != 1 then none
      else
        let parts := (splitTop (· == .op ",") inner).filter (!·.isEmpty)
        if parts.isEmpty then some []
        else parts.mapM fun p => match p with
          | .op "**" :: v => some (none, v)
          | _ =>
            match splitTop (· == .op ":") p with
            | k :: v :: more => some (some k, (v :: more).flatten)
            | _ => none
    | _ => none
  | _ => none

/-- Whether the tokens between braces form one display: the first brace closes at the
end. -/
def closesAtEnd (ts : List SourceToken) : Bool :=
  let depths := ts.foldl (fun (acc : List Int) t => (acc.headD 0 + t.opens) :: acc) []
  match depths.reverse with
  | [] => false
  | ds => (ds.dropLast).all (· > 0) && ds.getLast? == some 0

/-- The models named by the entries of an endpoints display: in each entry whose value
is a dictionary display, the texts under the key `model`. -/
def displayModels (ts : List SourceToken) : List String :=
  if !closesAtEnd ts then []
  else
    match dictEntries? ts with
    | some entries =>
      entries.flatMap fun (_, v) =>
        if !closesAtEnd v then []
        else match dictEntries? v with
          | some inner => inner.filterMap fun (k, w) => do
            let k ← k
            if textConstant? k != some "model" then none
            textConstant? w
          | none => []
    | none => []

/-- What reading the statements of a module finds: the assignments to `endpoints` of a
dictionary display, each with the level it stands at and the models it names. -/
abbrev Found := List (Nat × List String)

/-- The words that open a compound statement. -/
def compoundWords : List String :=
  ["def", "class", "if", "elif", "else", "for", "while", "with", "try", "except", "finally",
   "async"]

/-- The words that open a simple statement other than an assignment. -/
def statementWords : List String :=
  ["pass", "break", "continue", "return", "del", "global", "nonlocal", "import", "from",
   "raise", "assert", "yield", "await"]

/-- Reads one simple statement: an assignment to `endpoints` of a dictionary display
gives its models. `none` when the statement does not read. -/
def simpleStatement (level : Nat) (ts : List SourceToken) : Option Found :=
  match ts with
  | [] => some []
  | .name w :: _ =>
    if statementWords.contains w then some []
    else assignment level ts
  | _ => assignment level ts
where
  /-- An assignment, an annotated or augmented one, or an expression statement. -/
  assignment (level : Nat) (ts : List SourceToken) : Option Found :=
    let parts := splitTop (· == .op "=") ts
    match parts.getLast?, parts.dropLast with
    | some value, [] =>
      -- an expression statement, or an annotated or augmented assignment
      if (splitTop (fun t => t == .op ":") ts).length > 1 ||
          ts.any (fun t => match t with
            | .op o => o.length ≥ 2 && o.endsWith "=" && !(["==", "!=", "<=", ">="].contains o)
            | _ => false) then some []
      else if isExpressionList value then some [] else none
    | some value, targets =>
      if (splitTop (fun t => t == .op ":") (targets.headD [])).length > 1 then some []
      else if !isExpressionList value || !targets.all isExpressionList then none
      else if targets.any (· == [.name "endpoints"]) && closesAtEnd value &&
          (value.head? == some (.op "\x7b")) && (dictEntries? value).isSome then
        some [(level, displayModels value)]
      else some []
    | none, _ => some []

/-- The simple statements of one line, separated by `;`, read at a level. -/
def lineStatements (level : Nat) (line : List SourceToken) : Option Found := do
  if line.any (fun t => t == .indent || t == .dedent) then none
  let found ← (splitTop (· == .op ";") line).filter (!·.isEmpty) |>.mapM (simpleStatement level)
  return found.flatten

/-- The statements of a block, read at a level; `none` when they do not read. The fuel
bounds the number of statements. Returns what was found and the tokens after the
block. -/
def block : Nat → Nat → List SourceToken → Option (Found × List SourceToken)
  | 0, _, _ => none
  | fuel + 1, level, ts =>
    let line := ts.takeWhile (· != .newline)
    let next := (ts.dropWhile (· != .newline)).drop 1
    match ts with
    | [] => some ([], [])
    | .dedent :: rest => some ([], rest)
    | .newline :: rest => block fuel level rest
    | .op "@" :: _ =>
      if isExpressionList (line.drop 1) then block fuel level next else none
    | .name w :: _ =>
      if compoundWords.contains w then do
        let parts := splitTop (· == .op ":") line
        if parts.length < 2 then none
        let afterHeader := ts.drop ((parts.headD []).length + 1)
        let inner := if w == "except" then level + 2 else level + 1
        match afterHeader with
        | .newline :: .indent :: body => do
          let (found, rest) ← block fuel inner body
          let (more, rest) ← block fuel level rest
          return (found ++ more, rest)
        | _ =>
          let body := afterHeader.takeWhile (· != .newline)
          if body.isEmpty then none
          let found ← lineStatements inner body
          let (more, rest) ← block fuel level next
          return (found ++ more, rest)
      else do
        let found ← lineStatements level line
        let (more, rest) ← block fuel level next
        return (found ++ more, rest)
    | _ => do
      let found ← lineStatements level line
      let (more, rest) ← block fuel level next
      return (found ++ more, rest)

/-- The models a configuration module's endpoints name: those of the last assignment,
outermost levels first, that names any; none when the source does not read. -/
def endpointModels (src : String) : List String :=
  match lexSource src with
  | none => []
  | some ts =>
    match block (ts.length + 1) 1 ts with
    | some (found, []) =>
      let ordered := (found.zipIdx.mergeSort fun a b => a.1.1 < b.1.1 || (a.1.1 == b.1.1 && a.2 ≤ b.2)).map (·.1.2)
      (ordered.filter (!·.isEmpty)).getLastD []
    | _ => []

end TransitKit.Diagram
