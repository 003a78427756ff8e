import TransitKit.Text.WordChar
import TransitKit.Text.Digit
import TransitKit.Text.Pieces

/-!
# Expression syntax of forward references

A forward reference names a type by the text of an expression, which must be one expression of
the annotation language. The check cuts the text into tokens, brackets spanning lines, and then
reads the tokens by precedence from the conditional expression down to atoms. Both steps carry
fuel computed from the length of their input, so that they are total.
-/

namespace TransitKit.Typing

open Text

/-- A token of an expression. -/
inductive Token where
  | name (s : String)
  | number
  | literal
  | op (s : String)
  | lineEnd
deriving Repr, BEq, Inhabited

/-- The reserved words, which cannot stand as names. -/
def keywords : List String :=
  ["False", "None", "True", "and", "as", "assert", "async", "await", "break", "class",
   "continue", "def", "del", "elif", "else", "except", "finally", "for", "from", "global",
   "if", "import", "in", "is", "lambda", "nonlocal", "not", "or", "pass", "raise",
   "return", "try", "while", "with", "yield"]

/-- A character that may start an identifier. -/
def isNameStart (c : Char) : Bool :=
  c.isAlpha || c == '_' || (c.toNat ≥ 128 && isWordChar c && !isDigitLike c)

/-- A character that may continue an identifier. -/
def isNameChar (c : Char) : Bool :=
  c.isAlphanum || c == '_' ||
    (c.toNat ≥ 128 && isWordChar c && (isDecimalDigit c || !isDigitLike c))

/-- The operators, longest first, so that the longest one at a position is taken. -/
def operators : List String :=
  ["**=", "//=", ">>=", "<<=", "...", "**", "//", "<<", ">>", "<=", ">=", "==", "!=", "->",
   ":=", "+=", "-=", "*=", "/=", "%=", "&=", "|=", "^=", "@=", "+", "-", "*", "/", "%", "@",
   "&", "|", "^", "~", "<", ">", "(", ")", "[", "]", "\x7b", "\x7d", ",", ":", ".", ";", "="]

/-- The prefixes a text literal may carry, in lower case. -/
def literalPrefixes : List String := ["r", "u", "b", "br", "rb", "f", "fr", "rf"]

/-- The rest after the digits that follow a first digit: digits with single underscores
between them; `none` when an underscore is doubled or trails. -/
def digitTail (isDigit : Char → Bool) : List Char → Option (List Char)
  | '_' :: d :: more => if isDigit d then digitTail isDigit more else none
  | '_' :: [] => none
  | d :: more => if isDigit d then digitTail isDigit more else some (d :: more)
  | [] => some []

/-- The rest after a run of digits at the front, which must start with a digit. -/
def digitRun (isDigit : Char → Bool) : List Char → Option (List Char)
  | c :: rest => if isDigit c then digitTail isDigit rest else none
  | [] => none

/-- The rest after the digits of a whole number written with a base prefix, which has
been read; one underscore may follow the prefix. -/
def prefixedRest (isDigit : Char → Bool) : List Char → Option (List Char)
  | '_' :: rest => digitRun isDigit rest
  | rest => digitRun isDigit rest

/-- The rest after a decimal literal at the front: whole digits, an optional fraction and
exponent. A whole number may not have leading zeros unless all its digits are zeros. -/
def decimalRest (cs : List Char) : Option (List Char) := do
  let whole := cs.takeWhile fun c => c.isDigit || c == '_'
  let afterWhole ← if whole.isEmpty then some cs else digitRun Char.isDigit cs
  let (afterPoint, fraction) ← match afterWhole with
    | '.' :: r =>
      if r.head?.any Char.isDigit then (digitRun Char.isDigit r).map fun r => (r, true)
      else if whole.isEmpty then none else some (r, true)
    | r => some (r, false)
  if whole.isEmpty && !fraction then none
  let afterExp ← match afterPoint with
    | e :: r =>
      if e == 'e' || e == 'E' then
        match r with
        | s :: r' => if s == '+' || s == '-' then digitRun Char.isDigit r' else digitRun Char.isDigit r
        | [] => none
      else some afterPoint
    | [] => some afterPoint
  let isFloat := fraction || afterExp.length != afterPoint.length
  let digits := whole.filter (· != '_')
  let leadingZeros := digits.length > 1 && digits.head? == some '0' && digits.any (· != '0')
  let imaginary := match afterExp with
    | j :: _ => j == 'j' || j == 'J'
    | [] => false
  if !isFloat && leadingZeros && !imaginary then none
  some afterExp

/-- The rest after a number literal at the front, or `none` when it is malformed: a
whole number with a base prefix, or a decimal literal, then an optional imaginary mark.
No identifier character may follow. -/
def numberRest (cs : List Char) : Option (List Char) := do
  let rest ← match cs with
    | '0' :: b :: rest =>
      if b == 'x' || b == 'X' then
        prefixedRest (fun c => c.isDigit || ('a' ≤ c.toLower && c.toLower ≤ 'f')) rest
      else if b == 'o' || b == 'O' then prefixedRest (fun c => '0' ≤ c && c ≤ '7') rest
      else if b == 'b' || b == 'B' then prefixedRest (fun c => c == '0' || c == '1') rest
      else decimalRest cs
    | _ => decimalRest cs
  let rest := match rest with
    | j :: r => if j == 'j' || j == 'J' then r else rest
    | [] => rest
  match rest with
  | c :: _ => if isNameChar c then none else some rest
  | [] => some rest

/-- The rest after a text literal whose opening quote `q` has been read; `triple` when it
opened with three quotes. A backslash keeps the next character; a line break ends a
literal of one quote with an error. -/
def literalRest (q : Char) (triple : Bool) : List Char → Option (List Char)
  | [] => none
  | '\\' :: _ :: rest => literalRest q triple rest
  | '\\' :: [] => none
  | c :: rest =>
    if c == q then
      if !triple then some rest
      else match rest with
        | a :: b :: more => if a == q && b == q then some more else literalRest q triple rest
        | _ => literalRest q triple rest
    else if (c == '\n' || c == '\r') && !triple then none
    else literalRest q triple rest

/-- The rest after a text literal that starts with a quote at the front. -/
def quotedRest : List Char → Option (List Char)
  | q :: a :: b :: rest => if a == q && b == q then literalRest q true rest
    else literalRest q false (a :: b :: rest)
  | q :: rest => literalRest q false rest
  | [] => none

/-- The tokens of a text, with the depth of open brackets. Blanks separate tokens; a
backslash at the end of a line joins it to the next; a comment runs to the end of its
line; a line break outside brackets is a line end. The fuel bounds the number of steps,
each of which consumes at least one character. -/
def lexWith : Nat → List Char → Nat → List Token → Option (List Token)
  | 0, _, _, _ => none
  | _ + 1, [], _, acc => some acc.reverse
  | fuel + 1, c :: rest, depth, acc =>
    if c == ' ' || c == '\t' || c == '\x0c' then lexWith fuel rest depth acc
    else if c == '\n' || c == '\r' then
      if depth > 0 || acc.head? == some .lineEnd then lexWith fuel rest depth acc
      else lexWith fuel rest depth (.lineEnd :: acc)
    else if c == '#' then lexWith fuel (rest.dropWhile fun d => d != '\n' && d != '\r') depth acc
    else if c == '\\' then
      match rest with
      | '\n' :: more => if more.isEmpty then none else lexWith fuel more depth acc
      | '\r' :: '\n' :: more => if more.isEmpty then none else lexWith fuel more depth acc
      | _ => none
    else if c == '\'' || c == '"' then
      (quotedRest (c :: rest)).bind fun r => lexWith fuel r depth (.literal :: acc)
    else if isNameStart c then
      let word := c :: rest.takeWhile isNameChar
      let after := rest.dropWhile isNameChar
      let lower := String.ofList (word.map Char.toLower)
      match after with
      | q :: _ =>
        if (q == '\'' || q == '"') && literalPrefixes.contains lower then
          (quotedRest after).bind fun r => lexWith fuel r depth (.literal :: acc)
        else lexWith fuel after depth (.name (String.ofList word) :: acc)
      | [] => lexWith fuel after depth (.name (String.ofList word) :: acc)
    else if c.isDigit || (c == '.' && rest.head?.any Char.isDigit) then
      (numberRest (c :: rest)).bind fun r => lexWith fuel r depth (.number :: acc)
    else
      match operators.find? fun o => o.toList.isPrefixOf (c :: rest) with
      | some o =>
        let after := (c :: rest).drop o.length
        if o == "(" || o == "[" || o == "\x7b" then lexWith fuel after (depth + 1) (.op o :: acc)
        else if o == ")" || o == "]" || o == "\x7d" then
          if depth == 0 then none else lexWith fuel after (depth - 1) (.op o :: acc)
        else lexWith fuel after depth (.op o :: acc)
      | none => none

/-- The tokens of a text, or `none` when it holds a malformed literal or a character
that no token has. -/
def lex (s : String) : Option (List Token) :=
  lexWith (s.length + 1) s.toList 0 []

namespace Grammar

/-- A reading of a token list: the tokens left, or `none` when the tokens do not fit. -/
abbrev Reading := Option (List Token)

/-- Whether the next token is the operator `o`. -/
def isOp (o : String) : List Token → Bool
  | .op p :: _ => p == o
  | _ => false

/-- Whether the next token is the word `w`. -/
def isWord (w : String) : List Token → Bool
  | .name n :: _ => n == w
  | _ => false

/-- Skips the operator `o`, which must come next. -/
def expectOp (o : String) : List Token → Reading
  | .op p :: rest => if p == o then some rest else none
  | _ => none

/-- Skips the word `w`, which must come next. -/
def expectWord (w : String) : List Token → Reading
  | .name n :: rest => if n == w then some rest else none
  | _ => none

/-- The binary operators by level of precedence, loosest first. -/
def binaryLevels : List (List String) :=
  [["|"], ["^"], ["&"], ["<<", ">>"], ["+", "-"], ["*", "/", "//", "%", "@"]]

/-- The comparison operators written as one symbol. -/
def comparisonOps : List String := ["==", "!=", "<", ">", "<=", ">="]

/-- The rest after a comparison operator at the front, if one is there: a symbol, `in`,
`not in`, `is` or `is not`. -/
def comparisonRest : List Token → Option (List Token)
  | .op o :: rest => if comparisonOps.contains o then some rest else none
  | .name "in" :: rest => some rest
  | .name "not" :: .name "in" :: rest => some rest
  | .name "is" :: .name "not" :: rest => some rest
  | .name "is" :: rest => some rest
  | _ => none

mutual

/-- A conditional expression or a lambda. -/
def expression : Nat → List Token → Reading
  | 0, _ => none
  | fuel + 1, ts =>
    if isWord "lambda" ts then
      (parameters fuel (ts.drop 1)).bind fun r => (expectOp ":" r).bind (expression fuel)
    else
      (disjunction fuel ts).bind fun r =>
        if isWord "if" r then
          (disjunction fuel (r.drop 1)).bind fun r =>
            (expectWord "else" r).bind (expression fuel)
        else some r

/-- The parameters of a lambda, up to its colon. -/
def parameters : Nat → List Token → Reading
  | 0, _ => none
  | fuel + 1, ts =>
    if isOp ":" ts then some ts
    else
      let afterMark := if isOp "**" ts || isOp "*" ts then ts.drop 1 else ts
      let afterName : Reading := match afterMark with
        | .name n :: rest => if keywords.contains n then none else some rest
        | rest => if isOp "/" rest || isOp "*" ts then some rest else none
      afterName.bind fun r =>
        let afterDefault := if isOp "=" r then expression fuel (r.drop 1) else some r
        afterDefault.bind fun r =>
          if isOp "," r then parameters fuel (r.drop 1) else some r

/-- Expressions joined by `or`. -/
def disjunction : Nat → List Token → Reading
  | 0, _ => none
  | fuel + 1, ts =>
    (conjunction fuel ts).bind fun r =>
      if isWord "or" r then disjunction fuel (r.drop 1) else some r

/-- Expressions joined by `and`. -/
def conjunction : Nat → List Token → Reading
  | 0, _ => none
  | fuel + 1, ts =>
    (inversion fuel ts).bind fun r =>
      if isWord "and" r then conjunction fuel (r.drop 1) else some r

/-- A comparison, possibly negated by `not`. -/
def inversion : Nat → List Token → Reading
  | 0, _ => none
  | fuel + 1, ts =>
    if isWord "not" ts then inversion fuel (ts.drop 1) else comparison fuel ts

/-- Operands joined by comparison operators. -/
def comparison : Nat → List Token → Reading
  | 0, _ => none
  | fuel + 1, ts =>
    (binary fuel 0 ts).bind fun r =>
      match comparisonRest r with
      | some r => comparison fuel r
      | none => some r

/-- Operands joined by the binary operators of a level and the levels above it. -/
def binary : Nat → Nat → List Token → Reading
  | 0, _, _ => none
  | fuel + 1, level, ts =>
    match binaryLevels[level]? with
    | none => factor fuel ts
    | some ops =>
      (binary fuel (level + 1) ts).bind fun r =>
        match r with
        | .op o :: rest => if ops.contains o then binary fuel level rest else some r
        | _ => some r

/-- A power, possibly under signs and inversion. -/
def factor : Nat → List Token → Reading
  | 0, _ => none
  | fuel + 1, ts =>
    if isOp "+" ts || isOp "-" ts || isOp "~" ts then factor fuel (ts.drop 1)
    else
      let start := if isWord "await" ts then none else some ts
      start.bind fun ts => (primary fuel ts).bind fun r =>
        if isOp "**" r then factor fuel (r.drop 1) else some r

/-- An atom followed by attribute accesses, calls and subscripts. -/
def primary : Nat → List Token → Reading
  | 0, _ => none
  | fuel + 1, ts => (atom fuel ts).bind (trailers fuel)

/-- Attribute accesses, calls and subscripts. -/
def trailers : Nat → List Token → Reading
  | 0, _ => none
  | fuel + 1, ts =>
    match ts with
    | .op "." :: .name n :: rest =>
      if keywords.contains n then none else trailers fuel rest
    | .op "." :: _ => none
    | .op "(" :: rest =>
      if isOp ")" rest then trailers fuel (rest.drop 1)
      else (items fuel true rest).bind fun r => (expectOp ")" r).bind (trailers fuel)
    | .op "[" :: rest =>
      (slices fuel rest).bind fun r => (expectOp "]" r).bind (trailers fuel)
    | _ => some ts

/-- A name, literal or display. -/
def atom : Nat → List Token → Reading
  | 0, _ => none
  | fuel + 1, ts =>
    match ts with
    | .name n :: rest =>
      if n == "True" || n == "False" || n == "None" then some rest
      else if keywords.contains n then none
      else some rest
    | .number :: rest => some rest
    | .literal :: rest => some (rest.dropWhile (· == .literal))
    | .op "..." :: rest => some rest
    | .op "(" :: rest =>
      if isOp ")" rest then some (rest.drop 1)
      else (items fuel false rest).bind (expectOp ")")
    | .op "[" :: rest =>
      if isOp "]" rest then some (rest.drop 1)
      else (items fuel false rest).bind (expectOp "]")
    | .op "\x7b" :: rest =>
      if isOp "\x7d" rest then some (rest.drop 1)
      else (entries fuel rest).bind (expectOp "\x7d")
    | _ => none

/-- One item of a display or call: a starred expression, or an expression followed by
a comprehension; in a call also a keyword argument or a doubly starred one. -/
def item : Nat → Bool → List Token → Reading
  | 0, _, _ => none
  | fuel + 1, call, ts =>
    if isOp "*" ts then binary fuel 0 (ts.drop 1)
    else if call && isOp "**" ts then expression fuel (ts.drop 1)
    else match ts with
      | .name n :: .op "=" :: rest =>
        if call && !keywords.contains n then expression fuel rest else none
      | _ => (expression fuel ts).bind fun r =>
        if isWord "for" r || (isWord "async" r) then comprehension fuel r else some r

/-- Items separated by commas, with an optional comma at the end. -/
def items : Nat → Bool → List Token → Reading
  | 0, _, _ => none
  | fuel + 1, call, ts =>
    (item fuel call ts).bind fun r =>
      if isOp "," r then
        let r := r.drop 1
        if isOp ")" r || isOp "]" r then some r else items fuel call r
      else some r

/-- The clauses of a comprehension: `for` targets `in` an expression, then `if` filters. -/
def comprehension : Nat → List Token → Reading
  | 0, _ => none
  | fuel + 1, ts =>
    let ts := if isWord "async" ts then ts.drop 1 else ts
    (expectWord "for" ts).bind fun r => (targets fuel r).bind fun r =>
      (expectWord "in" r).bind fun r => (disjunction fuel r).bind fun r =>
        (filters fuel r).bind fun r =>
          if isWord "for" r || isWord "async" r then comprehension fuel r else some r

/-- The targets of a comprehension, separated by commas. -/
def targets : Nat → List Token → Reading
  | 0, _ => none
  | fuel + 1, ts =>
    let ts := if isOp "*" ts then ts.drop 1 else ts
    (binary fuel 0 ts).bind fun r =>
      if isOp "," r && !isWord "in" (r.drop 1) then targets fuel (r.drop 1)
      else if isOp "," r then some (r.drop 1)
      else some r

/-- The `if` filters of a comprehension. -/
def filters : Nat → List Token → Reading
  | 0, _ => none
  | fuel + 1, ts =>
    if isWord "if" ts then (disjunction fuel (ts.drop 1)).bind (filters fuel) else some ts

/-- The subscripts between square brackets: slices or expressions, separated by
commas. -/
def slices : Nat → List Token → Reading
  | 0, _ => none
  | fuel + 1, ts =>
    (slice fuel ts).bind fun r =>
      if isOp "," r then
        let r := r.drop 1
        if isOp "]" r then some r else slices fuel r
      else some r

/-- One subscript: an expression, a starred expression, or a slice with optional
bounds and step. -/
def slice : Nat → List Token → Reading
  | 0, _ => none
  | fuel + 1, ts =>
    if isOp "*" ts then binary fuel 0 (ts.drop 1)
    else
      let lower : Reading := if isOp ":" ts then some ts else expression fuel ts
      lower.bind fun r =>
        if isOp ":" r then
          let r := r.drop 1
          let upper : Reading :=
            if isOp ":" r || isOp "," r || isOp "]" r then some r else expression fuel r
          upper.bind fun r =>
            if isOp ":" r then
              let r := r.drop 1
              if isOp "," r || isOp "]" r then some r else expression fuel r
            else some r
        else
          if ts.length == r.length then none else some r

/-- The entries of a brace display: `key: value` pairs and doubly starred mappings, or
the items of a set. -/
def entries : Nat → List Token → Reading
  | 0, _ => none
  | fuel + 1, ts =>
    if isOp "**" ts then
      (binary fuel 0 (ts.drop 1)).bind (moreEntries fuel)
    else if isOp "*" ts then items fuel false ts
    else
      (expression fuel ts).bind fun r =>
        if isOp ":" r then
          (expression fuel (r.drop 1)).bind fun r =>
            if isWord "for" r || isWord "async" r then comprehension fuel r
            else moreEntries fuel r
        else if isWord "for" r || isWord "async" r then comprehension fuel r
        else if isOp "," r then
          let r := r.drop 1
          if isOp "\x7d" r then some r else items fuel false r
        else some r

/-- The entries after the first of a mapping display. -/
def moreEntries : Nat → List Token → Reading
  | 0, _ => none
  | fuel + 1, ts =>
    if isOp "," ts then
      let r := ts.drop 1
      if isOp "\x7d" r then some r
      else if isOp "**" r then (binary fuel 0 (r.drop 1)).bind (moreEntries fuel)
      else (expression fuel r).bind fun r =>
        (expectOp ":" r).bind fun r => (expression fuel r).bind (moreEntries fuel)
    else some ts

end

/-- Expressions separated by commas, as a whole text holds them; each may be starred
when there is more than one. -/
def expressions (fuel : Nat) (ts : List Token) : Reading :=
  (expression fuel ts).bind fun r =>
    if isOp "," r then
      let r := r.drop 1
      if r.isEmpty then some r else items fuel false r
    else some r

end Grammar

/-- Whether a text is one expression. A text that starts with `*` stands for the item
it unpacks, and is read as `(text,)[0]`. The first line that holds a token must not be
indented, and nothing may follow the expression but line ends. -/
def isExpression (s : String) : Bool :=
  let s := if s.startsWith "*" then "(" ++ s ++ ",)[0]" else s
  let firstLine := (splitAt '\n' s).find? fun l =>
    let t := l.toList.dropWhile fun c => c == ' ' || c == '\t' || c == '\x0c' || c == '\r'
    !t.isEmpty && t.head? != some '#'
  let indented := match firstLine with
    | some l => l.startsWith " " || l.startsWith "\t" || l.startsWith "\x0c"
    | none => false
  if indented then false
  else
    match lex s with
    | none => false
    | some ts =>
      let ts := ts.dropWhile (· == .lineEnd)
      match Grammar.expressions (20 * (ts.length + 2)) ts with
      | some rest => rest.all (· == .lineEnd)
      | none => false

end TransitKit.Typing
