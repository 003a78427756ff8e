import TransitKit.Typing.Basic

/-!
# Reading annotation texts

A generated module evaluates each annotation text when it defines its classes, in a scope that
binds the names of its classes. Names not bound are looked up among `None`, the typing names and
the builtin classes; subscriptions make containers and typing unions; `|` makes a `|` union of
classes and containers, a typing union when a forward reference or typing union takes part,
and a type error for any other pair. Where an annotation is expected, a text is a forward
reference.
-/

namespace TransitKit.Typing

/-- A token of an annotation text. -/
inductive AnnToken where
  | name (s : String)
  | text (s : String)
  | openBracket
  | closeBracket
  | comma
  | bar
deriving DecidableEq, Repr

/-- The quote that opens and closes a text. -/
def quoteMark : Char := Char.ofNat 39

/-- Where the lexer stands: between tokens, or inside a name or a quoted text with the
characters read of it so far. -/
inductive LexState where
  | between
  | inName (chars : List Char)
  | inText (chars : List Char)

/-- What a character does between tokens: a blank is skipped, a bracket, a comma or a bar
is a token, a quote opens a text and a character that may start a name opens a name. No
other character has a place in an annotation text. -/
def startAt (c : Char) : Option (List AnnToken × LexState) :=
  if c = ' ' then some ([], .between)
  else if c = '[' then some ([.openBracket], .between)
  else if c = ']' then some ([.closeBracket], .between)
  else if c = ',' then some ([.comma], .between)
  else if c = '|' then some ([.bar], .between)
  else if c = quoteMark then some ([], .inText [])
  else if isNameStart c then some ([], .inName [c])
  else none

/-- The tokens of the characters that follow a state. A name ends at the first character
that cannot continue it; a text ends at the next quote, and holds no backslash or line
break. -/
def lexFrom : LexState → List Char → Option (List AnnToken)
  | .between, [] => some []
  | .inName chars, [] => some [.name (String.ofList chars)]
  | .inText _, [] => none
  | .between, c :: cs =>
    match startAt c with
    | some (ts, st) => (lexFrom st cs).map (ts ++ ·)
    | none => none
  | .inName chars, c :: cs =>
    if isNameChar c then lexFrom (.inName (chars ++ [c])) cs
    else
      match startAt c with
      | some (ts, st) => (lexFrom st cs).map (.name (String.ofList chars) :: ts ++ ·)
      | none => none
  | .inText chars, c :: cs =>
    if c = quoteMark then (lexFrom .between cs).map (.text (String.ofList chars) :: ·)
    else if c = '\\' || c = '\n' then none
    else lexFrom (.inText (chars ++ [c])) cs

/-- The tokens of an annotation text. -/
def lexAnnotationText (s : String) : Option (List AnnToken) := lexFrom .between s.toList

/-- An annotation expression: a name, a quoted text, a name subscripted by expressions, or
two expressions joined by `|`. -/
inductive AnnExpr where
  | name (s : String)
  | text (s : String)
  | subscript (head : String) (args : List AnnExpr)
  | bar (left right : AnnExpr)
deriving Inhabited

mutual

/-- Reads an expression: operands joined by `|`, grouped from the left. The fuel bounds
the depth of nesting and the number of operands. -/
def readExpr : Nat → List AnnToken → Option (AnnExpr × List AnnToken)
  | 0, _ => none
  | fuel + 1, ts =>
    match readOperand fuel ts with
    | some (a, rest) => readBars fuel a rest
    | none => none

/-- Reads the operands that follow `|` after the expression read so far. -/
def readBars : Nat → AnnExpr → List AnnToken → Option (AnnExpr × List AnnToken)
  | 0, _, _ => none
  | fuel + 1, a, .bar :: ts =>
    match readOperand fuel ts with
    | some (b, rest) => readBars fuel (.bar a b) rest
    | none => none
  | _ + 1, a, ts => some (a, ts)

/-- Reads an operand: a name subscripted by expressions, a name, or a quoted text. -/
def readOperand : Nat → List AnnToken → Option (AnnExpr × List AnnToken)
  | 0, _ => none
  | fuel + 1, .name n :: .openBracket :: ts =>
    match readArgs fuel ts with
    | some (args, .closeBracket :: rest) => some (.subscript n args, rest)
    | _ => none
  | _ + 1, .name n :: ts => some (.name n, ts)
  | _ + 1, .text s :: ts => some (.text s, ts)
  | _ + 1, _ => none

/-- Reads the expressions of a subscription, one at least, between commas. -/
def readArgs : Nat → List AnnToken → Option (List AnnExpr × List AnnToken)
  | 0, _ => none
  | fuel + 1, ts =>
    match readExpr fuel ts with
    | some (e, .comma :: rest) =>
      match readArgs fuel rest with
      | some (es, rest) => some (e :: es, rest)
      | none => none
    | some (e, rest) => some ([e], rest)
    | none => none

end

/-- The expression an annotation text holds, when the whole text is one. Every operand and
every level of nesting takes a token at least, so the fuel suffices. -/
def readAnnotationText (s : String) : Option AnnExpr :=
  match lexAnnotationText s with
  | some ts =>
    match readExpr (ts.length + 1) ts with
    | some (e, []) => some e
    | _ => none
  | none => none

mutual

/-- The text of an expression, with a blank on each side of `|` and after each comma. -/
def AnnExpr.render : AnnExpr → String
  | .name n => n
  | .text s => "'" ++ s ++ "'"
  | .subscript n args => n ++ "[" ++ AnnExpr.renderArgs args ++ "]"
  | .bar a b => a.render ++ " | " ++ b.render

/-- The texts of expressions, between commas. -/
def AnnExpr.renderArgs : List AnnExpr → String
  | [] => ""
  | [e] => e.render
  | e :: es => e.render ++ ", " ++ AnnExpr.renderArgs es

end

/-- A failure to evaluate an annotation text. -/
inductive ReadError where
  /-- The text is not an expression of the fragment annotations are written in. -/
  | unreadable
  /-- A name that nothing binds. -/
  | unbound (name : String)
  /-- An operation that its operands do not support. -/
  | typeError
deriving DecidableEq, Repr

/-- The value of an annotation expression. -/
inductive AnnValue where
  /-- A class, a forward reference, a container or a union. -/
  | hint (h : TypeHint)
  /-- `None`. -/
  | none
  /-- A text. -/
  | text (s : String)
  /-- `Union`, or `Optional` when `optional` holds, before it is subscripted. -/
  | special (optional : Bool)

namespace AnnValue

/-- The annotation a value stands for where an annotation is expected: `None` for its
class, and a text for a forward reference, which must be an expression. A bare `Union` or
`Optional` stands for none. -/
def toHint : AnnValue → Except ReadError TypeHint
  | .hint h => .ok h
  | .none => .ok TypeHint.none
  | .text s =>
    match TypeHint.ref? s with
    | .ok h => .ok h
    | .error _ => .error .unreadable
  | .special _ => .error .typeError

/-- Whether a value takes part in a `|` union: a class, a container, such a union, or
`None`. -/
def joinsBar : AnnValue → Bool
  | .hint h => h.joinsBar
  | .none => true
  | _ => false

/-- Whether a value is a forward reference or a typing union, which take anything that
stands for an annotation as the other side of `|`. -/
def isTyping : AnnValue → Bool
  | .hint h => !h.joinsBar
  | _ => false

end AnnValue

/-- The builtin classes an annotation may name. -/
def builtinClassNames : List String := ["str", "int", "float", "bool", "dict", "list"]

/-- The value of a name: what the scope binds it to, else `None`, a typing name or a
builtin class. -/
def lookupName (scope : String → Option TypeClass) (n : String) : Except ReadError AnnValue :=
  if n = "None" then .ok .none
  else if keywords.contains n then .error .unreadable
  else
    match scope n with
    | some c => .ok (.hint (.cls c))
    | Option.none =>
      if n = "Union" then .ok (.special false)
      else if n = "Optional" then .ok (.special true)
      else if n = "Any" then .ok (.hint (.cls .anything))
      else if builtinClassNames.contains n then .ok (.hint (.cls (.builtin n)))
      else .error (.unbound n)

/-- A subscription: `list` and `dict` make containers of the annotations their arguments
stand for, `Union` makes their typing union, and `Optional` the typing union of its one
argument and `None`. Nothing else can be subscripted. -/
def subscriptValue (head : AnnValue) (args : List AnnValue) : Except ReadError AnnValue := do
  let hints ← args.mapM AnnValue.toHint
  match head, hints with
  | .hint (.cls (.builtin n)), _ =>
    if n = "list" then return .hint (.generic .list hints)
    else if n = "dict" then return .hint (.generic .dict hints)
    else throw .typeError
  | .special false, a :: rest => return .hint (TypeHint.unionOf a rest)
  | .special true, [a] => return .hint (TypeHint.unionOf a [TypeHint.none])
  | _, _ => throw .typeError

/-- `|` between two values: the union `TypeHint.or` makes of the annotations they stand
for, when both take part in a `|` union and are not both `None`, or when either is a
forward reference or a typing union. -/
def orValues (x y : AnnValue) : Except ReadError AnnValue :=
  match x, y with
  | .none, .none => throw .typeError
  | _, _ =>
    if (x.joinsBar && y.joinsBar) || x.isTyping || y.isTyping then do
      let a ← x.toHint
      let b ← y.toHint
      return .hint (a.or b)
    else throw .typeError

mutual

/-- The value of an expression in a scope. The head of a subscription is evaluated before
its arguments, and the left side of `|` before its right side. -/
def AnnExpr.eval (scope : String → Option TypeClass) : AnnExpr → Except ReadError AnnValue
  | .name n => lookupName scope n
  | .text s => .ok (.text s)
  | .subscript n args => do
    let head ← lookupName scope n
    let vals ← AnnExpr.evalArgs scope args
    subscriptValue head vals
  | .bar a b => do
    let x ← a.eval scope
    let y ← b.eval scope
    orValues x y

/-- The values of expressions, from the left. -/
def AnnExpr.evalArgs (scope : String → Option TypeClass) :
    List AnnExpr → Except ReadError (List AnnValue)
  | [] => .ok []
  | e :: es => do
    let v ← e.eval scope
    let vs ← AnnExpr.evalArgs scope es
    return v :: vs

end

/-- The annotation a text declares in a scope: the value of its expression, read as an
annotation. -/
def hintOfText (scope : String → Option TypeClass) (s : String) : Except ReadError TypeHint :=
  match readAnnotationText s with
  | some e => do
    let v ← e.eval scope
    v.toHint
  | none => .error .unreadable

end TransitKit.Typing
