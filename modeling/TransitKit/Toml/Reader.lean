import TransitKit.Toml.Value
import TransitKit.Text.CharSet
import TransitKit.Text.Pieces

/-!
# Reading TOML documents

A document is read statement by statement: blank lines, comments, pairs, table headers and
array-of-tables headers. Values are texts, integers, doubles, booleans, dates and times that
exist in the calendar, arrays and inline tables. Keys may not be redefined: a table created by a
header or a dotted key cannot be declared again, and an array or inline table is frozen with all
inside it. Reading fails at the first error, without detail.
-/

namespace TransitKit.Toml

open Text

/-- A blank inside a line: space or tab. -/
def isLineBlank (c : Char) : Bool := c == ' ' || c == '\t'

/-- Drops blanks from the front. -/
def skipBlanks (cs : List Char) : List Char := cs.dropWhile isLineBlank

/-- Drops blanks and line breaks from the front. -/
def skipBlankLines (cs : List Char) : List Char := cs.dropWhile fun c => isLineBlank c || c == '\n'

/-- A control character other than tab: these may not stand in a comment or a one-line
text. -/
def illegalInLine (c : Char) : Bool := (c.toNat < 32 && c != '\t') || c.toNat == 127

/-- A control character other than tab and line feed: these may not stand in a text of
several lines. -/
def illegalInBlock (c : Char) : Bool := illegalInLine c && c != '\n'

/-- A character of a bare key. -/
def isBareKeyChar (c : Char) : Bool := c.isAlphanum || c == '-' || c == '_'

/-- A character that can start a key. -/
def isKeyStart (c : Char) : Bool := isBareKeyChar c || c == '"' || c == '\''

/-- The rest of a line after `#`, if the comment holds no control character. -/
def afterComment (cs : List Char) : Option (List Char) :=
  if (cs.takeWhile (· != '\n')).any illegalInLine then none else some (cs.dropWhile (· != '\n'))

/-- Skips a comment, if one starts here. -/
def skipComment : List Char → Option (List Char)
  | '#' :: rest => afterComment rest
  | cs => some cs

/-- Skips blanks, line breaks and comments, as between the items of an array. -/
def skipFiller : Nat → List Char → Option (List Char)
  | 0, cs => some cs
  | fuel + 1, cs =>
    match skipBlankLines cs with
    | '#' :: rest => (afterComment rest).bind (skipFiller fuel)
    | ds => some ds

/-! ## Texts -/

/-- The character of an escape that stands for one character. -/
def simpleEscape : Char → Option Char
  | 'b' => some (Char.ofNat 8)
  | 't' => some '\t'
  | 'n' => some '\n'
  | 'f' => some (Char.ofNat 12)
  | 'r' => some '\r'
  | '"' => some '"'
  | '\\' => some '\\'
  | _ => none

/-- A character given by `n` hexadecimal digits, which must name a Unicode scalar
value. -/
def hexChar (n : Nat) (cs : List Char) : Option (List Char × List Char) := do
  let ds := cs.take n
  if ds.length != n then none
  let vs ← ds.mapM hexDigitValue?
  let v := vs.foldl (fun acc d => acc * 16 + d) 0
  if v ≤ 0xD7FF || (0xE000 ≤ v && v ≤ 0x10FFFF) then some ([Char.ofNat v], cs.drop n) else none

/-- An escape after a backslash: the characters it stands for and the rest. In a text of
several lines, a backslash at the end of a line (blanks may follow it) removes the line
break and all blanks and line breaks after it. -/
def escape (multiline : Bool) : List Char → Option (List Char × List Char)
  | [] => none
  | c :: rest =>
    if multiline && (c == ' ' || c == '\t' || c == '\n') then
      if c == '\n' then some ([], skipBlankLines rest)
      else
        match skipBlanks rest with
        | [] => some ([], [])
        | '\n' :: more => some ([], skipBlankLines more)
        | _ => none
    else if c == 'u' then hexChar 4 rest
    else if c == 'U' then hexChar 8 rest
    else (simpleEscape c).map fun d => ([d], rest)

/-- The body of a basic text up to its closing quote (three quotes for a text of several
lines), with escapes replaced. -/
def basicBody (multiline : Bool) : Nat → List Char → List Char → Option (List Char × List Char)
  | 0, _, _ => none
  | _ + 1, _, [] => none
  | fuel + 1, acc, '"' :: rest =>
    if !multiline then some (acc.reverse, rest)
    else
      match rest with
      | '"' :: '"' :: more => some (acc.reverse, more)
      | _ => basicBody multiline fuel ('"' :: acc) rest
  | fuel + 1, acc, '\\' :: rest => do
    let (chars, more) ← escape multiline rest
    basicBody multiline fuel (chars.reverse ++ acc) more
  | fuel + 1, acc, c :: rest =>
    if (if multiline then illegalInBlock c else illegalInLine c) then none
    else basicBody multiline fuel (c :: acc) rest

/-- A one-line basic text after its opening quote. -/
def basicText (cs : List Char) : Option (String × List Char) :=
  (basicBody false (cs.length + 1) [] cs).map fun (b, r) => (String.ofList b, r)

/-- A one-line literal text after its opening apostrophe. -/
def literalText (cs : List Char) : Option (String × List Char) :=
  let body := cs.takeWhile (· != '\'')
  match cs.dropWhile (· != '\'') with
  | [] => none
  | _ :: rest => if body.any illegalInLine then none else some (String.ofList body, rest)

/-- Splits at the first run of three `q`: what comes before it and after it. -/
def splitAtTriple (q : Char) : List Char → Option (List Char × List Char)
  | [] => none
  | a :: rest =>
    match rest with
    | b :: c :: more =>
      if a == q && b == q && c == q then some ([], more)
      else (splitAtTriple q rest).map fun (x, r) => (a :: x, r)
    | _ => none

/-- Up to two more delimiters right after a closing triple belong to the text. -/
def extraDelimiters (q : Char) (body : List Char) : List Char → List Char × List Char
  | a :: b :: rest =>
    if a == q then (if b == q then (body ++ [q, q], rest) else (body ++ [q], b :: rest))
    else (body, a :: b :: rest)
  | [a] => if a == q then (body ++ [q], []) else (body, [a])
  | [] => (body, [])

/-- A line break right after the opening delimiter of a text of several lines is
dropped. -/
def dropFirstBreak : List Char → List Char
  | '\n' :: rest => rest
  | cs => cs

/-- A literal text of several lines after its opening delimiter. -/
def multilineLiteral (cs : List Char) : Option (String × List Char) := do
  let (body, rest) ← splitAtTriple '\'' (dropFirstBreak cs)
  if body.any illegalInBlock then none
  let (body, rest) := extraDelimiters '\'' body rest
  some (String.ofList body, rest)

/-- A basic text of several lines after its opening delimiter. -/
def multilineBasic (cs : List Char) : Option (String × List Char) := do
  let cs := dropFirstBreak cs
  let (body, rest) ← basicBody true (cs.length + 1) [] cs
  let (body, rest) := extraDelimiters '"' body rest
  some (String.ofList body, rest)

/-! ## Keys -/

/-- One part of a key: bare, basic or literal. -/
def keyPart : List Char → Option (String × List Char)
  | [] => none
  | c :: rest =>
    if isBareKeyChar c then
      some (String.ofList (c :: rest.takeWhile isBareKeyChar), rest.dropWhile isBareKeyChar)
    else if c == '\'' then literalText rest
    else if c == '"' then basicText rest
    else none

/-- The further parts of a dotted key, each after a dot. -/
def keyRest : Nat → List String → List Char → Option (List String × List Char)
  | 0, _, _ => none
  | fuel + 1, acc, cs =>
    match skipBlanks cs with
    | '.' :: rest => do
      let (p, r) ← keyPart (skipBlanks rest)
      keyRest fuel (acc ++ [p]) r
    | ds => some (acc, ds)

/-- A dotted key and the rest after it, blanks skipped. -/
def readKey (cs : List Char) : Option (List String × List Char) := do
  let (p, r) ← keyPart cs
  keyRest (r.length + 1) [p] r

/-! ## Dates, times and numbers -/

/-- The value of an ASCII digit. -/
def digit? (c : Char) : Option Nat :=
  if '0' ≤ c ∧ c ≤ '9' then some (c.toNat - '0'.toNat) else none

/-- Two digits whose value lies in `[lo, hi]`. -/
def twoDigits (lo hi : Nat) : List Char → Option (Nat × List Char)
  | a :: b :: rest => do
    let v := 10 * (← digit? a) + (← digit? b)
    if lo ≤ v && v ≤ hi then some (v, rest) else none
  | _ => none

/-- Four digits. -/
def fourDigits : List Char → Option (Nat × List Char)
  | a :: b :: c :: d :: rest => do
    some ((← [a, b, c, d].mapM digit?).foldl (fun acc x => acc * 10 + x) 0, rest)
  | _ => none

/-- Expects one character. -/
def expectChar (c : Char) : List Char → Option (List Char)
  | d :: rest => if d == c then some rest else none
  | [] => none

/-- A time of day `HH:MM:SS` with an optional fraction of a second, of which six digits
are kept. -/
def clock? (cs : List Char) : Option (Clock × List Char) := do
  let (h, r) ← twoDigits 0 23 cs
  let (m, r) ← twoDigits 0 59 (← expectChar ':' r)
  let (s, r) ← twoDigits 0 59 (← expectChar ':' r)
  match r with
  | '.' :: d :: more =>
    if d.isDigit then
      let ds := (d :: more).takeWhile Char.isDigit
      let kept := ds.take 6
      let micros := kept.foldl (fun acc x => acc * 10 + (x.toNat - '0'.toNat)) 0 * Nat.pow 10 (6 - kept.length)
      some (⟨h, m, s, micros⟩, (d :: more).dropWhile Char.isDigit)
    else some (⟨h, m, s, 0⟩, r)
  | _ => some (⟨h, m, s, 0⟩, r)

/-- An offset after a time: `Z` or `±HH:MM`, in minutes. -/
def offset? : List Char → Option (Int × List Char)
  | 'Z' :: rest => some (0, rest)
  | 'z' :: rest => some (0, rest)
  | s :: rest =>
    if s == '+' || s == '-' then do
      let (h, r) ← twoDigits 0 23 rest
      let (m, r) ← twoDigits 0 59 (← expectChar ':' r)
      let v : Int := h * 60 + m
      some (if s == '-' then -v else v, r)
    else none
  | [] => none

/-- The shape of a date with an optional time and offset, before the calendar is
checked. -/
def dateShape? (cs : List Char) : Option ((Date × Option (Clock × Option Int)) × List Char) := do
  let (y, r) ← fourDigits cs
  let (mo, r) ← twoDigits 1 12 (← expectChar '-' r)
  let (d, r) ← twoDigits 1 31 (← expectChar '-' r)
  let date : Date := ⟨y, mo, d⟩
  match r with
  | c :: more =>
    if c == 'T' || c == 't' || c == ' ' then
      match clock? more with
      | some (t, r') =>
        match offset? r' with
        | some (off, r'') => some ((date, some (t, some off)), r'')
        | none => some ((date, some (t, none)), r')
      | none => some ((date, none), r)
    else some ((date, none), r)
  | [] => some ((date, none), r)

/-- Whether a date exists in the calendar (years 1 to 9999). -/
def Date.valid (d : Date) : Bool := 1 ≤ d.year && d.day ≤ Time.daysInMonth d.year d.month

/-- Digits with single underscores between them: the digits and the rest. -/
def underscoredRest (p : Char → Bool) (acc : List Char) : List Char → List Char × List Char
  | '_' :: c :: rest => if p c then underscoredRest p (acc ++ [c]) rest else (acc, '_' :: c :: rest)
  | c :: rest => if p c then underscoredRest p (acc ++ [c]) rest else (acc, c :: rest)
  | [] => (acc, [])

/-- At least one digit, with single underscores between digits. -/
def underscored (p : Char → Bool) : List Char → Option (List Char × List Char)
  | c :: rest => if p c then some (underscoredRest p [c] rest) else none
  | [] => none

/-- The value of digits in a base. -/
def digitsIn (base : Nat) (ds : List Char) : Nat :=
  ds.foldl (fun acc d => acc * base + (hexDigitValue? d).getD 0) 0

/-- The double nearest to `m · 10^e`; a decimal far outside the range of doubles is
infinite or zero without computing its powers. -/
def nearestDouble (m : Nat) (e : Int) : Float :=
  let size : Int := (Nat.toDigits 10 m).length
  if m == 0 then 0.0
  else if size + e > 310 then 1.0 / 0.0
  else if size + e < -330 then 0.0
  else if 0 ≤ e then Float.ofScientific m false e.toNat
  else Float.ofScientific m true (-e).toNat

/-- An optional sign: whether it is negative, and the rest. -/
def sign : List Char → Bool × List Char
  | '+' :: rest => (false, rest)
  | '-' :: rest => (true, rest)
  | cs => (false, cs)

/-- An integer in base 16, 8 or 2 after its prefix. -/
def radixNumber? : List Char → Option (Value × List Char)
  | '0' :: c :: rest => do
    let (base, p) ← if c == 'x' then some (16, fun d => (hexDigitValue? d).isSome)
      else if c == 'o' then some (8, fun d => '0' ≤ d && d ≤ '7')
      else if c == 'b' then some (2, fun d => d == '0' || d == '1')
      else none
    let (ds, r) ← underscored p rest
    some (.integer (digitsIn base ds), r)
  | _ => none

/-- A decimal integer or double. -/
def decimalNumber? (cs : List Char) : Option (Value × List Char) := do
  let (neg, r) := sign cs
  let (intDigits, r) ← match r with
    | '0' :: more => some (['0'], more)
    | c :: _ => if '1' ≤ c && c ≤ '9' then underscored Char.isDigit r else none
    | [] => none
  let (frac, r) := match r with
    | '.' :: more =>
      match underscored Char.isDigit more with
      | some (ds, m) => (some ds, m)
      | none => (none, r)
    | _ => (none, r)
  let (expo, r) : Option Int × List Char := match r with
    | e :: more =>
      if e == 'e' || e == 'E' then
        let (eneg, m) := sign more
        match underscored Char.isDigit m with
        | some (ds, m') => let v : Int := digitsIn 10 ds; (some (if eneg then -v else v), m')
        | none => (none, r)
      else (none, r)
    | [] => (none, r)
  match frac, expo with
  | none, none =>
    let v : Int := digitsIn 10 intDigits
    some (.integer (if neg then -v else v), r)
  | _, _ =>
    let fs := frac.getD []
    let x := nearestDouble (digitsIn 10 (intDigits ++ fs)) (expo.getD 0 - fs.length)
    some (.float (if neg then -x else x), r)

/-- The special doubles `inf` and `nan`, with an optional sign. -/
def specialFloat? (cs : List Char) : Option (Value × List Char) :=
  let (neg, r) := sign cs
  match r with
  | 'i' :: 'n' :: 'f' :: more =>
    let inf : Float := 1.0 / 0.0
    some (.float (if neg then -inf else inf), more)
  | 'n' :: 'a' :: 'n' :: more => some (.float (0.0 / 0.0), more)
  | _ => none

/-- A value that is not a text, boolean, array or table: a date or time, a number or a
special double. A date that does not exist is an error. -/
def scalar? (cs : List Char) : Option (Value × List Char) :=
  match dateShape? cs with
  | some ((d, t), rest) =>
    if !d.valid then none
    else
      match t with
      | some (c, off) => some (.dateTime d c off, rest)
      | none => some (.date d, rest)
  | none =>
    match clock? cs with
    | some (c, rest) => some (.time c, rest)
    | none =>
      match radixNumber? cs with
      | some r => some r
      | none =>
        match decimalNumber? cs with
        | some r => some r
        | none => specialFloat? cs

/-! ## Marks and tables -/

/-- The two marks that guard tables. -/
inductive Mark where
  /-- Declared by a header, or reached by a dotted key of an earlier section. -/
  | explicit
  /-- Part of an array or inline table value. -/
  | frozen
deriving DecidableEq

/-- A mark on a key; a recursive mark holds for every key below it too. -/
structure MarkEntry where
  key : List String
  mark : Mark
  recursive : Bool

/-- The marks of a document. -/
abbrev Marks := List MarkEntry

/-- Whether a key carries a mark, on itself or recursively from a key above it. -/
def Marks.has (ms : Marks) (key : List String) (mark : Mark) : Bool :=
  !key.isEmpty && ms.any fun e =>
    e.mark == mark && (e.key == key ||
      (e.recursive && !e.key.isEmpty && e.key.length < key.length && e.key.isPrefixOf key))

/-- Adds a mark. -/
def Marks.add (ms : Marks) (key : List String) (mark : Mark) (recursive : Bool) : Marks :=
  ms ++ [⟨key, mark, recursive⟩]

/-- Removes the marks of a key and of every key below it. -/
def Marks.clear (ms : Marks) (key : List String) : Marks :=
  ms.filter fun e => !key.isPrefixOf e.key

/-- Replaces the value under a key in place. -/
def Members.put (ms : Members) (k : String) (v : Value) : Members :=
  ms.map fun p => if p.1 == k then (k, v) else p

/-- Changes the table at a path, creating the tables that are missing. When `lists`
holds, an array on the path stands for its last element, which must be a table. -/
def modifyTable (lists : Bool) (f : Members → Option Members) : List String → Members → Option Members
  | [], ms => f ms
  | k :: ks, ms =>
    match ms.get? k with
    | none => do
      let inner ← modifyTable lists f ks []
      some (ms ++ [(k, .table inner)])
    | some (.table inner) => do
      let inner ← modifyTable lists f ks inner
      some (ms.put k (.table inner))
    | some (.array items) =>
      if lists then
        match items.getLast? with
        | some (.table inner) => do
          let inner ← modifyTable lists f ks inner
          some (ms.put k (.array (items.dropLast ++ [.table inner])))
        | _ => none
      else none
    | some _ => none

/-- Adds a new key to a table; a key that is there already is an error. -/
def addNew (k : String) (v : Value) (ms : Members) : Option Members :=
  if ms.any (·.1 == k) then none else some (ms ++ [(k, v)])

/-- Whether a value is an array or a table. -/
def Value.isContainer : Value → Bool
  | .array _ | .table _ => true
  | _ => false

/-! ## Values -/

mutual
/-- A value and the rest after it. -/
def parseValue : Nat → List Char → Option (Value × List Char)
  | 0, _ => none
  | _ + 1, '"' :: '"' :: '"' :: rest => (multilineBasic rest).map fun (s, r) => (.string s, r)
  | _ + 1, '"' :: rest => (basicText rest).map fun (s, r) => (.string s, r)
  | _ + 1, '\'' :: '\'' :: '\'' :: rest => (multilineLiteral rest).map fun (s, r) => (.string s, r)
  | _ + 1, '\'' :: rest => (literalText rest).map fun (s, r) => (.string s, r)
  | _ + 1, 't' :: 'r' :: 'u' :: 'e' :: rest => some (.boolean true, rest)
  | _ + 1, 'f' :: 'a' :: 'l' :: 's' :: 'e' :: rest => some (.boolean false, rest)
  | fuel + 1, '[' :: rest => do
    let rest ← skipFiller (rest.length + 1) rest
    match rest with
    | ']' :: more => some (.array [], more)
    | _ => arrayItems fuel [] rest
  | fuel + 1, '{' :: rest =>
    match skipBlanks rest with
    | '}' :: more => some (.table [], more)
    | r => inlineMembers fuel [] [] r
  | _ + 1, cs => scalar? cs

/-- The items of an array from the first item on, up to and past the closing bracket. -/
def arrayItems : Nat → List Value → List Char → Option (Value × List Char)
  | 0, _, _ => none
  | fuel + 1, acc, cs => do
    let (v, rest) ← parseValue fuel cs
    let rest ← skipFiller (rest.length + 1) rest
    match rest with
    | ']' :: more => some (.array (acc ++ [v]), more)
    | ',' :: more =>
      let more ← skipFiller (more.length + 1) more
      match more with
      | ']' :: m => some (.array (acc ++ [v]), m)
      | _ => arrayItems fuel (acc ++ [v]) more
    | _ => none

/-- The members of an inline table from the first key on, up to and past the closing
brace. -/
def inlineMembers : Nat → Members → Marks → List Char → Option (Value × List Char)
  | 0, _, _, _ => none
  | fuel + 1, data, marks, cs => do
    let (key, rest) ← readKey cs
    let rest ← expectChar '=' rest
    let (v, rest) ← parseValue fuel (skipBlanks rest)
    if marks.has key .frozen then none
    let data ← modifyTable false (addNew (key.getLastD "") v) key.dropLast data
    match skipBlanks rest with
    | '}' :: more => some (.table data, more)
    | ',' :: more =>
      let marks := if v.isContainer then marks.add key .frozen true else marks
      inlineMembers fuel data marks (skipBlanks more)
    | _ => none
end

/-! ## Documents -/

/-- What reading a document has built so far: the top-level table, the marks, and the
keys to be marked explicit at the next header. -/
structure Doc where
  data : Members := []
  marks : Marks := []
  pending : List (List String) := []

/-- Marks the pending keys explicit. -/
def Doc.settle (d : Doc) : Doc :=
  { d with marks := d.pending.foldl (fun ms k => ms.add k .explicit false) d.marks, pending := [] }

/-- A `key = value` statement under the current header. The tables that its dotted key
passes through may not have been declared, and become explicit at the next header. -/
def Doc.keyValue (d : Doc) (header : List String) (cs : List Char) : Option (Doc × List Char) := do
  let (key, rest) ← readKey cs
  let rest ← expectChar '=' rest
  let rest := skipBlanks rest
  let (v, rest) ← parseValue (2 * rest.length + 4) rest
  let passed := (List.range (key.length - 1)).map fun i => header ++ key.take (i + 1)
  if passed.any (d.marks.has · .explicit) then none
  let parent := header ++ key.dropLast
  if d.marks.has parent .frozen then none
  let data ← modifyTable true (addNew (key.getLastD "") v) parent d.data
  let marks := if v.isContainer then d.marks.add (header ++ key) .frozen true else d.marks
  some ({ data := data, marks := marks, pending := d.pending ++ passed }, rest)

/-- A table header `[key]`, after the bracket. -/
def Doc.table (d : Doc) (cs : List Char) : Option (Doc × List String × List Char) := do
  let (key, rest) ← readKey (skipBlanks cs)
  if d.marks.has key .explicit || d.marks.has key .frozen then none
  let data ← modifyTable true some key d.data
  let rest ← expectChar ']' rest
  some ({ d with data := data, marks := d.marks.add key .explicit false }, key, rest)

/-- Appends an empty table to the array under a key, or starts the array. -/
def appendTable (k : String) (ms : Members) : Option Members :=
  match ms.get? k with
  | some (.array items) => some (ms.put k (.array (items ++ [.table []])))
  | some _ => none
  | none => some (ms ++ [(k, .array [.table []])])

/-- An array-of-tables header `[[key]]`, after the brackets. The marks below the key are
cleared, as they belonged to the previous table of the array. -/
def Doc.arrayTable (d : Doc) (cs : List Char) : Option (Doc × List String × List Char) := do
  let (key, rest) ← readKey (skipBlanks cs)
  if d.marks.has key .frozen then none
  let marks := (d.marks.clear key).add key .explicit false
  let data ← modifyTable true (appendTable (key.getLastD "")) key.dropLast d.data
  let rest ← expectChar ']' rest
  let rest ← expectChar ']' rest
  some ({ d with data := data, marks := marks }, key, rest)

/-- One statement: a key and value, a header, or nothing before a comment. -/
def Doc.statement (d : Doc) (header : List String) : List Char →
    Option (Doc × List String × List Char)
  | '[' :: '[' :: rest => (d.settle.arrayTable rest).map fun (d, k, r) => (d, k, skipBlanks r)
  | '[' :: rest => (d.settle.table rest).map fun (d, k, r) => (d, k, skipBlanks r)
  | '#' :: rest => some (d, header, '#' :: rest)
  | c :: rest =>
    if isKeyStart c then
      (d.keyValue header (c :: rest)).map fun (d, r) => (d, header, skipBlanks r)
    else none
  | [] => none

/-- Reads statements to the end of the document. Each statement ends with its line. -/
def Doc.statements : Nat → Doc → List String → List Char → Option Doc
  | 0, _, _, _ => none
  | fuel + 1, d, header, cs =>
    match skipBlanks cs with
    | [] => some d
    | '\n' :: rest => Doc.statements fuel d header rest
    | ds => do
      let (d, header, rest) ← d.statement header ds
      let rest ← skipComment rest
      match rest with
      | [] => some d
      | '\n' :: more => Doc.statements fuel d header more
      | _ => none

/-- The top-level table of a document, if it is valid TOML. -/
def parse? (text : String) : Option Members :=
  let cs := (replaceAll text "\r\n" "\n").toList
  (Doc.statements (cs.length + 1) {} [] cs).map (·.data)

theorem statements_nil (fuel : Nat) (d : Doc) (header : List String) :
    Doc.statements (fuel + 1) d header [] = some d := by
  simp [Doc.statements, skipBlanks]

end TransitKit.Toml
