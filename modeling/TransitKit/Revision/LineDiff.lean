/-!
# Line differences in unified form

Two versions of a text are compared line by line, each line keeping its line feed. The edit
script keeps a longest common subsequence of lines and shows, between two kept lines, all drops
before all additions. It is shown in hunks with three lines of context, changes close together
sharing a hunk; a hunk's header gives its ranges and the nearest line above it that starts with
a letter, and a last line without a line feed is marked.
-/

namespace TransitKit.Revision

/-- The lines of a text, each with its line feed; the last has none when the text does
not end with one. -/
def splitLines (s : String) : List String :=
  let parts := s.splitOn "\n"
  let n := parts.length
  parts.zipIdx.filterMap fun (p, i) =>
    if i + 1 < n then some (p ++ "\n") else if p.isEmpty then none else some p

/-- One step of an edit script. -/
inductive Edit where
  | keep (line : String)
  | drop (line : String)
  | add (line : String)
deriving Repr, BEq, Inhabited

/-- The lengths of the longest common subsequences of every pair of suffixes: row `i`,
column `j` is for the old lines from `i` and the new lines from `j`. -/
def suffixTable (a b : Array String) : Array (Array Nat) :=
  let m := b.size
  let last := Array.replicate (m + 1) 0
  let rows := (List.range a.size).reverse.foldl (fun (rows : List (Array Nat)) i =>
    let below := rows.headD last
    let row := (List.range m).reverse.foldl (fun (row : Array Nat) j =>
      let v := if a.getD i "" == b.getD j "" then below.getD (j + 1) 0 + 1
        else max (below.getD j 0) (row.getD (j + 1) 0)
      row.set! j v) (Array.replicate (m + 1) 0)
    row :: rows) [last]
  rows.toArray

/-- Walks the table from old line `i` and new line `j`. -/
def walk (a b : Array String) (t : Array (Array Nat)) : Nat → Nat → Nat → List Edit
  | 0, _, _ => []
  | fuel + 1, i, j =>
    if i < a.size ∧ j < b.size ∧ a.getD i "" == b.getD j "" then
      .keep (a.getD i "") :: walk a b t fuel (i + 1) (j + 1)
    else if i < a.size ∧ (j ≥ b.size ∨ (t.getD (i + 1) #[]).getD j 0 ≥ (t.getD i #[]).getD (j + 1) 0) then
      .drop (a.getD i "") :: walk a b t fuel (i + 1) j
    else if j < b.size then .add (b.getD j "") :: walk a b t fuel i (j + 1)
    else []

/-- The edit script that turns the old lines into the new ones. -/
def editScript (old new : List String) : List Edit :=
  let a := old.toArray
  let b := new.toArray
  walk a b (suffixTable a b) (a.size + b.size + 1) 0 0

/-- A step of a script with the old and new line numbers where it stands. -/
structure Placed where
  edit : Edit
  oldAt : Nat
  newAt : Nat

/-- Places every step of a script. -/
def place : List Edit → Nat → Nat → List Placed
  | [], _, _ => []
  | e :: rest, i, j =>
    match e with
    | .keep _ => ⟨e, i, j⟩ :: place rest (i + 1) (j + 1)
    | .drop _ => ⟨e, i, j⟩ :: place rest (i + 1) j
    | .add _ => ⟨e, i, j⟩ :: place rest i (j + 1)

/-- Whether a step changes something. -/
def Placed.changes (p : Placed) : Bool :=
  match p.edit with
  | .keep _ => false
  | _ => true

/-- A hunk: the old and new ranges it covers and the steps inside them. -/
structure Hunk where
  oldStart : Nat
  oldCount : Nat
  newStart : Nat
  newCount : Nat
  steps : List Placed

/-- The number of lines of context around changes. -/
def contextLines : Nat := 3

/-- The runs of changes of a placed script, by the positions of their first and last
steps. -/
def changeSpans (steps : List Placed) : List (Nat × Nat) :=
  let (spans, _) := steps.zipIdx.foldl (fun (acc : List (Nat × Nat) × Bool) (p, k) =>
    let (spans, inRun) := acc
    if p.changes then
      match inRun, spans with
      | true, (first, _) :: rest => ((first, k) :: rest, true)
      | _, _ => ((k, k) :: spans, true)
    else (spans, false)) ([], false)
  spans.reverse

/-- Joins runs of changes that at most twice the context of kept steps separate. -/
def joinSpans (spans : List (Nat × Nat)) : List (Nat × Nat) :=
  (spans.foldl (fun (acc : List (Nat × Nat)) (first, last) =>
    match acc with
    | (first0, last0) :: rest =>
      if first - last0 - 1 ≤ 2 * contextLines then (first0, last) :: rest
      else (first, last) :: acc
    | [] => [(first, last)]) []).reverse

/-- The hunk of a joined run of changes, with context from the whole script. -/
def hunkOf (all : List Placed) (oldTotal newTotal : Nat) (span : Nat × Nat) : Option Hunk := do
  let first ← all[span.1]?
  let last ← all[span.2]?
  let oldStart := first.oldAt - min contextLines first.oldAt
  let newStart := first.newAt - min contextLines first.newAt
  let lastOld := match last.edit with
    | .drop _ => last.oldAt + 1
    | _ => last.oldAt
  let lastNew := match last.edit with
    | .add _ => last.newAt + 1
    | _ => last.newAt
  let oldEnd := min oldTotal (lastOld + contextLines)
  let newEnd := min newTotal (lastNew + contextLines)
  let steps := all.filter fun p =>
    match p.edit with
    | .add _ => newStart ≤ p.newAt ∧ p.newAt < newEnd
    | _ => oldStart ≤ p.oldAt ∧ p.oldAt < oldEnd
  return ⟨oldStart, oldEnd - oldStart, newStart, newEnd - newStart, steps⟩

/-- A line as shown after its mark, with the note for a missing line feed. -/
def shownLine (mark : Char) (line : String) : String :=
  if line.endsWith "\n" then String.singleton mark ++ line
  else String.singleton mark ++ line ++ "\n\\ No newline at end of file\n"

/-- A stretch of changes as shown: its dropped lines, then its added lines. -/
def shownChanges (changes : List Edit) : String :=
  String.join (changes.filterMap fun e => match e with
    | .drop l => some (shownLine '-' l)
    | _ => none) ++
  String.join (changes.filterMap fun e => match e with
    | .add l => some (shownLine '+' l)
    | _ => none)

/-- The body of a hunk: kept lines as context, and each stretch of changes between
them. -/
def hunkBody (steps : List Placed) : String :=
  let (out, pending) := steps.foldl (fun (acc : String × List Edit) p =>
    match p.edit with
    | .keep l => (acc.1 ++ shownChanges acc.2 ++ shownLine ' ' l, [])
    | e => (acc.1, acc.2 ++ [e])) ("", [])
  out ++ shownChanges pending

/-- A range of a hunk header: the start, and the count unless it is one. An empty range
starts at the line before it. -/
def rangeText (start count : Nat) : String :=
  let first := if count == 0 then start else start + 1
  toString first ++ (if count == 1 then "" else "," ++ toString count)

/-- Whether a line names the function or section it starts. -/
def isHeadingLine (line : String) : Bool :=
  match line.toList.head? with
  | some c => (c.toNat < 128 && c.isAlpha) || c == '_' || c == '$'
  | none => false

/-- A heading line as shown in a hunk header: at most 80 bytes, trailing blanks
removed. -/
def headingText (line : String) : String :=
  let cut := line.toList.foldl (fun (acc : List Char × Nat) c =>
    let n := acc.2 + c.utf8Size
    if n ≤ 80 then (acc.1 ++ [c], n) else (acc.1, 81)) ([], 0)
  String.ofList (cut.1.reverse.dropWhile (fun c => c == ' ' || c == '\t' || c == '\n' || c == '\r' ||
    c == '\x0b' || c == '\x0c')).reverse

/-- The nearest heading line at or above old line `start` and below `limit`. -/
def headingAbove (old : Array String) (start limit : Nat) : Option String :=
  ((List.range (start - limit)).map (start - ·)).findSome? fun i =>
    let l := old.getD (i - 1) ""
    if isHeadingLine l then some (headingText l) else none

/-- The hunks of two texts, shown in unified form. -/
def unifiedHunks (oldText newText : String) : String :=
  let old := splitLines oldText
  let new := splitLines newText
  let all := place (editScript old new) 0 0
  let hunks := (joinSpans (changeSpans all)).filterMap (hunkOf all old.length new.length)
  let oldArr := old.toArray
  let (out, _, _) := hunks.foldl (fun (acc : String × Nat × String) h =>
    let (out, limit, heading) := acc
    -- lines are searched from the one before the hunk down to the previous hunk's start
    let heading := if h.oldStart > limit then (headingAbove oldArr h.oldStart limit).getD heading
      else heading
    let header := "@@ -" ++ rangeText h.oldStart h.oldCount ++ " +" ++ rangeText h.newStart h.newCount ++
      " @@" ++ (if heading.isEmpty then "" else " " ++ heading) ++ "\n"
    (out ++ header ++ hunkBody h.steps, h.oldStart, heading)) ("", 0, "")
  out

theorem rangeText_single (start : Nat) : rangeText start 1 = toString (start + 1) := by
  simp [rangeText]

end TransitKit.Revision
