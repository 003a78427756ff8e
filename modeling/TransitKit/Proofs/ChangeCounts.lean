import Mathlib
import TransitKit.Drift.Summary
import TransitKit.Proofs.UrlSplitting
import TransitKit.Proofs.EnumModules

/-!
# Counting the lines of a unified diff

The summary of a patch looks only at how each line starts. For the patches `git diff` writes,
the additions and deletions are the changed lines except those whose text starts like a file
header, and the files are the paths of the header lines, with `dev/null` for a created or
deleted file and the misread hunk lines added. So the summary counts every changed line and
names just the changed paths exactly when no hunk line reads as a header and no file is created
or deleted.
-/

namespace TransitKit.Drift

open Text

/-! ### The summary's reading of one line -/

/-- A line starting with neither `+` nor `-`, which the summary passes over. -/
def quiet (line : String) : Bool := !line.startsWith "+" && !line.startsWith "-"

/-- The file a line names: what follows its first `/`, when it reads as a file header. -/
def lineName (line : String) : Option String := if isFileLine line then afterSlash line else none

/-- Whether a line counts as an addition. -/
def lineAdds (line : String) : Bool := !isFileLine line && line.startsWith "+"

/-- Whether a line counts as a deletion. -/
def lineDeletes (line : String) : Bool := !isFileLine line && line.startsWith "-"

theorem quiet_iff_toList (line : String) :
    quiet line ↔ ¬ ['+'] <+: line.toList ∧ ¬ ['-'] <+: line.toList := by
  simp [quiet]

theorem isFileLine_of_quiet {line : String} (h : quiet line) : isFileLine line = false := by
  cases hl : line.toList with
  | nil => simp [isFileLine, hl]
  | cons c cs =>
    simp only [quiet, isFileLine, Bool.and_eq_true, Bool.not_eq_true', Bool.eq_false_iff, ne_eq,
      String.startsWith_string_iff, hl] at h ⊢
    simp_all [List.cons_prefix_cons]

theorem startsWith_minus_of_plus {line : String} (h : line.startsWith "+") :
    line.startsWith "-" = false := by
  cases hl : line.toList with
  | nil => simp [hl] at h
  | cons c cs =>
    simp only [Bool.eq_false_iff, ne_eq, String.startsWith_string_iff, hl] at h ⊢
    simp_all [List.cons_prefix_cons]
    subst h
    decide

@[simp] theorem lineName_of_quiet {line : String} (h : quiet line) : lineName line = none := by
  simp [lineName, isFileLine_of_quiet h]

@[simp] theorem lineAdds_of_quiet {line : String} (h : quiet line) : lineAdds line = false := by
  simp only [quiet, Bool.and_eq_true, Bool.not_eq_true'] at h
  simp [lineAdds, h.1]

@[simp] theorem lineDeletes_of_quiet {line : String} (h : quiet line) :
    lineDeletes line = false := by
  simp only [quiet, Bool.and_eq_true, Bool.not_eq_true'] at h
  simp [lineDeletes, h.2]

@[simp] theorem lineAdds_of_isFileLine {line : String} (h : isFileLine line) :
    lineAdds line = false := by
  simp [lineAdds, h]

@[simp] theorem lineDeletes_of_isFileLine {line : String} (h : isFileLine line) :
    lineDeletes line = false := by
  simp [lineDeletes, h]

/-- The piece after the first `/` of a text that has one. -/
theorem afterSlash_of_toList {s x p : String} (hs : s.toList = x.toList ++ '/' :: p.toList)
    (hx : '/' ∉ x.toList) : afterSlash s = some p := by
  have hsplit : splitAt '/' s = x :: splitAt '/' p := by
    simp [splitAt, hs, List.splitOn_append_cons_self_of_not_mem hx]
  obtain ⟨y, ys, hys⟩ := List.exists_cons_of_ne_nil (by simp [splitAt] : splitAt '/' p ≠ [])
  have hjoin := Url.intercalate_splitAt '/' p
  rw [hys] at hjoin
  simp only [afterSlash, hsplit, hys]
  exact congrArg some hjoin

/-- One line's step: the summary notes the file the line names and counts the line. -/
theorem countLine_eq (files : List String) (adds dels : Nat) (line : String) :
    countLine (files, adds, dels) line =
      ((lineName line).elim files (insertSorted · files),
        adds + (lineAdds line).toNat, dels + (lineDeletes line).toNat) := by
  unfold countLine lineName lineAdds lineDeletes
  by_cases hfile : isFileLine line
  · cases afterSlash line <;> simp [hfile]
  · by_cases hplus : line.startsWith "+"
    · simp [hfile, hplus, startsWith_minus_of_plus hplus]
    · cases line.startsWith "-" <;> simp [hfile, hplus]

/-! ### The files noted -/

theorem mem_insertSorted {x p : String} {files : List String} :
    p ∈ insertSorted x files ↔ p = x ∨ p ∈ files := by
  induction files with
  | nil => simp [insertSorted]
  | cons y ys ih =>
    unfold insertSorted
    by_cases hxy : x = y
    · subst hxy
      simp
    · by_cases hlt : x < y
      · simp [hxy, hlt]
      · simp only [beq_iff_eq, hxy, if_false, hlt, List.mem_cons, ih]
        tauto

theorem insertSorted_pairwise {x : String} {files : List String}
    (h : files.Pairwise (· < ·)) : (insertSorted x files).Pairwise (· < ·) := by
  induction files with
  | nil => simp [insertSorted]
  | cons y ys ih =>
    have hy := List.pairwise_cons.mp h
    unfold insertSorted
    by_cases hxy : x = y
    · simpa [hxy] using h
    · by_cases hlt : x < y
      · simp only [beq_iff_eq, hxy, if_false, hlt, if_true]
        exact List.Pairwise.cons (fun z hz => by
          rcases List.mem_cons.mp hz with rfl | hz
          · exact hlt
          · exact lt_trans hlt (hy.1 z hz)) h
      · simp only [beq_iff_eq, hxy, if_false, hlt]
        have hyx : y < x := lt_of_le_of_ne (not_lt.mp hlt) (Ne.symm hxy)
        refine List.Pairwise.cons (fun z hz => ?_) (ih hy.2)
        rcases mem_insertSorted.mp hz with rfl | hz
        · exact hyx
        · exact hy.1 z hz

/-- A run over lines: the files stay sorted, gain the names of the lines, and the counts grow
by the lines counted. -/
theorem foldl_countLine {lines files : List String} {adds dels : Nat}
    {r : List String × Nat × Nat} (hfiles : files.Pairwise (· < ·))
    (hr : lines.foldl countLine (files, adds, dels) = r) :
    r.1.Pairwise (· < ·) ∧ (∀ p, p ∈ r.1 ↔ p ∈ files ∨ p ∈ lines.filterMap lineName) ∧
      r.2.1 = adds + lines.countP lineAdds ∧ r.2.2 = dels + lines.countP lineDeletes := by
  induction lines generalizing files adds dels with
  | nil =>
    subst hr
    exact ⟨hfiles, by simp, rfl, rfl⟩
  | cons line lines ih =>
    rw [List.foldl_cons, countLine_eq] at hr
    have hnext : ((lineName line).elim files (insertSorted · files)).Pairwise (· < ·) := by
      cases lineName line
      · exact hfiles
      · exact insertSorted_pairwise hfiles
    obtain ⟨hsorted, hmem, hadds, hdels⟩ := ih hnext hr
    refine ⟨hsorted, fun p => ?_, ?_, ?_⟩
    · rw [hmem]
      cases hname : lineName line with
      | none => simp [hname]
      | some name =>
        simp only [Option.elim_some, mem_insertSorted, List.filterMap_cons, hname, List.mem_cons]
        tauto
    · rw [hadds, List.countP_cons]
      cases lineAdds line <;> simp [Nat.add_assoc, Nat.add_comm 1]
    · rw [hdels, List.countP_cons]
      cases lineDeletes line <;> simp [Nat.add_assoc, Nat.add_comm 1]

/-- Lines each ended by a newline split back into those lines, and an empty last piece. -/
theorem splitAt_joinLines {ls : List String} (h : ∀ l ∈ ls, '\n' ∉ l.toList) :
    splitAt '\n' (String.join (ls.map (· ++ "\n"))) = ls ++ [""] := by
  have hclean : ∀ l ∈ ls.map String.toList, '\n' ∉ l := by
    simpa using h
  have hchars : (String.join (ls.map (· ++ "\n"))).toList =
      ((ls.map String.toList).map (· ++ ['\n'])).flatten := by
    simp [String.toList_join, List.flatMap, Function.comp_def]
  rw [splitAt, hchars, Codegen.splitOn_terminated hclean]
  simp [Function.comp_def]

/-! ### Patches as `git diff` writes them -/

/-- A line of a hunk, with its text after the marker. -/
inductive HunkLine
  | kept (text : String)
  | added (text : String)
  | removed (text : String)
deriving DecidableEq, Repr

namespace HunkLine

/-- The line as the patch writes it: its marker, then its text. -/
def line : HunkLine → String
  | kept t => " " ++ t
  | added t => "+" ++ t
  | removed t => "-" ++ t

def isAdded : HunkLine → Bool
  | added _ => true
  | _ => false

def isRemoved : HunkLine → Bool
  | removed _ => true
  | _ => false

/-- Whether the line starts like a file header: an added text starting with `++`, or a
removed one starting with `--`. -/
def readsAsHeader : HunkLine → Bool
  | kept _ => false
  | added t => t.startsWith "++"
  | removed t => t.startsWith "--"

/-- The file name the summary reads off a line it takes for a header. -/
def misreadName (l : HunkLine) : Option String :=
  if l.readsAsHeader then afterSlash l.line else none

theorem isFileLine_line (l : HunkLine) : isFileLine l.line = l.readsAsHeader := by
  rw [Bool.eq_iff_iff]
  cases l <;> simp [line, readsAsHeader, isFileLine, String.startsWith_string_iff]

@[simp] theorem lineName_line (l : HunkLine) : lineName l.line = l.misreadName := by
  simp [lineName, misreadName, isFileLine_line]

@[simp] theorem lineAdds_line (l : HunkLine) :
    lineAdds l.line = (l.isAdded && !l.readsAsHeader) := by
  rw [lineAdds, isFileLine_line, Bool.and_comm]
  cases l <;> simp [line, isAdded]

@[simp] theorem lineDeletes_line (l : HunkLine) :
    lineDeletes l.line = (l.isRemoved && !l.readsAsHeader) := by
  rw [lineDeletes, isFileLine_line, Bool.and_comm]
  cases l <;> simp [line, isRemoved]

end HunkLine

/-- A hunk: the text after `@@` on its header line, and its lines. -/
structure Hunk where
  range : String
  body : List HunkLine
deriving DecidableEq, Repr

/-- A hunk's lines as the patch writes them. -/
def Hunk.lines (h : Hunk) : List String := ("@@" ++ h.range) :: h.body.map HunkLine.line

/-- How a header line writes the path of one side: `a/P` or `b/P`, or `/dev/null` when there
is no file on that side. -/
def sidePath (side : String) : Option String → String
  | some p => side ++ "/" ++ p
  | none => "/dev/null"

/-- The patch of one file as `git diff` writes it: the paths before and after (none for a
created or deleted file), the extended header lines (modes, index, renames) and the hunks. -/
structure FilePatch where
  oldPath : Option String
  newPath : Option String
  extended : List String
  hunks : List Hunk
deriving DecidableEq, Repr

namespace FilePatch

/-- The `diff --git` line, which names a created or deleted file on both sides. -/
def gitLine (f : FilePatch) : String :=
  "diff --git a/" ++ (f.oldPath <|> f.newPath).getD "" ++ " b/" ++ (f.newPath <|> f.oldPath).getD ""

def lines (f : FilePatch) : List String :=
  f.gitLine :: f.extended ++ ["--- " ++ sidePath "a" f.oldPath, "+++ " ++ sidePath "b" f.newPath] ++
    f.hunks.flatMap Hunk.lines

def hunkLines (f : FilePatch) : List HunkLine := f.hunks.flatMap Hunk.body

/-- The names the summary reads off the patch: the two paths, `dev/null` standing for no file,
and the names of misread hunk lines. -/
def namedFiles (f : FilePatch) : List String :=
  f.oldPath.getD "dev/null" :: f.newPath.getD "dev/null" :: f.hunkLines.filterMap HunkLine.misreadName

/-- A patch git can write: no line holds a newline, and no extended header line starts
with `+` or `-`. -/
structure WellFormed (f : FilePatch) : Prop where
  single : ∀ l ∈ f.lines, '\n' ∉ l.toList
  extended_quiet : ∀ l ∈ f.extended, quiet l

end FilePatch

/-- The patch of a list of files, each line ended by a newline. -/
def diffText (fs : List FilePatch) : String :=
  String.join ((fs.flatMap FilePatch.lines).map (· ++ "\n"))

/-! ### Reading a patch line by line -/

section Reading

variable {marker side : String}

theorem afterSlash_sidePath (hm : '/' ∉ marker.toList) (hs : '/' ∉ side.toList)
    (path : Option String) : afterSlash (marker ++ sidePath side path) = some (path.getD "dev/null") := by
  cases path with
  | some p =>
    exact @afterSlash_of_toList _ (marker ++ side) _ (by simp [sidePath]) (by simp [hm, hs])
  | none => exact @afterSlash_of_toList _ marker _ (by simp [sidePath]) hm

theorem isFileLine_old (path : Option String) : isFileLine ("--- " ++ sidePath "a" path) := by
  simp [isFileLine]

theorem isFileLine_new (path : Option String) : isFileLine ("+++ " ++ sidePath "b" path) := by
  simp [isFileLine]

theorem lineName_old (path : Option String) :
    lineName ("--- " ++ sidePath "a" path) = some (path.getD "dev/null") := by
  rw [lineName, if_pos (isFileLine_old path)]
  exact afterSlash_sidePath (by decide) (by decide) path

theorem lineName_new (path : Option String) :
    lineName ("+++ " ++ sidePath "b" path) = some (path.getD "dev/null") := by
  rw [lineName, if_pos (isFileLine_new path)]
  exact afterSlash_sidePath (by decide) (by decide) path

end Reading

namespace FilePatch

variable {f : FilePatch}

/-- The header line of a patch, opened by `delta`: an equation lemma for `gitLine` is slow to
build. -/
theorem gitLine_eq (f : FilePatch) : f.gitLine =
    "diff --git a/" ++ (f.oldPath <|> f.newPath).getD "" ++ " b/" ++ (f.newPath <|> f.oldPath).getD "" := by
  delta gitLine
  rfl

theorem quiet_gitLine (f : FilePatch) : quiet f.gitLine := by
  simp only [gitLine_eq, quiet_iff_toList, String.toList_append]
  simp

theorem quiet_hunkHeader (h : Hunk) : quiet ("@@" ++ h.range) := by
  simp only [quiet_iff_toList, String.toList_append]
  simp

/-- A count that passes over quiet lines and file headers counts the hunk lines only. -/
theorem countP_lines (hf : f.WellFormed) {p : String → Bool}
    (hquiet : ∀ l, quiet l → p l = false) (hfile : ∀ l, isFileLine l → p l = false) :
    f.lines.countP p = f.hunkLines.countP (fun l => p l.line) := by
  have hext : f.extended.countP p = 0 :=
    List.countP_eq_zero.mpr fun l hl => by simp [hquiet l (hf.extended_quiet l hl)]
  have hhunk (h : Hunk) : h.lines.countP p = h.body.countP (fun l => p l.line) := by
    simp [Hunk.lines, hquiet _ (quiet_hunkHeader h), List.countP_map,
      Function.comp_def]
  simp only [lines, List.cons_append, List.countP_cons, List.countP_append, hext,
    hquiet _ (quiet_gitLine f), hfile _ (isFileLine_old _), hfile _ (isFileLine_new _),
    List.countP_flatMap, Function.comp_def, hhunk, hunkLines]
  simp

/-- The names read off a patch's lines are its named files. -/
theorem filterMap_lineName_lines (hf : f.WellFormed) : f.lines.filterMap lineName = f.namedFiles := by
  have hext : f.extended.filterMap lineName = [] :=
    List.filterMap_eq_nil_iff.mpr fun l hl => lineName_of_quiet (hf.extended_quiet l hl)
  have hhunk (h : Hunk) : h.lines.filterMap lineName = h.body.filterMap HunkLine.misreadName := by
    simp [Hunk.lines, lineName_of_quiet (quiet_hunkHeader h), List.filterMap_map]
  simp [lines, List.filterMap_flatMap, hext, lineName_of_quiet (quiet_gitLine f), lineName_old,
    lineName_new, hhunk, namedFiles, hunkLines]

end FilePatch

/-- Counting over the patch of many files is counting over the hunk lines of them all. -/
theorem countP_flatMap_lines {fs : List FilePatch} (hfs : ∀ f ∈ fs, f.WellFormed)
    {p : String → Bool} (hquiet : ∀ l, quiet l → p l = false)
    (hfile : ∀ l, isFileLine l → p l = false) :
    (fs.flatMap FilePatch.lines).countP p =
      (fs.flatMap FilePatch.hunkLines).countP (fun l => p l.line) := by
  simp only [List.countP_flatMap]
  congr 1
  exact List.map_congr_left fun f hf => FilePatch.countP_lines (hfs f hf) hquiet hfile

theorem splitAt_diffText {fs : List FilePatch} (hfs : ∀ f ∈ fs, ∀ l ∈ f.lines, '\n' ∉ l.toList) :
    splitAt '\n' (diffText fs) = fs.flatMap FilePatch.lines ++ [""] := by
  refine splitAt_joinLines fun l hl => ?_
  obtain ⟨f, hf, hl⟩ := List.mem_flatMap.mp hl
  exact hfs f hf l hl

/-- The summary of a patch reads the lines of its files: it is the run of `countLine` over them
and over the empty piece after the last newline, which changes nothing. -/
theorem ChangeSummary.summary_diffText {fs : List FilePatch} (hfs : ∀ f ∈ fs, f.WellFormed)
    (time : String) :
    (ofPatch (diffText fs) time).files.Pairwise (· < ·) ∧
      (∀ p, p ∈ (ofPatch (diffText fs) time).files ↔
        p ∈ (fs.flatMap FilePatch.lines).filterMap lineName) ∧
      (ofPatch (diffText fs) time).additions = (fs.flatMap FilePatch.lines).countP lineAdds ∧
      (ofPatch (diffText fs) time).deletions = (fs.flatMap FilePatch.lines).countP lineDeletes := by
  have hsplit := splitAt_diffText fun f hf => (hfs f hf).single
  have hempty : quiet "" := by decide
  obtain ⟨⟨files, adds, dels⟩, hr⟩ :
      ∃ r, (fs.flatMap FilePatch.lines ++ [""]).foldl countLine ([], 0, 0) = r := ⟨_, rfl⟩
  obtain ⟨hsorted, hmem, hadds, hdels⟩ := foldl_countLine List.Pairwise.nil hr
  simp only at hsorted hmem hadds hdels
  simp only [ChangeSummary.ofPatch, hsplit, hr]
  refine ⟨hsorted, fun p => ?_, ?_, ?_⟩
  · simp [hmem, hempty]
  · simp [hadds, hempty]
  · simp [hdels, hempty]

/-- The names read off the patch of many files are the named files of them all. -/
theorem filterMap_lineName_flatMap {fs : List FilePatch} (hfs : ∀ f ∈ fs, f.WellFormed) :
    (fs.flatMap FilePatch.lines).filterMap lineName = fs.flatMap FilePatch.namedFiles := by
  rw [List.filterMap_flatMap]
  exact List.flatMap_congr fun f hf => FilePatch.filterMap_lineName_lines (hfs f hf)

/-- **The summary of a patch.** For the patch `git diff` writes of any list of files, the
summary counts the added lines and the removed lines except those that read as file headers,
and lists, sorted and each once, the names read off the `---` and `+++` lines and off the
misread lines. -/
theorem ChangeSummary.ofPatch_diffText {fs : List FilePatch} (hfs : ∀ f ∈ fs, f.WellFormed)
    (time : String) :
    (ChangeSummary.ofPatch (diffText fs) time).additions =
        (fs.flatMap FilePatch.hunkLines).countP (fun l => l.isAdded && !l.readsAsHeader) ∧
      (ChangeSummary.ofPatch (diffText fs) time).deletions =
        (fs.flatMap FilePatch.hunkLines).countP (fun l => l.isRemoved && !l.readsAsHeader) ∧
      (ChangeSummary.ofPatch (diffText fs) time).files.Pairwise (· < ·) ∧
      ∀ p, p ∈ (ChangeSummary.ofPatch (diffText fs) time).files ↔ ∃ f ∈ fs, p ∈ f.namedFiles := by
  obtain ⟨hsorted, hmem, hadds, hdels⟩ := ChangeSummary.summary_diffText hfs time
  refine ⟨?_, ?_, hsorted, fun p => ?_⟩
  · rw [hadds, countP_flatMap_lines hfs (fun _ => lineAdds_of_quiet)
      (fun _ => lineAdds_of_isFileLine)]
    simp
  · rw [hdels, countP_flatMap_lines hfs (fun _ => lineDeletes_of_quiet)
      (fun _ => lineDeletes_of_isFileLine)]
    simp
  · rw [hmem, filterMap_lineName_flatMap hfs, List.mem_flatMap]

/-- An edit that removes a line and adds one. -/
def plainEdit : List FilePatch :=
  [⟨some "m.py", some "m.py", ["index 1111111..2222222 100644"],
      [⟨" -1 +1 @@", [.removed "x", .added "y"]⟩]⟩]

theorem plainEdit_summary :
    (∀ f ∈ plainEdit, f.WellFormed) ∧
      (ChangeSummary.ofPatch (diffText plainEdit) "t").additions = 1 ∧
      (ChangeSummary.ofPatch (diffText plainEdit) "t").deletions = 1 := by
  have hwf : ∀ f ∈ plainEdit, f.WellFormed := by
    intro f hf
    rw [plainEdit, List.mem_singleton] at hf
    subst hf
    constructor <;>
      simp only [FilePatch.lines, FilePatch.gitLine_eq, sidePath, List.flatMap_cons,
        List.flatMap_nil, Hunk.lines, List.map_cons, List.map_nil, HunkLine.line,
        quiet_iff_toList] <;> simp
  obtain ⟨hadds, hdels, -, -⟩ := ChangeSummary.ofPatch_diffText hwf "t"
  exact ⟨hwf, hadds.trans rfl, hdels.trans rfl⟩

/-- An edited file and a created one, where the edit removes a line `--x`. -/
def dashedRemoval : List FilePatch :=
  [⟨some "m.py", some "m.py", ["index 1111111..2222222 100644"],
      [⟨" -1,2 +1 @@", [.removed "--x", .kept "keep"]⟩]⟩,
    ⟨none, some "n.py", ["new file mode 100644", "index 0000000..3333333"],
      [⟨" -0,0 +1 @@", [.added "y"]⟩]⟩]

theorem dashedRemoval_wellFormed : ∀ f ∈ dashedRemoval, f.WellFormed := by
  intro f hf
  simp only [dashedRemoval, List.mem_cons, List.not_mem_nil, or_false] at hf
  rcases hf with rfl | rfl <;> constructor <;>
    simp only [FilePatch.lines, FilePatch.gitLine_eq, sidePath, List.flatMap_cons,
      List.flatMap_nil, Hunk.lines, List.map_cons, List.map_nil, HunkLine.line,
      quiet_iff_toList] <;> simp

/-- The removed line `--x` is taken for a file header and not counted, and the created file
adds `dev/null` to the files. -/
theorem dashedRemoval_uncounted :
    (dashedRemoval.flatMap FilePatch.hunkLines).countP HunkLine.isRemoved = 1 ∧
      (ChangeSummary.ofPatch (diffText dashedRemoval) "t").deletions = 0 ∧
      "dev/null" ∈ (ChangeSummary.ofPatch (diffText dashedRemoval) "t").files := by
  obtain ⟨-, hmem, -, hdels⟩ := ChangeSummary.summary_diffText dashedRemoval_wellFormed "t"
  refine ⟨rfl, ?_, ?_⟩
  · rw [hdels, countP_flatMap_lines dashedRemoval_wellFormed (fun _ => lineDeletes_of_quiet)
      (fun _ => lineDeletes_of_isFileLine)]
    simp [dashedRemoval, FilePatch.hunkLines, HunkLine.readsAsHeader, HunkLine.isRemoved]
  · rw [hmem, filterMap_lineName_flatMap dashedRemoval_wellFormed]
    simp [dashedRemoval, FilePatch.namedFiles]

end TransitKit.Drift
