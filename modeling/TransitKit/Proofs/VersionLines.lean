import Mathlib
import TransitKit.Release.Command
import TransitKit.Proofs.Outcome

/-!
# Setting a project's version edits one line

`setVersion` never writes the TOML document back: it edits the text line by line. The
update rewrites the first line (`linesWithEnds`) that begins with `version` after its blanks
and holds a `=`, whatever table it stands in, into `version = "new"` (or in single quotes)
with its indentation, and keeps every other line. A failed update leaves the description as
it was (`updateCommand_rewrites_first_version_line`).

Since the line is found by its text alone, a `version` key of a table before `project` is
the one rewritten, and `project.version` keeps its value (`toolVersion_rewritten`).
-/

namespace TransitKit.Release

open Text

/-! ### Rewriting the first version line -/

/-- The line that sets the new version is `version = ` and the new version in double or
single quotes, after the indentation of the old line. -/
theorem versionLine_eq (line old new : String) :
    ∃ q, (q = "\"" ∨ q = "'") ∧ versionLine line old new =
      String.ofList (line.toList.takeWhile isBlank) ++ "version = " ++ q ++ new ++ q ++ "\n" := by
  unfold versionLine
  dsimp only
  split
  · exact ⟨"\"", .inl rfl, by rw [← String.toList_inj]; simp⟩
  · split
    · exact ⟨"'", .inr rfl, by rw [← String.toList_inj]; simp⟩
    · exact ⟨"\"", .inl rfl, by rw [← String.toList_inj]; simp⟩

/-- `rewriteVersionLine` succeeds when some line sets the version, and then rewrites the first
such line and keeps all the others. -/
theorem rewriteVersionLine_eq_some {old new : String} {ls ls' : List String} :
    rewriteVersionLine old new ls = some ls' ↔
      ∃ before line after, ls = before ++ line :: after ∧
        (∀ l ∈ before, isVersionLine l = false) ∧ isVersionLine line = true ∧
        ls' = before ++ versionLine line old new :: after := by
  induction ls generalizing ls' with
  | nil => simp [rewriteVersionLine]
  | cons l ls ih =>
    by_cases hl : isVersionLine l
    · simp only [rewriteVersionLine, hl, if_true, Option.some.injEq]
      constructor
      · rintro rfl
        exact ⟨[], l, ls, rfl, by simp, hl, rfl⟩
      · rintro ⟨before, line, after, heq, hbefore, -, rfl⟩
        cases before with
        | nil =>
          obtain ⟨rfl, rfl⟩ := List.cons.inj heq
          rfl
        | cons b bs =>
          obtain ⟨rfl, -⟩ := List.cons.inj heq
          simp [hl] at hbefore
    · simp only [rewriteVersionLine, hl, Bool.false_eq_true, if_false, Option.map_eq_some_iff, ih]
      constructor
      · rintro ⟨rest, ⟨before, line, after, rfl, hbefore, hline, rfl⟩, rfl⟩
        refine ⟨l :: before, line, after, rfl, ?_, hline, rfl⟩
        simpa [hl] using hbefore
      · rintro ⟨before, line, after, heq, hbefore, hline, rfl⟩
        cases before with
        | nil =>
          obtain ⟨rfl, -⟩ := List.cons.inj heq
          exact absurd hline hl
        | cons b bs =>
          obtain ⟨rfl, rfl⟩ := List.cons.inj heq
          exact ⟨bs ++ versionLine line old new :: after,
            ⟨bs, line, after, rfl, fun x hx => hbefore x (List.mem_cons_of_mem _ hx), hline, rfl⟩,
            rfl⟩

/-! ### The update -/

/-- A successful update read a text and rewrote its lines. -/
theorem setVersion_eq_ok {file : ProjectFile} {new result out : String}
    (h : setVersion file new = .ok (result, out)) :
    ∃ content old lines, file = .text content ∧
      rewriteVersionLine old new (linesWithEnds (readBack content)) = some lines ∧
      result = readBack (String.join lines) ∧ out = "Updated version to " ++ new ++ "\n" := by
  cases file with
  | absent => cases h
  | directory => cases h
  | text content =>
    simp only [setVersion, pure_bind] at h
    split at h
    · split at h
      · obtain ⟨holds, -, h⟩ := bind_eq_ok.mp h
        split at h
        · simp at h
        · obtain ⟨version, -, h⟩ := bind_eq_ok.mp h
          split at h
          · rename_i lines hlines
            simp only [pure_eq_ok, Prod.mk.injEq] at h
            exact ⟨content, _, lines, rfl, hlines, h.1.symm, h.2.symm⟩
          · simp at h
      · simp at h
    · simp at h

/-- **Setting the version rewrites one line.** The update command either fails and leaves the
description as it was, or succeeds and rewrites the first line of the description, in
whatever table it stands, that begins with `version` after its blanks and holds a `=`: that
line becomes `version = ` and the new version in quotes, after its old indentation, and every
other line stays. -/
theorem updateCommand_rewrites_first_version_line (file : ProjectFile) (new : String) :
    ((updateCommand file [new]).1.exitCode = 1 ∧ (updateCommand file [new]).2 = file) ∨
      ∃ content before line after q, file = .text content ∧
        (updateCommand file [new]).1.exitCode = 0 ∧
        linesWithEnds (readBack content) = before ++ line :: after ∧
        (∀ l ∈ before, isVersionLine l = false) ∧ isVersionLine line = true ∧
        (q = "\"" ∨ q = "'") ∧
        (updateCommand file [new]).2 = .text (readBack (String.join (before ++
          (String.ofList (line.toList.takeWhile isBlank) ++ "version = " ++ q ++ new ++ q ++ "\n") ::
            after))) := by
  cases hset : setVersion file new with
  | error e =>
    left
    simp only [updateCommand, hset]
    split
    next heq => cases heq
    next => exact ⟨rfl, rfl⟩
    next => split <;> exact ⟨rfl, rfl⟩
  | ok r =>
    right
    obtain ⟨result, out⟩ := r
    obtain ⟨content, old, lines, rfl, hlines, rfl, -⟩ := setVersion_eq_ok hset
    obtain ⟨before, line, after, hsplit, hbefore, hline, rfl⟩ := rewriteVersionLine_eq_some.mp hlines
    obtain ⟨q, hq, hwritten⟩ := versionLine_eq line old new
    refine ⟨content, before, line, after, q, rfl, ?_, hsplit, hbefore, hline, hq, ?_⟩
    · simp [updateCommand, hset]
    · simp [updateCommand, hset, hwritten]

/-! ### A version key of another table -/

/-- The text of the value at a path of keys of a TOML text, when the text parses and the path
leads to a value. -/
def valueAt? (content : String) (path : List String) : Option String :=
  (Toml.parse? content).bind fun data => (go (.table data) path).map Toml.Value.plainText
where
  go : Toml.Value → List String → Option Toml.Value
    | v, [] => some v
    | .table ms, k :: ks => (Toml.Members.get? ms k).bind (go · ks)
    | _, _ :: _ => none

/-- A description whose first `version` key belongs to a tool's table. -/
def toolFirst : String := "[tool.x]\nversion = \"1\"\n[project]\nversion = \"2\"\n"

/-- Setting the version of `toolFirst` to `3` rewrites the tool's version and leaves
`project.version` at `2`. -/
theorem toolVersion_rewritten :
    valueAt? toolFirst ["project", "version"] = some "2" ∧
      setVersion (.text toolFirst) "3" =
        .ok ("[tool.x]\nversion = \"3\"\n[project]\nversion = \"2\"\n", "Updated version to 3\n") ∧
      valueAt? "[tool.x]\nversion = \"3\"\n[project]\nversion = \"2\"\n" ["project", "version"] =
        some "2" ∧
      valueAt? "[tool.x]\nversion = \"3\"\n[project]\nversion = \"2\"\n" ["tool", "x", "version"] =
        some "3" := by
  refine ⟨by decide +kernel, eq_ok_of_toOption (by decide +kernel), by decide +kernel,
    by decide +kernel⟩

end TransitKit.Release
