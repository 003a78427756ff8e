import TransitKit.Text.Newline

/-! # Generated source files

A generated file is a path relative to the package and a text. The files of a package
are written in order; a later file replaces an earlier one of the same path, and a file
reads back with its line ends translated (`Text.readBack`). -/

namespace TransitKit.Codegen

/-- A generated file: its path relative to the package and its text. -/
structure SourceFile where
  path : String
  text : String
deriving Repr, Inhabited

/-- The text of a file as it reads back. -/
def SourceFile.contents (f : SourceFile) : String := Text.readBack f.text

/-- The files that remain after writing files in order: for each path, the text of the
last file written to it, at the place of the first. -/
def SourceFile.survivors (fs : List SourceFile) : List SourceFile :=
  fs.foldl (fun acc f =>
    if acc.any (·.path == f.path) then acc.map fun g => if g.path == f.path then f else g
    else acc ++ [f]) []

theorem survivors_nil : SourceFile.survivors [] = [] := rfl

end TransitKit.Codegen
