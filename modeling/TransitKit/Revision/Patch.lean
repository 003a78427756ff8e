import TransitKit.Revision.LineDiff
import TransitKit.Digest.Sha1

/-!
# Patches of tracked files

The difference between the committed and the current state of tracked files is shown file by
file, in order of path: an unchanged file shows nothing, any other file a header naming the
abbreviated names of its two contents and then its hunks, a deleted file against `/dev/null`.
A path with a control character, a quote, a backslash or a character outside ASCII is written
in double quotes with escapes.
-/

namespace TransitKit.Revision

/-- A tracked file: its path, its committed text, and its text now (none when it was
deleted). -/
structure FileChange where
  path : String
  before : String
  after : Option String
deriving Repr, Inhabited

/-- Whether a byte of a path must be escaped. -/
def mustEscape (b : UInt8) : Bool := b < 0x20 || b == 0x22 || b == 0x5C || b ≥ 0x7F

/-- The escape of one byte of a path. -/
def escapeByte (b : UInt8) : String :=
  match b.toNat with
  | 7 => "\\a"
  | 8 => "\\b"
  | 9 => "\\t"
  | 10 => "\\n"
  | 11 => "\\v"
  | 12 => "\\f"
  | 13 => "\\r"
  | 0x22 => "\\\""
  | 0x5C => "\\\\"
  | n => "\\" ++ String.ofList [Char.ofNat (48 + n / 64), Char.ofNat (48 + n / 8 % 8), Char.ofNat (48 + n % 8)]

/-- A prefixed path as a patch shows it: as it is, or quoted with escapes. -/
def quotePath (p : String) : String :=
  let bytes := p.toUTF8.toList
  if bytes.any mustEscape then
    "\"" ++ String.join (bytes.map fun b =>
      if mustEscape b then escapeByte b else String.singleton (Char.ofNat b.toNat)) ++ "\""
  else p

/-- The abbreviated name of a content. -/
def shortId (text : String) : String := String.ofList ((Digest.blobId text).toList.take 7)

/-- The patch of one file; empty when its text did not change. -/
def FileChange.patch (c : FileChange) : String :=
  let a := quotePath ("a/" ++ c.path)
  let b := quotePath ("b/" ++ c.path)
  let head := "diff --git " ++ a ++ " " ++ b ++ "\n"
  match c.after with
  | none =>
    head ++ "deleted file mode 100644\nindex " ++ shortId c.before ++ "..0000000\n" ++
      (if c.before.isEmpty then ""
       else "--- " ++ a ++ "\n+++ /dev/null\n" ++ unifiedHunks c.before "")
  | some now =>
    if now == c.before then ""
    else head ++ "index " ++ shortId c.before ++ ".." ++ shortId now ++ " 100644\n--- " ++ a ++
      "\n+++ " ++ b ++ "\n" ++ unifiedHunks c.before now

/-- The patch of tracked files, in order of path. -/
def patchText (changes : List FileChange) : String :=
  String.join ((changes.mergeSort fun x y => x.path ≤ y.path).map (·.patch))

theorem patch_unchanged (path text : String) : (FileChange.mk path text (some text)).patch = "" := by
  simp [FileChange.patch]

end TransitKit.Revision
