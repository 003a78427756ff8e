import TransitKit.Digest.Sha256
import TransitKit.Json.Value
import TransitKit.Text.Pieces

/-!
# Summaries of changes in generated code

A patch of the generated code is summed up line by line: lines starting with `+++` or `---`
name files, other lines starting with `+` or `-` are additions and deletions. The summary gives
its time, the files named, the counts and the start of the SHA-256 digest of the patch, and is
saved under a name made of the time and the digest. Reports replace every timestamp by a
placeholder.
-/

namespace TransitKit.Drift

/-- The summary of a patch. -/
structure ChangeSummary where
  timestamp : String
  files : List String
  additions : Nat
  deletions : Nat
  digest : String
deriving Repr, Inhabited

/-- Inserts a text into a sorted list without duplicates. -/
def insertSorted (x : String) : List String → List String
  | [] => [x]
  | y :: ys => if x == y then y :: ys else if x < y then x :: y :: ys else y :: insertSorted x ys

/-- Whether a line of a patch is taken for a file header: it starts with `+++` or `---`. -/
def isFileLine (line : String) : Bool := line.startsWith "+++" || line.startsWith "---"

/-- What follows the first `/` of a text, if it has one. -/
def afterSlash (s : String) : Option String :=
  match Text.splitAt '/' s with
  | _ :: rest@(_ :: _) => some ("/".intercalate rest)
  | _ => none

/-- Counts one line of a patch into the files named, additions and deletions. -/
def countLine (acc : List String × Nat × Nat) (line : String) : List String × Nat × Nat :=
  let (files, adds, dels) := acc
  if isFileLine line then
    match afterSlash line with
    | some name => (insertSorted name files, adds, dels)
    | none => acc
  else if line.startsWith "+" then (files, adds + 1, dels)
  else if line.startsWith "-" then (files, adds, dels + 1)
  else acc

/-- The summary of a patch made at a time. -/
def ChangeSummary.ofPatch (patch timestamp : String) : ChangeSummary :=
  let (files, adds, dels) := (Text.splitAt '\n' patch).foldl countLine ([], 0, 0)
  ⟨timestamp, files, adds, dels, String.ofList ((Digest.sha256Hex patch).toList.take 12)⟩

/-- The summary as JSON. -/
def ChangeSummary.toJson (s : ChangeSummary) : Json :=
  .obj [("timestamp", .str s.timestamp), ("files_changed", .int s.files.length),
    ("files_list", .arr (s.files.map .str)), ("additions", .int s.additions),
    ("deletions", .int s.deletions), ("total_changes", .int (s.additions + s.deletions)),
    ("diff_hash", .str s.digest)]

/-- The file name of a saved summary, from its time and digest. -/
def metadataName (timestamp digest : String) : String :=
  "change_" ++ ((timestamp.replace ":" "-").replace "." "-") ++ "_" ++ digest ++ ".json"

/-- Takes `n` ASCII digits from the front. -/
def digits (n : Nat) (cs : List Char) : Option (List Char) :=
  if (cs.take n).length == n && (cs.take n).all Char.isDigit then some (cs.drop n) else none

/-- Takes one character that passes `p` from the front. -/
def oneOf (p : Char → Bool) : List Char → Option (List Char)
  | c :: rest => if p c then some rest else none
  | [] => none

/-- The rest after a timestamp at the front, if one starts there. -/
def timestampRest (cs : List Char) : Option (List Char) := do
  let sep (c : Char) := c == '-' || c == ':'
  let cs ← digits 4 cs
  let cs ← oneOf (· == '-') cs
  let cs ← digits 2 cs
  let cs ← oneOf (· == '-') cs
  let cs ← digits 2 cs
  let cs ← oneOf (· == 'T') cs
  let cs ← digits 2 cs
  let cs ← oneOf sep cs
  let cs ← digits 2 cs
  let cs ← oneOf sep cs
  let cs ← digits 2 cs
  let cs := match cs with
    | c :: d :: rest => if (c == '.' || c == '-') && d.isDigit then (d :: rest).dropWhile Char.isDigit else cs
    | _ => cs
  let offset := do
    let r ← oneOf (fun c => c == '+' || c == '-') cs
    let r ← digits 2 r
    let r := (oneOf sep r).getD r
    digits 2 r
  return match cs with
    | 'Z' :: rest => rest
    | _ => offset.getD cs

/-- Replaces every timestamp in characters. -/
def maskChars : List Char → List Char
  | [] => []
  | c :: rest =>
    match timestampRest (c :: rest) with
    | some after =>
      if after.length < rest.length + 1 then "<timestamp>".toList ++ maskChars after
      else c :: maskChars rest
    | none => c :: maskChars rest
termination_by cs => cs.length

/-- A text with its timestamps replaced by `<timestamp>`. -/
def maskTimestamps (s : String) : String := String.ofList (maskChars s.toList)

theorem insertSorted_nil (x : String) : insertSorted x [] = [x] := rfl

end TransitKit.Drift
