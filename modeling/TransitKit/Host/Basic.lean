import TransitKit.Client.Exchange
import TransitKit.Json.Literal

/-!
# The host a job runs on

Maintenance jobs (crawling the API portal, checking generated code for changes) act on
a host: they send requests into its network, print lines on its console, and read and
write the files and folders of its disk. A `Host` holds all of that as a value, and a
`Job` is a computation that changes the host and may fail. A failure keeps every change
made before it: requests sent, lines printed and files written stay.

Paths are texts with `/` between their parts. The empty path is the working folder,
which always exists. A file or folder can only be made inside a folder that exists,
unless the parents are made with it. Every file written gets the current time of the
host's clock; files that were there before keep theirs.
-/

namespace TransitKit

/-- A file on the disk of a host: its text and the time it was last written. -/
structure FileEntry where
  text : String
  mtime : Int
deriving Repr, Inhabited

/-- A host: its network and the requests sent into it, its console, its files and
folders, and its clock. -/
structure Host where
  net : Client.Network := {}
  requests : List String := []
  console : String := ""
  files : List (String × FileEntry) := []
  dirs : List String := []
  clock : Int := 0
deriving Inhabited

/-- A computation on a host that may fail; the host keeps what was done before a
failure. -/
abbrev Job := ExceptT Failure (StateM Host)

/-- The folder a path is in; the working folder for a path of one part. -/
def parentPath (p : String) : String :=
  match (p.splitOn "/").dropLast with
  | [] => ""
  | parts => "/".intercalate parts

/-- A path inside a folder; the working folder adds nothing. -/
def joinPath (dir name : String) : String := if dir.isEmpty then name else dir ++ "/" ++ name

/-- A path as a path object shows it: empty parts and `.` parts dropped, the working
folder as the empty path. -/
def normalizePath (p : String) : String :=
  let parts := (p.splitOn "/").filter fun s => !s.isEmpty && s != "."
  (if p.startsWith "/" then "/" else "") ++ "/".intercalate parts

/-- The folders above a path, outermost first. -/
def ancestorPaths (p : String) : List String :=
  let parts := (p.splitOn "/").dropLast
  (List.range parts.length).map fun n => "/".intercalate (parts.take (n + 1))

namespace Host

/-- A host whose disk holds files, in order, and the folders above them; a later file
replaces an earlier one of the same path. -/
def withFiles (h : Host) (files : List (String × FileEntry)) : Host :=
  let dirs := (files.flatMap fun (p, _) => ancestorPaths p).foldl
    (fun acc d => if acc.contains d then acc else acc ++ [d]) h.dirs
  let put (acc : List (String × FileEntry)) (f : String × FileEntry) :=
    if acc.any (·.1 == f.1) then acc.map fun g => if g.1 == f.1 then f else g else acc ++ [f]
  { h with files := files.foldl put h.files, dirs := dirs }

/-- Whether a folder exists. -/
def isDir (h : Host) (p : String) : Bool := p.isEmpty || h.dirs.contains p

/-- Whether a file exists. -/
def isFile (h : Host) (p : String) : Bool := h.files.any (·.1 == p)

/-- A file, if it exists. -/
def entry? (h : Host) (p : String) : Option FileEntry :=
  (h.files.find? (·.1 == p)).map (·.2)

/-- The text of a file, if it exists. -/
def fileText? (h : Host) (p : String) : Option String := (h.entry? p).map (·.text)

/-- The names of the files and folders directly inside a folder, in order of name. -/
def children (h : Host) (dir : String) : List String :=
  let inside (p : String) : Option String :=
    if parentPath p == dir && !p.isEmpty then ((p.splitOn "/").getLast?) else none
  ((h.files.map (·.1)).filterMap inside ++ h.dirs.filterMap inside).mergeSort (· ≤ ·)

/-- The failure of a path that does not exist. -/
def missing (p : String) : Failure :=
  ⟨.fileMissing, "[Errno 2] No such file or directory: " ++ quoteText p⟩

/-- Prints a line on the console. -/
def say (line : String) : Job Unit :=
  modify fun h => { h with console := h.console ++ line ++ "\n" }

/-- Runs a step that may fail without changing the host. -/
def lift {α : Type} (e : Except Failure α) : Job α :=
  match e with
  | .ok a => pure a
  | .error f => throw f

/-- The folders that `p` and its parents add to the disk. -/
def withParents (h : Host) (p : String) : List String :=
  let parts := p.splitOn "/"
  let prefixes := (List.range parts.length).map fun n => "/".intercalate (parts.take (n + 1))
  prefixes.filter fun q => !h.isDir q

/-- Makes a folder; an existing folder is kept. Without `parents`, the folder it is in
must exist. -/
def makeDir (p : String) (parents : Bool) : Job Unit := do
  let h ← get
  if h.isDir p then return
  if h.isFile p then throw ⟨.fileExists, "[Errno 17] File exists: " ++ quoteText p⟩
  if parents then set { h with dirs := h.dirs ++ h.withParents p }
  else if h.isDir (parentPath p) then set { h with dirs := h.dirs ++ [p] }
  else throw (missing p)

/-- Writes a file in a folder that exists, with the current time. -/
def writeFile (p text : String) : Job Unit := do
  let h ← get
  if h.isDir p then throw ⟨.isDirectory, "[Errno 21] Is a directory: " ++ quoteText p⟩
  if !h.isDir (parentPath p) then throw (missing p)
  let entry : FileEntry := ⟨text, h.clock⟩
  let files := if h.isFile p then h.files.map fun f => if f.1 == p then (p, entry) else f
    else h.files ++ [(p, entry)]
  set { h with files := files }

/-- Removes a file. -/
def removeFile (p : String) : Job Unit :=
  modify fun h => { h with files := h.files.filter (·.1 != p) }

/-- Notes a request sent into the network. -/
def noteRequest (url : String) : Job Unit :=
  modify fun h => { h with requests := h.requests ++ [url] }

end Host

theorem joinPath_working (name : String) : joinPath "" name = name := rfl

end TransitKit
