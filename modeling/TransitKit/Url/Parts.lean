import TransitKit.Text.Pieces

/-!
# Parts of a URL

A URL splits into scheme, network location, path, query and fragment, and joins back; a
reference is resolved against a base URL by the rules of RFC 3986 as web clients apply them.
Splitting drops leading blanks and removes tabs and line breaks, and refuses a location with
one square bracket and not the other. Resolving keeps what the reference leaves out, merges a
relative path with the base path and removes dot segments, never past the start.
-/

namespace TransitKit.Url

/-- The five parts of a URL. -/
structure Parts where
  scheme : String
  netloc : String
  path : String
  query : String
  fragment : String
deriving Repr, BEq, Inhabited

/-- Schemes that resolve references relatively. -/
def relativeSchemes : List String :=
  ["", "ftp", "http", "gopher", "nntp", "imap", "wais", "file", "https", "shttp", "mms",
   "prospero", "rtsp", "rtspu", "sftp", "svn", "svn+ssh", "ws", "wss"]

/-- Schemes whose URLs carry a network location. -/
def netlocSchemes : List String :=
  ["", "ftp", "http", "gopher", "nntp", "telnet", "imap", "wais", "file", "mms", "https",
   "shttp", "snews", "prospero", "rtsp", "rtspu", "rsync", "svn", "svn+ssh", "sftp", "nfs",
   "git", "git+ssh", "ws", "wss"]

/-- Schemes whose last path segment may carry `;` parameters. -/
def paramSchemes : List String :=
  ["", "ftp", "hdl", "prospero", "http", "imap", "https", "shttp", "rtsp", "rtspu", "sip",
   "sips", "mms", "sftp", "tel"]

/-- A character allowed in a scheme. -/
def isSchemeChar (c : Char) : Bool := c.isAlphanum || c == '+' || c == '-' || c == '.'

/-- Control characters and the space, dropped from the start of a URL. -/
def isLeadingJunk (c : Char) : Bool := c.toNat ≤ 0x20

/-- The text before the first occurrence of `c`, and the text after it. -/
def splitAtFirst (c : Char) (cs : List Char) : Option (List Char × List Char) :=
  match cs.idxOf? c with
  | some i => some (cs.take i, cs.drop (i + 1))
  | none => none

/-- The characters a URL is read from: control characters and spaces at the start are
dropped, and tab, line feed and carriage return are removed everywhere. -/
def cleanChars (url : String) : List Char :=
  (url.toList.dropWhile isLeadingJunk).filter fun c => c != '\t' && c != '\n' && c != '\r'

/-- The scheme before the first `:`, lower-cased, and what follows the `:`; the scheme
`defaultScheme` and the whole text when what stands before the `:` is no scheme. -/
def splitOffScheme (defaultScheme : String) (cs : List Char) : String × List Char :=
  match cs.idxOf? ':' with
  | some i =>
    match cs with
    | c :: _ =>
      if i > 0 && c.toNat < 128 && c.isAlpha && (cs.take i).all isSchemeChar then
        (String.ofList ((cs.take i).map Char.toLower), cs.drop (i + 1))
      else (defaultScheme, cs)
    | [] => (defaultScheme, cs)
  | none => (defaultScheme, cs)

/-- The location after a leading `//`, up to the first `/`, `?` or `#`, and what follows it;
an empty location when the text does not start with `//`. Fails on a location with one
square bracket and not the other. -/
def splitOffNetloc? (cs : List Char) : Option (String × List Char) :=
  match cs with
  | '/' :: '/' :: rest =>
    let loc := rest.takeWhile fun c => c != '/' && c != '?' && c != '#'
    let after := rest.dropWhile fun c => c != '/' && c != '?' && c != '#'
    if (loc.contains '[' && !loc.contains ']') || (loc.contains ']' && !loc.contains '[') then
      none
    else some (String.ofList loc, after)
  | _ => some ("", cs)

/-- The text before the first `c` and the text after it; the whole text and an empty one
when there is no `c`. -/
def cutAt (c : Char) (cs : List Char) : List Char × String :=
  match splitAtFirst c cs with
  | some (a, b) => (a, String.ofList b)
  | none => (cs, "")

/-- Splits a URL into its parts, the scheme defaulting to `defaultScheme`. Fails on a
location with unmatched square brackets. -/
def split? (url : String) (defaultScheme : String := "") : Option Parts := do
  let (scheme, cs) := splitOffScheme defaultScheme (cleanChars url)
  let (netloc, cs) ← splitOffNetloc? cs
  let (cs, fragment) := cutAt '#' cs
  let (cs, query) := cutAt '?' cs
  return ⟨scheme, netloc, String.ofList cs, query, fragment⟩

/-- Joins parts back into a URL. -/
def Parts.join (p : Parts) : String :=
  let path :=
    if !p.netloc.isEmpty || (!p.scheme.isEmpty && netlocSchemes.contains p.scheme) ||
        p.path.startsWith "//" then
      let path := if !p.path.isEmpty && !p.path.startsWith "/" then "/" ++ p.path else p.path
      "//" ++ p.netloc ++ path
    else p.path
  let url := if p.scheme.isEmpty then path else p.scheme ++ ":" ++ path
  let url := if p.query.isEmpty then url else url ++ "?" ++ p.query
  if p.fragment.isEmpty then url else url ++ "#" ++ p.fragment

/-- The position of the last `c` in a list. -/
def lastIndexOf? (c : Char) (cs : List Char) : Option Nat :=
  (cs.reverse.idxOf? c).map fun j => cs.length - 1 - j

/-- A path and its `;` parameters: the parameters of the last segment, for schemes that
have them. -/
def splitParams (scheme path : String) : String × String :=
  if paramSchemes.contains scheme && path.contains ';' then
    let cs := path.toList
    let start := (lastIndexOf? '/' cs).getD 0
    match (cs.drop start).idxOf? ';' with
    | some i => (String.ofList (cs.take (start + i)), String.ofList (cs.drop (start + i + 1)))
    | none => (path, "")
  else (path, "")

/-- A path with its parameters written back after `;`. -/
def withParams (path params : String) : String :=
  if params.isEmpty then path else path ++ ";" ++ params

/-- Removes dot segments: `.` goes, `..` removes the segment before it, and a final `.`
or `..` leaves an empty last segment. -/
def resolveSegments (segs : List String) : List String :=
  let out := segs.foldl (fun acc s =>
    if s == ".." then acc.dropLast
    else if s == "." then acc
    else acc ++ [s]) []
  match segs.getLast? with
  | some "." => out ++ [""]
  | some ".." => out ++ [""]
  | _ => out

/-- The segments of a relative path appended to the base path's directory; empty
segments between the first and the last are dropped. -/
def mergeSegments (baseDir : List String) (rel : String) : List String :=
  match baseDir ++ Text.splitAt '/' rel with
  | [] => []
  | first :: rest =>
    match rest.getLast? with
    | some last => first :: (rest.dropLast.filter (· != "")) ++ [last]
    | none => [first]

/-- Resolves a reference against a base URL; fails when either does not split. -/
def resolve? (base ref : String) : Option String :=
  if base.isEmpty then some ref
  else if ref.isEmpty then some base
  else do
    let b ← split? base
    let r ← split? ref b.scheme
    if r.scheme != b.scheme || !relativeSchemes.contains r.scheme then return ref
    let (bpath, bparams) := splitParams b.scheme b.path
    let (rpath, rparams) := splitParams r.scheme r.path
    if netlocSchemes.contains r.scheme && !r.netloc.isEmpty then
      return { r with path := withParams rpath rparams }.join
    let netloc := if netlocSchemes.contains r.scheme then b.netloc else r.netloc
    if rpath.isEmpty && rparams.isEmpty then
      let query := if r.query.isEmpty then b.query else r.query
      return (Parts.mk r.scheme netloc (withParams bpath bparams) query r.fragment).join
    let baseDir := Text.splitAt '/' bpath
    let baseDir := if baseDir.getLastD "" != "" then baseDir.dropLast else baseDir
    let segments := if rpath.startsWith "/" then Text.splitAt '/' rpath else mergeSegments baseDir rpath
    let resolved := "/".intercalate (resolveSegments segments)
    let resolved := if resolved.isEmpty then "/" else resolved
    return (Parts.mk r.scheme netloc (withParams resolved rparams) r.query r.fragment).join

/-- Joins two path pieces with one slash: the first gets a trailing `/` and the second
loses its leading ones before resolving. -/
def joinPaths? (a b : String) : Option String :=
  resolve? (a ++ "/") (String.ofList (b.toList.dropWhile (· == '/')))

end TransitKit.Url
