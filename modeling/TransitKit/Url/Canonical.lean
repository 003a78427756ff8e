import TransitKit.Url.Escaping
import TransitKit.Fault

/-!
# Canonical request URLs

The asynchronous-capable client reads a URL into its parts and writes each in a canonical form
before sending it: overlong URLs and control characters are refused, scheme and host are
lower-cased, a default port is dropped, dot segments go, and every part is escaped by the sets
of the WHATWG URL standard, keeping existing escapes. Hosts outside ASCII are refused.
-/

namespace TransitKit.Url

/-- A character of printable ASCII outside a list. -/
def printableExcept (bad : List Char) (c : Char) : Bool :=
  0x20 ≤ c.toNat && c.toNat < 0x7F && !bad.contains c

/-- Safe in a canonical path. -/
def pathSafe : Char → Bool := printableExcept [' ', '"', '#', '<', '>', '?', '`', '{', '}']

/-- Safe in a canonical query. -/
def querySafe : Char → Bool := printableExcept [' ', '"', '#', '<', '>']

/-- Safe in a canonical fragment. -/
def fragmentSafe : Char → Bool := printableExcept [' ', '"', '<', '>', '`']

/-- Safe in user information. -/
def userinfoSafe : Char → Bool :=
  printableExcept [' ', '"', '#', '<', '>', '?', '`', '{', '}', '/', ':', ';', '=', '@', '[', '\\',
    ']', '^', '|']

/-- Safe in a host name: unreserved characters, sub-delimiters and a few more that the
standard lets through. -/
def hostSafe (c : Char) : Bool := isUnreserved c || "!$&'()*+,;=\"`{}%|\\".contains c

/-- A URL as read before its parts are made canonical: the query and fragment are
absent when there is no `?` or `#`. -/
structure RawUrl where
  scheme : String
  authority : String
  path : String
  query : Option String
  fragment : Option String

/-- Reads the scheme: an ASCII letter, then letters, digits, `+`, `.` and `-`, before a
colon. An empty scheme before a colon is allowed. -/
def splitScheme (cs : List Char) : String × List Char :=
  let name := cs.takeWhile fun c => c.toNat < 128 && (c.isAlphanum || c == '+' || c == '.' || c == '-')
  let valid := match name with
    | c :: _ => c.isAlpha
    | [] => true
  match cs.drop name.length with
  | ':' :: rest => if valid then (String.ofList name, rest) else ("", cs)
  | _ => ("", cs)

/-- Reads a URL into its five parts. -/
def RawUrl.read (url : String) : RawUrl :=
  let (scheme, cs) := splitScheme url.toList
  let (authority, cs) := match cs with
    | '/' :: '/' :: rest =>
      let a := rest.takeWhile fun c => c != '/' && c != '?' && c != '#'
      (String.ofList a, rest.drop a.length)
    | _ => ("", cs)
  let path := cs.takeWhile fun c => c != '?' && c != '#'
  let cs := cs.drop path.length
  let (query, cs) := match cs with
    | '?' :: rest =>
      let q := rest.takeWhile (· != '#')
      (some (String.ofList q), rest.drop q.length)
    | _ => (none, cs)
  let fragment := match cs with
    | '#' :: rest => some (String.ofList rest)
    | _ => none
  ⟨scheme, authority, String.ofList path, query, fragment⟩

/-- The user information, host and port of an authority; the port is absent when there
is no text after the host's colon. -/
def splitAuthority (a : String) : String × String × String :=
  let cs := a.toList
  let (userinfo, rest) := match (cs.reverse.idxOf? '@') with
    | some j => (String.ofList (cs.take (cs.length - 1 - j)), cs.drop (cs.length - j))
    | none => ("", cs)
  let (host, rest) := match rest with
    | '[' :: _ =>
      match (rest.reverse.idxOf? ']') with
      | some j => (rest.take (rest.length - j), rest.drop (rest.length - j))
      | none => (rest.takeWhile fun c => c != ':' && c != '@', rest.dropWhile fun c => c != ':' && c != '@')
    | _ => (rest.takeWhile fun c => c != ':' && c != '@', rest.dropWhile fun c => c != ':' && c != '@')
  let port := match rest with
    | ':' :: p => p
    | p => p
  (userinfo, String.ofList host, String.ofList port)

/-- The default port of a scheme. -/
def defaultPort (scheme : String) : Option Nat :=
  match scheme with
  | "ftp" => some 21
  | "http" => some 80
  | "https" => some 443
  | "ws" => some 80
  | "wss" => some 443
  | _ => none

/-- A refused URL. -/
def badUrl {α : Type} : Outcome α := .error (.plain .badUrl)

/-- The canonical host: an address in square brackets loses them, a name is lower-case
and escaped, and a name outside ASCII is refused. -/
def canonicalHost (host : String) : Outcome String :=
  if host.isEmpty then pure ""
  else if host.startsWith "[" && host.endsWith "]" then
    pure (String.ofList (host.toList.drop 1).dropLast)
  else if host.toList.all (·.toNat < 128) then
    pure (String.ofList (escapeKeeping hostSafe (host.toList.map Char.toLower)))
  else badUrl

/-- The canonical text of a URL, or a refusal. -/
def canonical? (url : String) : Outcome String := do
  if url.length > 65536 then badUrl
  if url.toList.any (fun c => c.toNat < 0x20 || c.toNat == 0x7F) then badUrl
  let raw := RawUrl.read url
  let (userinfo, host, port) := splitAuthority raw.authority
  let scheme := String.ofList (raw.scheme.toList.map Char.toLower)
  let userinfo := String.ofList (escapeKeeping userinfoSafe userinfo.toList)
  let host ← canonicalHost host
  let port ← if port.isEmpty then pure none
    else match port.toNat? with
      | some p => pure (if defaultPort scheme == some p then none else some p)
      | none => badUrl
  let hasScheme := !scheme.isEmpty
  let hasAuthority := !userinfo.isEmpty || !host.isEmpty || port.isSome
  if hasAuthority && !raw.path.isEmpty && !raw.path.startsWith "/" then badUrl
  if !hasScheme && !hasAuthority && (raw.path.startsWith "//" || raw.path.startsWith ":") then
    badUrl
  let path := if hasScheme || hasAuthority then removeDotSegments raw.path else raw.path
  let path := String.ofList (escapeKeeping pathSafe path.toList)
  let query := raw.query.map fun q => String.ofList (escapeKeeping querySafe q.toList)
  let fragment := raw.fragment.map fun f => String.ofList (escapeKeeping fragmentSafe f.toList)
  let hostText := if host.contains ':' then "[" ++ host ++ "]" else host
  let authority := (if userinfo.isEmpty then "" else userinfo ++ "@") ++ hostText ++
    (match port with
     | some p => ":" ++ toString p
     | none => "")
  return (if scheme.isEmpty then "" else scheme ++ ":") ++
    (if authority.isEmpty then "" else "//" ++ authority) ++ path ++
    (match query with
     | some q => "?" ++ q
     | none => "") ++
    (match fragment with
     | some f => "#" ++ f
     | none => "")

end TransitKit.Url
