import TransitKit.Url.Escaping
import TransitKit.Url.Parts
import TransitKit.Text.Blank
import TransitKit.Text.CaseMap
import TransitKit.Text.Digit
import TransitKit.Text.WordChar
import TransitKit.Fault
import TransitKit.Text.Pieces

/-!
# Prepared request URLs

The plain client prepares a URL in two passes: it reads it by RFC 3986, removing dot segments,
escaping what may not stand in each part and lower-casing scheme and host, and then requotes
the whole URL. A URL without a scheme or a host is refused, as is an odd host; an empty path
becomes `/`, and hosts outside ASCII are refused.
-/

namespace TransitKit.Url

open Text

/-- Characters allowed in user information. -/
def userinfoChar (c : Char) : Bool := isUnreserved c || Text.hasChar "!$&'()*+,;=:" c

/-- Characters allowed in a path. -/
def pathChar (c : Char) : Bool := userinfoChar c || c == '@' || c == '/'

/-- Characters allowed in a query or a fragment. -/
def queryChar (c : Char) : Bool := pathChar c || c == '?'

/-- Upper-cases the hex digits of every escape, and counts the escapes. -/
def upperEscapes : List Char → List Char × Nat
  | '%' :: a :: b :: rest =>
    if isHexChar a && isHexChar b then
      let (r, n) := upperEscapes rest
      ('%' :: a.toUpper :: b.toUpper :: r, n + 1)
    else
      let (r, n) := upperEscapes (a :: b :: rest)
      ('%' :: r, n)
  | c :: rest =>
    let (r, n) := upperEscapes rest
    (c :: r, n)
  | [] => ([], 0)

/-- Escapes the characters of a part that are not allowed in it. Existing escapes are
kept when every `%` of the part starts one. -/
def escapeInvalid (allowed : Char → Bool) (part : String) : String :=
  let (cs, escapes) := upperEscapes part.toList
  let keepPercent := escapes == cs.count '%'
  String.ofList (cs.flatMap fun c =>
    if (keepPercent && c == '%') || (c.toNat < 128 && allowed c) then [c]
    else (utf8Bytes c).flatMap escapeByte)

/-- Removes dot segments, keeping a leading `/` and a trailing one after a final `.`
or `..`. -/
def removeDotSegmentsKeeping (path : String) : String :=
  let out := (Text.splitAt '/' path).foldl (fun acc s =>
    if s == "." then acc
    else if s != ".." then acc ++ [s]
    else acc.dropLast) []
  let out := if path.startsWith "/" && (out.isEmpty || out.headD "" != "") then "" :: out else out
  let out := if path.endsWith "/." || path.endsWith "/.." then out ++ [""] else out
  "/".intercalate out

/-- The parts of a URL read by RFC 3986; absent parts are `none`. -/
structure UriParts where
  scheme : Option String
  authority : Option String
  path : String
  query : Option String
  fragment : Option String

/-- Whether a character may follow the first letter of a scheme. -/
def schemeTailChar (dot : Bool) (c : Char) : Bool :=
  c.toNat < 128 && (c.isAlphanum || c == '+' || c == '-' || (dot && c == '.'))

/-- Whether a text starts with a scheme and a colon (`.` not allowed) or with `/`. -/
def startsWithSchemeOrSlash (cs : List Char) : Bool :=
  match cs with
  | '/' :: _ => true
  | c :: rest =>
    c.toNat < 128 && c.isAlpha &&
      (match rest.dropWhile (schemeTailChar false) with
       | ':' :: _ => true
       | _ => false)
  | [] => false

/-- Reads a URL by RFC 3986. -/
def UriParts.read (cs : List Char) : UriParts :=
  let (scheme, cs) := match cs with
    | c :: rest =>
      if c.toNat < 128 && c.isAlpha then
        let tail := rest.takeWhile (schemeTailChar true)
        match rest.drop tail.length with
        | ':' :: after => (some (String.ofList (c :: tail)), after)
        | _ => (none, cs)
      else (none, cs)
    | [] => (none, cs)
  let (authority, cs) := match cs with
    | '/' :: '/' :: rest =>
      let a := rest.takeWhile fun c => c != '\\' && c != '/' && c != '?' && c != '#'
      (some (String.ofList a), rest.drop a.length)
    | _ => (none, cs)
  let path := cs.takeWhile fun c => c != '?' && c != '#'
  let cs := cs.drop path.length
  let (query, cs) := match cs with
    | '?' :: rest =>
      let q := rest.takeWhile (· != '#')
      (some (String.ofList q), rest.drop q.length)
    | _ => (none, cs)
  let fragment := match cs with
    | '#' :: rest => some (String.ofList rest)
    | _ => none
  ⟨scheme, authority, String.ofList path, query, fragment⟩

/-- A refused URL. -/
def refused {α : Type} : Outcome α := .error (.plain .badUrl)

/-- Whether a character may stand in a host name. -/
def regNameChar (c : Char) : Bool := !Text.hasChar "[]%:/?#" c

/-- A host name: characters other than `[ ] % : / ? #`, and escapes. -/
def isRegName : List Char → Bool
  | '%' :: a :: b :: rest => isHexChar a && isHexChar b && isRegName rest
  | c :: rest => regNameChar c && isRegName rest
  | [] => true

/-- The host and port of a `host:port` text. The port is digits after optional zeros,
at most five significant ones. -/
def splitHostPort (hp : List Char) : Outcome (String × Option Nat) := do
  let (host, rest) ← match hp with
    | '[' :: _ =>
      match hp.idxOf? ']' with
      | some i => pure (hp.take (i + 1), hp.drop (i + 1))
      | none => refused
    | _ =>
      let h := hp.takeWhile (· != ':')
      if isRegName h then pure (h, hp.drop h.length) else refused
  match rest with
  | [] => pure (String.ofList host, none)
  | ':' :: digits =>
    if !digits.all Char.isDigit then refused
    let significant := digits.dropWhile (· == '0')
    if significant.length > 5 then refused
    if digits.isEmpty then pure (String.ofList host, none)
    else pure (String.ofList host, some (String.ofList digits).toNat!)
  | _ => refused

/-- The first pass: the scheme, user information, host, port, path, query and fragment
of a URL, the parts escaped for `http`, `https` and URLs without a scheme. -/
def firstPass (url : String) : Outcome
    (Option String × Option String × Option String × Option Nat × String × Option String ×
      Option String) := do
  let cs := url.toList
  let cs := if startsWithSchemeOrSlash cs then cs else '/' :: '/' :: cs
  let u := UriParts.read cs
  let scheme := u.scheme.map fun s => String.ofList (s.toList.map Char.toLower)
  let normalize := match scheme with
    | none => true
    | some s => s == "http" || s == "https"
  let (auth, host, port) ← match u.authority with
    | some a =>
      if a.isEmpty then pure (none, none, none)
      else
        let acs := a.toList
        let (auth, hp) := match acs.reverse.idxOf? '@' with
          | some j => (some (String.ofList (acs.take (acs.length - 1 - j))), acs.drop (acs.length - j))
          | none => (none, acs)
        let auth := auth.filter (!·.isEmpty)
        let auth := if normalize then auth.map (escapeInvalid userinfoChar) else auth
        do
          let (host, port) ← splitHostPort hp
          if port.any (· > 65535) then refused
          pure (auth, some host, port)
    | none => pure (none, none, none)
  let host ← match host with
    | some h =>
      if normalize && !h.startsWith "[" then
        if h.toList.all (·.toNat < 128) then pure (some (String.ofList (h.toList.map Char.toLower)))
        else refused
      else pure (some h)
    | none => pure none
  let path := if normalize && !u.path.isEmpty then
      escapeInvalid pathChar (removeDotSegmentsKeeping u.path)
    else u.path
  let query := if normalize then u.query.map fun q => if q.isEmpty then q else escapeInvalid queryChar q
    else u.query
  let fragment := if normalize then u.fragment.map fun f => if f.isEmpty then f else escapeInvalid queryChar f
    else u.fragment
  return (scheme, auth, host, port, path, query, fragment)

/-- The characters a requoted URL keeps as they are. -/
def requoteSafe (withPercent : Bool) (c : Char) : Bool :=
  isUnreserved c || Text.hasChar "!#$&'()*+,/:;=?@[]~" c || (withPercent && c == '%')

/-- The value of a two-character escape body, read as hex digits in any script. -/
def escapeValue? (a b : Char) : Option Nat := do
  let digit (c : Char) : Option Nat :=
    if c.toNat < 128 && isHexChar c then Text.hexDigitValue? c else decimalValue? c
  return (← digit a) * 16 + (← digit b)

/-- Decodes escapes of unreserved characters. Fails on an escape body of two letters or
digits that is not hexadecimal. -/
def unquoteUnreserved : List Char → Option (List Char)
  | '%' :: a :: b :: rest =>
    if isWordChar a && a != '_' && isWordChar b && b != '_' then
      match escapeValue? a b with
      | some v =>
        let c := Char.ofNat v
        if v < 128 && isUnreserved c then (c :: ·) <$> unquoteUnreserved rest
        else (fun r => '%' :: a :: b :: r) <$> unquoteUnreserved rest
      | none => none
    else ('%' :: ·) <$> unquoteUnreserved (a :: b :: rest)
  | c :: rest => (c :: ·) <$> unquoteUnreserved rest
  | [] => some []

/-- The second pass: unreserved escapes are decoded and illegal characters escaped;
when an escape cannot be decoded, `%` is escaped too. -/
def requote (url : String) : String :=
  match unquoteUnreserved url.toList with
  | some cs => encodeWhere (requoteSafe true) (String.ofList cs)
  | none => encodeWhere (requoteSafe false) url

/-- The prepared text of a URL, or a refusal. -/
def prepared? (url : String) : Outcome String := do
  let url := stripBlanksLeft url
  if Text.hasChar url ':' && !(lowerText url).startsWith "http" then return url
  let (scheme, auth, host, port, path, query, fragment) ← firstPass url
  let scheme ← match scheme with
    | some s => if s.isEmpty then throw (.plain .missingScheme) else pure s
    | none => throw (.plain .missingScheme)
  let host ← match host with
    | some h => if h.isEmpty then refused else pure h
    | none => refused
  if host.startsWith "*" || host.startsWith "." then refused
  let netloc := (match auth with
    | some a => a ++ "@"
    | none => "") ++ host ++
    (match port with
     | some p => if p == 0 then "" else ":" ++ toString p
     | none => "")
  let path := if path.isEmpty then "/" else path
  return requote (Parts.mk scheme netloc path (query.getD "") (fragment.getD "")).join

end TransitKit.Url
