import TransitKit.Catalogue.Mappings
import TransitKit.Json.Access
import TransitKit.Text.Blank
import TransitKit.Text.Digit

/-!
# Type mappings

A mappings document gives each API under `apis` its `mappings` from schema names to model names
and, optionally, `response_mappings`. A valid document has exactly `version` (three dotted runs
of digits), `last_updated`, `source` with a text `url` and `description`, `apis`, and optionally
a text `$schema`; its APIs are named by a letter then letters, digits and blanks, and hold
`mappings` with an optional text `description`, `base_url` and `response_mappings`. Every
mapping is a non-empty text, a type mapping named by one line and a response mapping by `Get`,
three digits and `Response`. Reading fails as a missing key or a value of the wrong kind fails.
-/

namespace TransitKit.Spec

open Text

/-- The message of an API that the document does not list. -/
def unknownApi (api : String) : String := "API '" ++ api ++ "' not found in mappings"

/-- The entry of an API, which the document must list. -/
def apiEntry (doc : Json) (api : String) : Outcome Json := do
  let apis ← doc.index? "apis"
  if !(← apis.holds? api) then throw (.withText .missingKey (unknownApi api))
  apis.index? api

/-- The type mappings of an API. -/
def apiMappings (doc : Json) (api : String) : Outcome Json := do
  (← apiEntry doc api).index? "mappings"

/-- The response mappings of an API, none when it has none. -/
def responseMappings (doc : Json) (api : String) : Outcome Json := do
  (← apiEntry doc api).getOr? "response_mappings" (.obj [])

/-- The union of two mappings: the first, with the members of the second replacing
those of the same name in place and the others added at the end. Only mappings can be
merged. -/
def mergeMappings : Json → Json → Outcome Json
  | .obj xs, .obj ys => .ok (.obj (ys.foldl (fun acc (k, v) => Json.setField acc k v) xs))
  | _, _ => .error (.plain .wrongShape)

/-- The type and response mappings of an API, merged. -/
def allMappings (doc : Json) (api : String) : Outcome Json := do
  mergeMappings (← apiMappings doc api) (← responseMappings doc api)

/-- The members of a value read as a mapping. -/
def mappingMembers : Json → Outcome (List (String × Json))
  | .obj fs => .ok fs
  | _ => .error (.plain .noSuchMember)

/-- Every API's type mappings, merged with its response mappings when it has them. -/
def legacyMappings (doc : Json) : Outcome (List (String × Json)) := do
  let apis ← mappingMembers (← doc.index? "apis")
  apis.mapM fun (name, entry) => do
    let m ← entry.index? "mappings"
    if ← entry.holds? "response_mappings" then
      return (name, ← mergeMappings m (← entry.index? "response_mappings"))
    else return (name, m)

/-- The names of the APIs, in order. -/
def apiNames (doc : Json) : Outcome (List String) := do
  return (← mappingMembers (← doc.index? "apis")).map (·.1)

/-- The version, date and source of a document. -/
def metadata (doc : Json) : Outcome Json := do
  let version ← doc.index? "version"
  let updated ← doc.index? "last_updated"
  let source ← doc.index? "source"
  return .obj [("version", version), ("last_updated", updated), ("source", source)]

/-- Three runs of digits separated by dots, with possibly one line feed after them. -/
def isVersionText (s : String) : Bool :=
  let cs := if s.endsWith "\n" then (s.dropEnd 1).copy.toList else s.toList
  match (String.ofList cs).splitOn "." with
  | [a, b, c] => [a, b, c].all fun p => !p.isEmpty && p.all isDecimalDigit
  | _ => false

/-- A letter followed by letters, digits and blanks. -/
def isApiName (s : String) : Bool :=
  match s.toList with
  | c :: rest =>
    (c.isUpper || c.isLower) && rest.all fun d => d.isAlphanum || isBlank d
  | [] => false

/-- One line of at least one character, with possibly one line feed after it. -/
def isTypeName (s : String) : Bool :=
  let cs := if s.endsWith "\n" then (s.dropEnd 1).copy.toList else s.toList
  !cs.isEmpty && !cs.contains '\n'

/-- Whether a line has `Get` and three digits, and later `Response`. -/
def lineHasResponse : List Char → Bool
  | [] => false
  | c :: rest =>
    (match c :: rest with
      | 'G' :: 'e' :: 't' :: a :: b :: d :: more =>
        isDecimalDigit a && isDecimalDigit b && isDecimalDigit d &&
          (String.ofList more).contains "Response"
      | _ => false) || lineHasResponse rest

/-- A name with `Get`, three digits and then `Response` on one line. -/
def isResponseName (s : String) : Bool :=
  (s.splitOn "\n").any fun line => lineHasResponse line.toList

/-- A non-empty text. -/
def isNonEmptyText : Json → Bool
  | .str s => !s.isEmpty
  | _ => false

/-- A text. -/
def isText : Json → Bool
  | .str _ => true
  | _ => false

/-- An object whose members all have a name that passes and a non-empty text value. -/
def validMapping (nameOk : String → Bool) : Json → Bool
  | .obj fs => fs.all fun (k, v) => nameOk k && isNonEmptyText v
  | _ => false

/-- Whether the optional member `k` of `fs` passes `ok`. -/
def optionalOk (fs : List (String × Json)) (k : String) (ok : Json → Bool) : Bool :=
  match Json.lookup fs k with
  | some v => ok v
  | none => true

/-- Whether an API's entry is valid. -/
def validApi : Json → Bool
  | .obj fs =>
    fs.any (·.1 == "mappings") &&
      fs.all (fun (k, _) => ["description", "base_url", "mappings", "response_mappings"].contains k) &&
      optionalOk fs "description" isText && optionalOk fs "base_url" isText &&
      optionalOk fs "mappings" (validMapping isTypeName) &&
      optionalOk fs "response_mappings" (validMapping isResponseName)
  | _ => false

/-- Whether a source is valid. -/
def validSource : Json → Bool
  | .obj fs =>
    fs.any (·.1 == "url") && fs.any (·.1 == "description") &&
      fs.all (fun (k, v) => (k == "url" || k == "description") && isText v)
  | _ => false

/-- Whether the APIs of a document are valid. -/
def validApis : Json → Bool
  | .obj fs => !fs.isEmpty && fs.all fun (k, v) => isApiName k && validApi v
  | _ => false

/-- Whether a mappings document is valid. -/
def validDocument : Json → Bool
  | .obj fs =>
    ["version", "last_updated", "source", "apis"].all (fun k => fs.any (·.1 == k)) &&
      fs.all (fun (k, _) => ["$schema", "version", "last_updated", "source", "apis"].contains k) &&
      optionalOk fs "$schema" isText &&
      optionalOk fs "version" (fun v => match v with
        | .str s => isVersionText s
        | _ => false) &&
      optionalOk fs "last_updated" isText &&
      optionalOk fs "source" validSource &&
      optionalOk fs "apis" validApis
  | _ => false

theorem validDocument_null : validDocument .null = false := rfl

end TransitKit.Spec
