import TransitKit.Client.Call
import TransitKit.Client.Defaults

/-!
# JSON forms of calls and reports

Canned answers and networks are read from JSON objects, with defaults for the fields left out;
what a backend received and the reports of a call are written as JSON objects. A form that
cannot be read gives a text naming the wrong field.
-/

namespace TransitKit.Client

open Http Time Catalogue

/-- Reading a JSON form: a value, or a text saying what is wrong. -/
abbrev Decoded := Except String

/-- Header fields from a JSON object of texts. -/
def headersOfJson (j : Json) : Decoded Headers :=
  match j with
  | .obj fs => do
    let fs ← fs.mapM fun (k, v) => match v with
      | .str s => pure (k, s)
      | _ => throw "header values must be texts"
    pure ⟨fs⟩
  | .null => pure Headers.empty
  | _ => throw "headers must be an object"

/-- A text field with a default. -/
def textField (j : Json) (k d : String) : Decoded String :=
  match j.get? k with
  | some (.str s) => pure s
  | none | some .null => pure d
  | _ => throw s!"bad text field {k}"

/-- A canned answer from its JSON form. -/
def Canned.ofJson (j : Json) : Decoded Canned := do
  let status ← match j.get? "status" with
    | some (.int n) => pure n
    | none | some .null => pure 200
    | _ => throw "bad status"
  let url ← match j.get? "url" with
    | some (.str s) => pure (some s)
    | none | some .null => pure none
    | _ => throw "bad url"
  return {
    status := status
    headers := ← headersOfJson (j.getD "headers" .null)
    body := ← textField j "body" ""
    reason := ← textField j "reason" ""
    url := url
    fails := (j.get? "raise").any Json.truthy }

/-- A network from a list of routes and a fallback answer. -/
def Network.ofJson (routes : Json) (fallback : Json) : Decoded Network := do
  let routes ← match routes with
    | .arr rs => rs.mapM fun r => do
      let url ← match r.get? "url" with
        | some (.str u) => pure u
        | _ => throw "a route needs a url"
      pure (url, ← Canned.ofJson r)
    | .null => pure []
    | _ => throw "routes must be a list"
  return ⟨routes, ← Canned.ofJson fallback⟩

/-- Header fields as a JSON object. -/
def fieldsJson (fs : List (String × String)) : Json := .obj (fs.map fun (k, v) => (k, .str v))

/-- What a backend received, as JSON. -/
def Sent.toJson : Sent → Json
  | .recorded url headers timeout =>
    .obj [("headers", fieldsJson headers), ("timeout", .int timeout), ("url", .str url)]
  | .wire method url headers =>
    .obj [("headers", fieldsJson headers), ("method", .str method), ("url", .str url)]

/-- An optional timestamp as ISO text or null. -/
def timeJson : Option Timestamp → Json
  | some t => .str t.isoText
  | none => .null

/-- The name of the generic model, whose content is reported in full. -/
def genericModel : String := "GenericResponseModel"

/-- A report as JSON. -/
def Reply.toJson : Reply → Json
  | .failure r =>
    .obj [("exception_type", .str r.exceptionType), ("http_status", .str r.status),
      ("http_status_code", .int r.statusCode), ("message", .str r.message),
      ("relative_uri", .str r.relativeUri),
      ("timestamp_utc", match r.timestamp with
        | some t => .str t.isoText
        | none => .str "NOW"),
      ("type", .str "ApiError")]
  | .content r =>
    let base := [("content_expires", timeJson r.contentExpires),
      ("content_is_root", .bool (r.kind == .root)), ("content_model", .str r.model),
      ("response_timestamp", timeJson r.responseTimestamp),
      ("shared_expires", timeJson r.sharedExpires), ("type", .str "ResponseModel")]
    let rootLen := match r.kind, r.content with
      | .root, .arr xs => [("root_len", Json.int xs.length)]
      | _, _ => []
    let root := if r.model == genericModel then [("root", r.content)] else []
    .obj (base ++ rootLen ++ root)

/-- A timestamp given as the text of a mail date or as `{"datetime": ISO text}`. Any other
value fails as the text reader fails on it: a value with content has no text to split,
an empty one is a bad value. -/
def stampOf? (j : Json) : Outcome Timestamp :=
  match j with
  | .str s => MailDate.timestamp? s
  | .obj [("datetime", .str iso)] => Timestamp.ofIsoText? iso
  | v => if v.truthy then .error (.plain .noSuchMember) else .error (.plain .badValue)

/-- The query text of the arguments given as a JSON object; `null` stands for none, and
a value of another kind has no arguments to list. -/
def queryOf? (params : Json) : Outcome String :=
  match params with
  | .obj fs => .ok (queryText fs)
  | .null => .ok ""
  | _ => .error (.plain .noSuchMember)

/-- The classes of a status code as JSON. -/
def statusFlagsJson (code : Int) : Json :=
  .obj [("ok", .bool (isOk code)), ("is_error", .bool (isError code)),
    ("is_client_error", .bool (isClientError code)),
    ("is_server_error", .bool (isServerError code)), ("status_code", .int code)]

/-- An outcome as JSON, a fault as its error object. -/
def outcomeJson (faultJson : Fault → Json) {α : Type} (f : α → Json) : Outcome α → Json
  | .ok a => f a
  | .error e => faultJson e

/-- What a client sees of an answer through a backend: its parts, its classes, the
header fields asked for, its body read as JSON, and the fault it raises when rejected by
status. -/
def answerViewJson (faultJson : Fault → Json) (b : Backend) (a : Answer)
    (lookup : List String) : Json :=
  let body := match Json.parse? a.text with
    | some j => j
    | none => faultJson (.plain .badJson)
  .obj [("status_code", .int a.status), ("reason", .str a.reason), ("url", .str a.url),
    ("text", .str a.text), ("ok", .bool (isOk a.status)), ("is_error", .bool (isError a.status)),
    ("header", .obj (lookup.map fun n => (n, match b.header? a.headers n with
      | some v => .str v
      | none => .null))),
    ("json", body),
    ("raise_for_status", match b.statusFault? a.status with
      | some k => (faultJson (.plain k)).getD "error" .null
      | none => .null)]

/-- The backends clients pick by default, by class name, as JSON. -/
def defaultsJson (faultJson : Fault → Json) (missing : List String) : Json :=
  let pick (style : CallStyle) :=
    outcomeJson faultJson (fun b => .str (b.className style)) (defaultBackend missing style)
  .obj [("sync", pick .direct), ("async", pick .awaited)]

/-- The public names of the package as JSON. -/
def surfaceJson (faultJson : Fault → Json) (missing : List String) : Json :=
  outcomeJson faultJson (fun s => .obj [("requests_available", .bool s.preparedAvailable),
      ("all", .arr (s.names.map .str)), ("backends_all", .arr (s.backendNames.map .str))])
    (PackageSurface.of missing)

end TransitKit.Client
