import TransitKit.Host.Basic
import TransitKit.Json.Reader

/-!
# A host as JSON

What a job leaves on its host is reported as JSON:

* the requests sent, in order of address, each with its method and the one reported
  header field the plain client sends, `accept: */*`;
* the files, by path: the value of a file that holds JSON, or else its text.
-/

namespace TransitKit.Host

/-- The requests sent, in order of address. -/
def requestsJson (h : Host) : Json :=
  .arr ((h.requests.mergeSort (· ≤ ·)).map fun url =>
    .obj [("headers", .obj [("accept", .str "*/*")]), ("method", .str "GET"), ("url", .str url)])

/-- A file's content: its JSON value, or its text. -/
def contentJson (text : String) : Json :=
  match Json.parse? text with
  | some j => .obj [("json", j)]
  | none => .obj [("text", .str text)]

/-- The files, by path. -/
def filesJson (h : Host) : Json :=
  .obj (h.files.map fun (p, f) => (p, contentJson f.text))

theorem requestsJson_empty : ({} : Host).requestsJson = .arr [] := by
  simp [requestsJson]

end TransitKit.Host
