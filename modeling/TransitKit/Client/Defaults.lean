import TransitKit.Client.Exchange
import TransitKit.Client.Lifetime

/-!
# Default backends and the public names of the client package

A client that is given no backend picks one among those whose library can be loaded.
Direct calls prefer the canonical backend and fall back to the prepared one; awaited
calls have only the canonical backend. The package's public names depend in the same way
on which libraries load: the canonical backend's library is required, the prepared
backend's library is optional.
-/

namespace TransitKit.Client

/-- The installed library a sending backend is built on. -/
def Backend.library? : Backend → Option String
  | .canonical => some "httpx"
  | .prepared => some "requests"
  | .recorder => none

/-- The class that implements a backend for a call style. -/
def Backend.className : Backend → CallStyle → String
  | .canonical, .direct => "HttpxClient"
  | .canonical, .awaited => "AsyncHttpxClient"
  | .prepared, _ => "RequestsClient"
  | .recorder, _ => "HTTPClientBase"

/-- The text of the fault raised when awaited calls find no backend. -/
def awaitedBackendMissing : String :=
  "httpx is required for async client support. Install it with: pip install pydantic-tfl-api[httpx]"

/-- Whether a backend's library loads, given the libraries that do not. -/
def Backend.loads (missing : List String) (b : Backend) : Bool :=
  match b.library? with
  | some lib => !missing.contains lib
  | none => true

/-- The backend a client picks when given none. A direct call without either library
fails as a missing module; an awaited call without the canonical library fails with
`awaitedBackendMissing`. -/
def defaultBackend (missing : List String) (style : CallStyle) : Outcome Backend :=
  if Backend.canonical.loads missing then .ok .canonical
  else match style with
    | .direct =>
      if Backend.prepared.loads missing then .ok .prepared else .error (.plain .moduleMissing)
    | .awaited => .error (.withText .importFailed awaitedBackendMissing)

/-- The base address the package is configured with. -/
def configuredBaseUrl : String := "https://api.tfl.gov.uk/"

/-- The public names of the client package and of its backends, and whether the
prepared backend is available. -/
structure PackageSurface where
  names : List String
  backendNames : List String
  preparedAvailable : Bool
deriving Repr, Inhabited

/-- The public names that do not depend on the prepared backend. -/
def coreNames : List String :=
  ["ApiError", "ResponseModel", "GenericResponseModel", "Client", "AsyncClient", "RestClient",
   "AsyncRestClient", "HTTPClientBase", "AsyncHTTPClientBase", "HTTPResponse", "HttpxClient",
   "AsyncHttpxClient", "UnifiedResponse", "get_default_http_client",
   "get_default_async_http_client", "__version__"]

/-- The package's public names when the given libraries do not load. Without the
canonical backend's library the package cannot be loaded at all; the prepared backend
and its name appear only when its library loads. -/
def PackageSurface.of (missing : List String) : Outcome PackageSurface :=
  if !Backend.canonical.loads missing then .error (.plain .moduleMissing)
  else
    let prepared := Backend.prepared.loads missing
    let extra := if prepared then ["RequestsClient"] else []
    .ok ⟨coreNames ++ extra, ["HttpxClient", "AsyncHttpxClient"] ++ extra, prepared⟩

theorem defaultBackend_nil (style : CallStyle) : defaultBackend [] style = .ok .canonical := by
  simp [defaultBackend, Backend.loads, Backend.library?]

end TransitKit.Client
