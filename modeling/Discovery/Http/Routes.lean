import Discovery.Http.Query
import Discovery.Json.Decode
/-!
# Routes

Which request asks for what. A target may name a host; only what stands behind it counts. A path names an endpoint
only if it is exactly the endpoint's path, undecoded. Four
endpoints are read with GET, or with HEAD when only the headers are wanted; the one that starts scans takes
POST. A query that does not decode refuses the request before it has any effect.
-/
namespace Discovery.Http

structure Request where
  method : String
  /-- The path and the query, perhaps behind a scheme and a host. -/
  target : String
  deriving DecidableEq, Repr

inductive Body where
  | empty
  | json (value : Json)
  | text (text : String)
  /-- Events as they happen. -/
  | stream
  deriving Repr

structure Response where
  status : Nat
  contentType : Option String
  /-- The methods that the endpoint takes. -/
  allow : Option String
  cacheControl : Option String
  body : Body
  deriving Repr

namespace Response

def ofStatus (status : Nat) : Response := ⟨status, none, none, none, .empty⟩

def ofJson (value : Json) : Response := ⟨200, some "application/json", none, none, .json value⟩

def plainText : String := "text/plain; charset=utf-8"

def ofText (text : String) : Response := ⟨200, some plainText, none, none, .text text⟩

def notFound : Response := ofStatus 404

def accepted : Response := ofStatus 202

def internalError : Response := ofStatus 500

/-- The request is understood and makes no sense. -/
def badRequest : Response := ofStatus 400

def notAllowed (methods : String) : Response := { ofStatus 405 with allow := some methods }

def badQuery (cause : DecodeError) : Response :=
  ⟨400, some plainText, none, none, .text ("Failed to deserialize query string: " ++ Json.message cause)⟩

def events : Response := ⟨200, some "text/event-stream", none, some "no-cache", .stream⟩

def headers (response : Response) : Response := { response with body := .empty }

end Response

inductive Endpoint where
  | services
  | sessions
  | scan
  | fingerprint
  | events
  deriving DecidableEq, Repr

namespace Endpoint

def all : List Endpoint := [services, sessions, scan, fingerprint, events]

def path : Endpoint → String
  | services => "/v1/services"
  | sessions => "/v1/services/sessions"
  | scan => "/v1/services/scan"
  | fingerprint => "/v1/services/hash"
  | events => "/v1/events"

def ofPath? (path : String) : Option Endpoint := all.find? (·.path == path)

/-- The endpoint starts scans; all others are read. -/
def posted : Endpoint → Bool
  | scan => true
  | _ => false

def methods (endpoint : Endpoint) : String := if endpoint.posted then "POST" else "GET,HEAD"

def takes (endpoint : Endpoint) (method : String) : Bool :=
  if endpoint.posted then method == "POST" else method == "GET" || method == "HEAD"

end Endpoint

inductive Action where
  /-- The records of a category, cleaned up and rescanned, or everything as it is. -/
  | services (category : Option Category)
  | sessions
  /-- A scan of one category, or of all. -/
  | scan (category : Option Category)
  | fingerprint
  | events
  deriving DecidableEq, Repr

def isSchemeChar (char : Char) : Bool := char.isAlphanum || char == '+' || char == '-' || char == '.'

/-- A target without the scheme and the host that may stand before its path. -/
def localTarget (target : List Char) : List Char :=
  match target.dropWhile isSchemeChar with
  | ':' :: '/' :: '/' :: rest => rest.dropWhile fun char => char ≠ '/' && char ≠ '?'
  | _ => target

/-- The path and the query of a target, without a fragment. -/
def splitTarget (target : String) : String × String :=
  let (path, rest) := (localTarget (target.toList.takeWhile (· ≠ '#'))).span (· ≠ '?')
  (String.ofList path, String.ofList (rest.drop 1))

def Endpoint.action (endpoint : Endpoint) (query : String) : Except DecodeError Action :=
  match endpoint with
  | services => return .services (← queryCategory query)
  | scan => return .scan (← queryCategory query)
  | sessions => .ok .sessions
  | fingerprint => .ok .fingerprint
  | events => .ok .events

/-- What a request asks for, or the response that refuses it. -/
def route (request : Request) : Except Response Action :=
  let (path, query) := splitTarget request.target
  match Endpoint.ofPath? path with
  | none => .error .notFound
  | some endpoint =>
    if !endpoint.takes request.method then .error (.notAllowed endpoint.methods)
    else (endpoint.action query).mapError .badQuery

/-- The response to a request for headers only has no body. -/
def trim (request : Request) (response : Response) : Response :=
  if request.method = "HEAD" then response.headers else response

end Discovery.Http
