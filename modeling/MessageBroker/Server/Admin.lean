import MessageBroker.Broker.Stats

/-!
# The admin service

Two resources tell how the server is doing. They can be read with GET, and asked for with HEAD,
which leaves the body out.
-/

namespace MessageBroker.Server

/-- The version the server reports. -/
def version : String := "0.1.0"

/-- What a resource holds. -/
inductive Resource where
  | health
  | stats
deriving DecidableEq, Repr

/-- The answer of the service. -/
inductive AdminAnswer where
  | found (resource : Resource) (withBody : Bool)
  | notFound
  | methodNotAllowed
deriving DecidableEq, Repr

namespace AdminAnswer

/-- The status code of an answer. -/
def status : AdminAnswer → Nat
  | found .. => 200
  | notFound => 404
  | methodNotAllowed => 405

end AdminAnswer

/-- The resource that a path names; a query or a fragment after it does not matter. -/
def Resource.ofPath? (path : String) : Option Resource :=
  let bare := String.ofList (path.toList.takeWhile fun c => c ≠ '?' && c ≠ '#')
  if bare = "/health" then some health
  else if bare = "/stats" then some stats
  else none

/-- What a resource of a broker holds, as a plain value. -/
def Resource.content (b : Broker) : Resource → Plain
  | health => .table [("status", .str "ok"), ("version", .str version)]
  | stats => b.stats.plain

/-- The body of an answer about a broker, if it has one. -/
def AdminAnswer.body? (b : Broker) : AdminAnswer → Option Plain
  | found resource true => some (resource.content b)
  | _ => none

/-- The answer to a request. -/
def adminAnswer (method path : String) : AdminAnswer :=
  match Resource.ofPath? path with
  | none => .notFound
  | some resource =>
    if method = "GET" then .found resource true
    else if method = "HEAD" then .found resource false
    else .methodNotAllowed

end MessageBroker.Server
