import ClusterDesk.Backend.Operation
import ClusterDesk.Dialogue
import ClusterDesk.Web.Url

/-!
# Exchanges with the backend

An operation sends at most one request and never repeats it. Its result needs a status of success,
a JSON body that reports no error, and a body that decodes as a whole; whatever else comes back is
a failure that names the resource.
-/

namespace ClusterDesk.Backend

/-- A request as it is sent. -/
structure Request where
  url : Web.Url
  /-- The text of a posted body. -/
  body : Option String
deriving DecidableEq, Repr

abbrev Talk := Dialogue Request fun _ => Web.Reply

namespace Operation

/-- The address of a resource below the base of the backend. -/
def address (base : String) (op : Operation) : String :=
  Text.trimSlashes base ++ "/api/" ++ op.resource

/-- The request of an operation. -/
def request (base : String) (op : Operation) : Except Fault Request :=
  match Web.Url.parse? (op.address base) with
  | none => .error .noAddress
  | some url =>
    if !url.hasHost then .error (.notServed url.text)
    else
      let url := url.withQuery op.parameters
      if Web.Url.isServed url.scheme then .ok ⟨url, op.posted.map Json.compact⟩
      else .error (.notServed url.text)

/-- Reads what came back for a request. -/
def read (op : Operation) (url : Web.Url) : Web.Reply → Except Fault op.Result
  | .dropped => .error (.dropped url.text)
  | .answered code body =>
    if !Web.isSuccess code then .error (.status code)
    else
      match Json.parseWhole? body with
      | none => .error .unreadable
      | some body =>
        match Notice.errorOf? body with
        | some notice => .error (.reported notice)
        | none => op.decode body

/-- A failure of an operation names its resource. -/
def conclude (op : Operation) : Except Fault op.Result → Except Failure op.Result
  | .ok a => .ok a
  | .error fault => .error (.remoteFetch op.resource fault.reason)

/-- Sends the request of an operation and reads what comes back. -/
def perform (base : String) (op : Operation) : Talk (Except Failure op.Result) :=
  match op.request base with
  | .error fault => .done (op.conclude (.error fault))
  | .ok request => .ask request fun reply => .done (op.conclude (op.read request.url reply))

end Operation

end ClusterDesk.Backend
