import ClusterDesk.Alerts.Desk
import ClusterDesk.Backend.Listing
import ClusterDesk.Rewards.Published
import ClusterDesk.Web.Reply

/-!
# Backend operations

Each operation has a resource of its own. Most are asked for with parameters; saving, deleting and
testing post a record. Every answer is decoded as a whole.
-/

namespace ClusterDesk.Backend

open Json (Decoder Record)

/-- An acknowledgement or an error that the backend reports in a body. -/
structure Notice where
  code : Int64
  message : String
deriving DecidableEq, Repr

/-- The code of success. -/
def successCode : Int64 := 200

namespace Notice

def decoder : Decoder Notice :=
  ((Record.of Notice.mk)
    |>.field "code" Decoder.integer64
    |>.optional "message" Decoder.text "").decode "ErrorEnvelope"

def text (n : Notice) : String :=
  "code " ++ toString n.code.toInt ++ ": " ++ n.message

/-- The whole number under the key of the code. -/
def codeOf? (body : Json) : Option Int64 :=
  match body.member? "code" with
  | some (.num n) => (Decoder.integer64 (.num n)).toOption
  | _ => none

/-- The error that a record with another code than success reports. One that cannot be read whole
has no message. -/
def errorOf? (body : Json) : Option Notice :=
  match codeOf? body with
  | none => none
  | some code =>
    if code = successCode then none
    else
      match decoder body with
      | .ok notice => some notice
      | .error _ => some ⟨code, ""⟩

end Notice

inductive Operation where
  | entitlement (account : Address)
  | summary (owner : Address)
  | config (proof : OwnershipProof)
  | save (request : Alerts.SaveRequest)
  | delete (proof : OwnershipProof)
  | test (channel : Channel)
  | status
  | dashboard
  | page (listing : Listing) (query : PageQuery)
  | details (cluster : String)
  | stats (cluster : String)
deriving DecidableEq

namespace Operation

/-- What an operation gives. -/
abbrev Result : Operation → Type
  | .entitlement _ => Entitlement
  | .summary _ => Alerts.Summary
  | .config _ => Alerts.Envelope
  | .save _ => Alerts.Envelope
  | .delete _ => Unit
  | .test _ => Unit
  | .status => IndexerStatus
  | .dashboard => Dashboard
  | .page listing _ => Page listing.Row
  | .details _ => ClusterDetails
  | .stats _ => ClusterStats

def resource : Operation → String
  | .entitlement _ => "claim"
  | .summary _ => "clusterMonitorInfo"
  | .config _ => "clusterMonitorConfig"
  | .save _ => "saveClusterMonitorConfig"
  | .delete _ => "deleteClusterMonitorConfig"
  | .test _ => "testAlarm"
  | .status => "status"
  | .dashboard => "dashboard"
  | .page listing _ => listing.resource
  | .details _ => "clusterDetails"
  | .stats _ => "posData"

def parameters : Operation → Web.Query
  | .entitlement account => [("account", account.checksummed)]
  | .summary owner => [("owner", owner.checksummed)]
  | .config proof =>
    [("owner", proof.owner.checksummed), ("block", toString proof.block.toNat),
      ("signature", proof.signature)]
  | .page listing query => listing.parameters query
  | .details cluster => [("clusterId", cluster)]
  | .stats cluster => [("clusterId", cluster)]
  | _ => []

/-- What proves the ownership, as it is posted. -/
def proofMembers (p : OwnershipProof) : List (String × Json) :=
  [("owner", .str p.owner.checksummed), ("signature", .str p.signature),
    ("block", .num (.natural p.block))]

/-- The posted record. -/
def posted : Operation → Option Json
  | .save request =>
    some (.obj (("monitorConfig", .str request.text) :: proofMembers request.proof))
  | .delete proof => some (.obj (proofMembers proof))
  | .test channel =>
    some (.obj [("alarm_type", .nat channel.method.code.toNat), ("alarm_channel", .str channel.wire)])
  | _ => none

end Operation

/-- Why an operation has no result. -/
inductive Fault where
  /-- No address can be made for the request. -/
  | noAddress
  /-- The address is not one that requests are sent to. -/
  | notServed (url : String)
  | dropped (url : String)
  | status (code : Nat)
  /-- The body is no JSON text. -/
  | unreadable
  | reported (notice : Notice)
  | malformed (refusal : Json.Refusal)
  | reward (fault : PublishedReward.Fault)
deriving BEq

def Fault.reason : Fault → String
  | .noAddress => "builder error"
  | .notServed url => "builder error for url (" ++ url ++ ")"
  | .dropped url => "error sending request for url (" ++ url ++ ")"
  | .status code => "HTTP " ++ Web.statusText code
  | .unreadable => "error decoding response body"
  | .reported notice => notice.text
  | .malformed refusal => "malformed response: " ++ refusal.message
  | .reward fault => fault.message

namespace Operation

/-- A record with one field. -/
def single (name key : String) (d : Decoder α) : Decoder α :=
  ((Record.of fun a => a) |>.field key d).decode name

def summaryDecoder : Decoder Alerts.Summary :=
  ((Record.of Alerts.Summary.mk)
    |>.field "totalClusters" Decoder.natural64
    |>.field "totalActiveCluster" Decoder.natural64
    |>.field "isMonitoring" Decoder.boolean
    |>.field "block" Decoder.natural64).decode "MonitorInfoResponse"

def envelopeDecoder : Decoder Alerts.Envelope :=
  ((Record.of Alerts.Envelope.mk)
    |>.field "monitorConfig" Payload.decoder
    |>.field "block" Decoder.natural64).decode "MonitorConfigResponse"

/-- A body that a decoder has to accept. -/
def take (d : Decoder α) (body : Json) : Except Fault α :=
  match d body with
  | .ok a => .ok a
  | .error refusal => .error (.malformed refusal)

/-- Decodes a checked body. -/
def decode : (op : Operation) → Json → Except Fault op.Result
  | .entitlement _, body =>
    match take (single "RewardInfoResponse" "ssvRewardInfo" PublishedReward.decoder) body with
    | .error fault => .error fault
    | .ok reward =>
      match reward.entitlement with
      | .ok result => .ok result
      | .error fault => .error (.reward fault)
  | .summary _, body => take summaryDecoder body
  | .config _, body => take envelopeDecoder body
  | .save _, body => take envelopeDecoder body
  | .delete _, body => (take Notice.decoder body).map fun _ => ()
  | .test _, body => (take Notice.decoder body).map fun _ => ()
  | .status, body => take IndexerStatus.decoder body
  | .dashboard, body => take Dashboard.decoder body
  | .page listing _, body => take (Page.decode listing.decoder listing.rowsKey) body
  | .details _, body =>
    take (single "ClusterDetailsResponse" "clusterDetails" ClusterDetails.decoder) body
  | .stats _, body => take (single "PosDataResponse" "posData" ClusterStats.decoder) body

end Operation

end ClusterDesk.Backend
