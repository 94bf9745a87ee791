import ClusterDesk.Explorer.Page
import ClusterDesk.Text.Basic
import ClusterDesk.Web.Query

/-!
# Listings

The listings of the backend: where each is found, under which key its rows stand, and how it is
asked for one of its pages.
-/

namespace ClusterDesk.Backend

inductive Listing where
  | operators
  | clusters
  | validators
  | events
  /-- Blocks proposed by the validators of a cluster. -/
  | blocks (cluster : String)
  /-- Clusters that run out of funds within a month. -/
  | ranking
deriving DecidableEq, Repr

namespace Listing

/-- The rows of a listing. -/
abbrev Row : Listing → Type
  | .operators => Operator
  | .clusters => Cluster
  | .validators => Validator
  | .events => Event
  | .blocks _ => ProposedBlock
  | .ranking => ClusterDetails

def resource : Listing → String
  | .operators => "operators"
  | .clusters => "clusters"
  | .validators => "validators"
  | .events => "events"
  | .blocks _ => "blocks"
  | .ranking => "get30DayLiquidationRankingClusters"

/-- The key under which the rows stand. -/
def rowsKey : Listing → String
  | .operators => "operators"
  | .clusters => "clusters"
  | .validators => "validators"
  | .events => "history"
  | .blocks _ => "blocks"
  | .ranking => "clusters"

def decoder : (l : Listing) → Json.Decoder l.Row
  | .operators => Operator.decoder
  | .clusters => Cluster.decoder
  | .validators => Validator.decoder
  | .events => Event.decoder
  | .blocks _ => ProposedBlock.decoder
  | .ranking => ClusterDetails.decoder

def rowJson : (l : Listing) → l.Row → Json
  | .operators => Operator.toJson
  | .clusters => Cluster.toJson
  | .validators => Validator.toJson
  | .events => Event.toJson
  | .blocks _ => ProposedBlock.toJson
  | .ranking => ClusterDetails.toJson

/-- The searched text, unless it is blank. -/
def search (q : PageQuery) : Web.Query :=
  match q.search with
  | none => []
  | some s => if Text.allBlank s then [] else [("search", Text.trim s)]

/-- What narrows a listing down: a cluster, or a searched text where it can be searched. -/
def selection (q : PageQuery) : Listing → Web.Query
  | .operators => search q
  | .clusters => search q
  | .validators => search q
  | .events => search q
  | .blocks cluster => [("clusterId", cluster)]
  | .ranking => []

def parameters (l : Listing) (q : PageQuery) : Web.Query :=
  l.selection q ++ [("page", toString q.page.toNat), ("limit", toString q.limit.toNat)]

end Listing

end ClusterDesk.Backend
