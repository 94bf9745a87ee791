import ClusterDesk.Backend.Exchange

/-!
# Explorer pages

A listing that cannot be loaded is shown as an empty page. The page of a cluster needs the details
of the cluster and nothing else; the page of an account needs nothing.
-/

namespace ClusterDesk.Explorer

open Backend (Listing Operation)

/-- The pages are put together from operations of the backend. -/
abbrev Talk := Dialogue Operation fun op => Except Failure op.Result

structure ClusterOverview where
  details : ClusterDetails
  stats : Option ClusterStats
  blocks : Page ProposedBlock
  events : Page Event
deriving DecidableEq, Repr

def ClusterOverview.toJson (o : ClusterOverview) : Json :=
  .obj [
    ("details", o.details.toJson),
    ("pos_stats", match o.stats with
      | some stats => stats.toJson
      | none => .null),
    ("blocks", o.blocks.toJson ProposedBlock.toJson),
    ("events", o.events.toJson Event.toJson)]

structure AccountOverview where
  clusters : Page Cluster
  validators : Page Validator
  events : Page Event
deriving DecidableEq, Repr

def AccountOverview.toJson (o : AccountOverview) : Json :=
  .obj [
    ("clusters", o.clusters.toJson Cluster.toJson),
    ("validators", o.validators.toJson Validator.toJson),
    ("events", o.events.toJson Event.toJson)]

/-- A page of a listing, empty when it cannot be loaded. -/
def listing (l : Listing) (q : PageQuery) : Talk (Page l.Row) :=
  .ask (.page l q) fun
    | .ok page => .done page
    | .error _ => .done (.empty q.page)

def clusterOverview (cluster : String) : Talk (Except Failure ClusterOverview) :=
  .ask (.details cluster) fun details =>
  .ask (.stats cluster) fun stats =>
  (listing (.blocks cluster) {}).bind fun blocks =>
  (listing .events { search := some cluster }).bind fun events =>
    match details with
    | .ok details => .done (.ok ⟨details, stats.toOption, blocks, events⟩)
    | .error failure => .done (.error failure)

def accountOverview (account : String) : Talk AccountOverview :=
  let q : PageQuery := { search := some account }
  (listing .clusters q).bind fun clusters =>
  (listing .validators q).bind fun validators =>
  (listing .events q).bind fun events =>
    .done ⟨clusters, validators, events⟩

end ClusterDesk.Explorer
