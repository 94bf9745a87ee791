import ClusterDesk.Proofs.Backend.Uniform
import ClusterDesk.Proofs.Text.Blank
import ClusterDesk.Proofs.Web.Parameters

/-!
# Parameters of operations

Whoever is sent the request of an operation that posts nothing reads the parameters that were meant
from it, in their order and no others, whatever texts and numbers they hold.
-/

namespace ClusterDesk.Backend

/-- Whether a text can be searched for in a listing. -/
def Listing.IsSearchable : Listing → Prop
  | .operators => True
  | .clusters => True
  | .validators => True
  | .events => True
  | .blocks _ => False
  | .ranking => False

/-- Which page of a listing is asked for, and how long it is. -/
def paging (q : PageQuery) : Web.Query :=
  [("page", toString q.page.toNat), ("limit", toString q.limit.toNat)]

/-- The parameters that an operation without a posted record is meant to have, in their order. -/
inductive Intended : Operation → Web.Query → Prop where
  | entitlement (account : Address) :
      Intended (.entitlement account) [("account", account.checksummed)]
  | summary (owner : Address) : Intended (.summary owner) [("owner", owner.checksummed)]
  | config (proof : OwnershipProof) :
      Intended (.config proof) [("owner", proof.owner.checksummed),
        ("block", toString proof.block.toNat), ("signature", proof.signature)]
  | status : Intended .status []
  | dashboard : Intended .dashboard []
  | details (cluster : String) : Intended (.details cluster) [("clusterId", cluster)]
  | stats (cluster : String) : Intended (.stats cluster) [("clusterId", cluster)]
  | blocks (cluster : String) (q : PageQuery) :
      Intended (.page (.blocks cluster) q) (("clusterId", cluster) :: paging q)
  | ranking (q : PageQuery) : Intended (.page .ranking q) (paging q)
  /-- A searched text goes in front, without the blanks around it. -/
  | searched {listing : Listing} {q : PageQuery} {text trimmed : String}
      (h : listing.IsSearchable) (hsearch : q.search = some text)
      (htrimmed : Text.Trims text trimmed) (hsome : trimmed ≠ "") :
      Intended (.page listing q) (("search", trimmed) :: paging q)
  /-- A blank text is no search. -/
  | unsearched {listing : Listing} {q : PageQuery} (h : listing.IsSearchable)
      (hblank : ∀ text, q.search = some text → ∀ c ∈ text.toList, Text.isBlank c = true) :
      Intended (.page listing q) (paging q)

namespace Listing

variable {l : Listing} {q : PageQuery}

theorem parameters_of_isSearchable (h : l.IsSearchable) :
    l.parameters q = search q ++ paging q := by
  cases l <;> first | rfl | exact h.elim

theorem search_eq_nil (h : ∀ text, q.search = some text → ∀ c ∈ text.toList, Text.isBlank c = true) :
    search q = [] := by
  unfold search
  split
  case h_1 => rfl
  case h_2 text hsearch =>
    have hblank : Text.allBlank text = true := List.all_eq_true.mpr (h text hsearch)
    rw [if_pos hblank]

theorem search_eq_singleton {text : String} (hsearch : q.search = some text)
    (hsome : Text.trim text ≠ "") : search q = [("search", Text.trim text)] := by
  have hwords : ¬Text.allBlank text = true := mt (Text.trim_eq_empty_iff text).mpr hsome
  simp only [search, hsearch, if_neg hwords]

theorem intended_parameters_of_isSearchable (h : l.IsSearchable) :
    Intended (.page l q) (l.parameters q) := by
  rw [parameters_of_isSearchable h]
  by_cases hwords : ∃ text, q.search = some text ∧ Text.trim text ≠ ""
  · obtain ⟨text, hsearch, hsome⟩ := hwords
    rw [search_eq_singleton hsearch hsome]
    exact .searched h hsearch (Text.trims_trim text) hsome
  · have hblank : ∀ text, q.search = some text → ∀ c ∈ text.toList, Text.isBlank c = true := by
      intro text hsearch
      have hempty : Text.trim text = "" := by
        by_contra hsome
        exact hwords ⟨text, hsearch, hsome⟩
      exact List.all_eq_true.mp ((Text.trim_eq_empty_iff text).mp hempty)
    rw [search_eq_nil hblank]
    exact .unsearched h hblank

theorem intended_parameters (l : Listing) (q : PageQuery) :
    Intended (.page l q) (l.parameters q) := by
  cases l with
  | blocks cluster => exact .blocks cluster q
  | ranking => exact .ranking q
  | operators => exact intended_parameters_of_isSearchable trivial
  | clusters => exact intended_parameters_of_isSearchable trivial
  | validators => exact intended_parameters_of_isSearchable trivial
  | events => exact intended_parameters_of_isSearchable trivial

end Listing

namespace Operation

theorem parameters_eq_of_intended {op : Operation} {parameters : Web.Query}
    (h : Intended op parameters) : op.parameters = parameters := by
  cases h with
  | entitlement account => rfl
  | summary owner => rfl
  | config proof => rfl
  | status => rfl
  | dashboard => rfl
  | details cluster => rfl
  | stats cluster => rfl
  | blocks cluster q => rfl
  | ranking q => rfl
  | @searched listing q text trimmed hl hsearch htrimmed hsome =>
    obtain rfl := Text.trims_iff.mp htrimmed
    rw [parameters, Listing.parameters_of_isSearchable hl,
      Listing.search_eq_singleton hsearch hsome, List.singleton_append]
  | unsearched hl hblank =>
    rw [parameters, Listing.parameters_of_isSearchable hl, Listing.search_eq_nil hblank,
      List.nil_append]

theorem intended_of_posted_eq_none {op : Operation} (h : op.posted = none) :
    Intended op op.parameters := by
  cases op with
  | entitlement account => exact .entitlement account
  | summary owner => exact .summary owner
  | config proof => exact .config proof
  | save request => simp [posted] at h
  | delete proof => simp [posted] at h
  | test channel => simp [posted] at h
  | status => exact .status
  | dashboard => exact .dashboard
  | page listing q => exact listing.intended_parameters q
  | details cluster => exact .details cluster
  | stats cluster => exact .stats cluster

theorem intended_iff {op : Operation} (h : op.posted = none) (parameters : Web.Query) :
    Intended op parameters ↔ parameters = op.parameters := by
  constructor
  · intro hmeant
    exact (parameters_eq_of_intended hmeant).symm
  · rintro rfl
    exact intended_of_posted_eq_none h

theorem shown_of_request {base : String} {op : Operation} {request : Request}
    (h : op.request base = .ok request) :
    ∃ address, Web.Url.parse? (op.address base) = some address ∧
      request = ⟨address.withQuery op.parameters, op.posted.map Json.compact⟩ ∧ address.IsPlain ∧
      request.url.shown = address.shown ++ op.parameters.map Web.pairBytes := by
  obtain ⟨address, hparse, hserved, rfl⟩ := address_of_request h
  have hplain := Web.Url.isPlain_of_parse? hparse hserved
  exact ⟨address, hparse, rfl, hplain, hplain.shown_withQuery op.parameters⟩

theorem shown_of_isSite {base : String} {site : Web.Url} (hsite : Web.Url.IsSite base site)
    {op : Operation} {request : Request} (h : op.request base = .ok request) :
    request.url.shown = op.parameters.map Web.pairBytes := by
  obtain ⟨address, hparse, rfl, hplain, hshown⟩ := shown_of_request h
  obtain ⟨root, hroot⟩ := exists_root_of_isSite hsite
  have hsame := Request.mk.inj (Except.ok.inj (h.symm.trans (hroot op)))
  have hpath := congrArg Web.Url.path hsame.1
  rw [Web.Url.withQuery_path, Web.Url.withQuery_path] at hpath
  have hown : Web.Url.IsPlain
      { site with path := root ++ ("/api/" ++ op.resource).toList } := by
    refine ⟨hpath ▸ hplain.path, ?_⟩
    simp [hsite.exists_root.1]
  dsimp only
  rw [hsame.1, hown.shown_withQuery, hown.shown_eq, hsite.exists_root.1]
  rfl

/-- What is read from the request that was sent, if one was. -/
structure Undistorted (base : String) (op : Operation)
    (asked : List (Exchange Request fun _ => Web.Reply)) : Prop where
  /-- On a site one request is sent, and from it the list that is meant is read, and no more. -/
  onSite : ∀ site, Web.Url.IsSite base site → ∃ request reply intended,
    asked = [⟨request, reply⟩] ∧ request.body = none ∧
      (∀ parameters, Intended op parameters ↔ parameters = intended) ∧
      request.url.shown = intended.map Web.pairBytes
  /-- Where the address of the resource has parameters of its own, these stand in front. -/
  behind : ∀ exchange ∈ asked, ∃ address intended,
    Web.Url.parse? (Text.trimSlashes base ++ "/api/" ++ op.resource) = some address ∧
      (∀ parameters, Intended op parameters ↔ parameters = intended) ∧
      exchange.1.url.shown = address.shown ++ intended.map Web.pairBytes

/-- No text or number that an operation is given adds a parameter, drops one or alters another. -/
theorem undistorted_of_perform (base : String) {op : Operation} (h : op.posted = none) :
    (op.perform base).Ensures fun asked _ => Undistorted base op asked := by
  unfold perform
  cases hrequest : op.request base with
  | error fault =>
    rw [Dialogue.ensures_done]
    constructor
    · intro site hsite
      obtain ⟨root, hroot⟩ := exists_root_of_isSite hsite
      simp [hroot op] at hrequest
    · simp
  | ok request =>
    simp only [Dialogue.ensures_ask, Dialogue.ensures_done]
    intro reply
    obtain ⟨address, hparse, hsent, hplain, hshown⟩ := shown_of_request hrequest
    constructor
    · intro site hsite
      have hsame := shown_of_isSite hsite hrequest
      exact ⟨request, reply, op.parameters, rfl, by rw [hsent, h]; rfl, intended_iff h, hsame⟩
    · intro exchange hmem
      obtain rfl := List.mem_singleton.mp hmem
      exact ⟨address, op.parameters, hparse, intended_iff h, hshown⟩

/-- A search for a text that is itself written like parameters. -/
def lookalike : Operation :=
  .page .operators ⟨2, 5, some " a&page=9#b+c%3D é "⟩

theorem undistorted_of_lookalike :
    lookalike.posted = none ∧
      ((lookalike.request "http://stub").toOption.map fun request => request.url.target) =
        some "/api/operators?search=a%26page%3D9%23b%2Bc%253D+%C3%A9&page=2&limit=5" ∧
      (lookalike.perform "http://stub").Ensures fun asked _ =>
        Undistorted "http://stub" lookalike asked :=
  ⟨rfl, by decide +kernel, undistorted_of_perform "http://stub" rfl⟩

end Operation

end ClusterDesk.Backend
