import ClusterDesk.Proofs.Dialogue.Relays
import Mathlib.Data.List.Basic

/-!
# What a dialogue asks

A dialogue asks only questions of some kind, or a question of some kind at most once, and a
dialogue that is put together from others asks what these ask.
-/

namespace ClusterDesk.Dialogue

variable {Q Q' : Type} {A : Q → Type} {A' : Q' → Type} {α β ε σ : Type}

/-- Whatever is answered, every question that is asked has a property. -/
def Asks (P : Q → Prop) : Dialogue Q A α → Prop
  | .done _ => True
  | .ask q next => P q ∧ ∀ r, (next r).Asks P

theorem Asks.of_yields {P : Q → Prop} {talk : Dialogue Q A α} {transcript : List (Exchange Q A)}
    {a : α} (h : talk.Asks P) (hyields : talk.Yields transcript a) : ∀ x ∈ transcript, P x.1 := by
  induction talk generalizing transcript with
  | done b =>
    obtain ⟨rfl, -⟩ := hyields
    simp
  | ask q next ih =>
    obtain ⟨r, rest, rfl, hrest⟩ := hyields
    intro x hx
    rcases List.mem_cons.mp hx with rfl | hx
    · exact h.1
    · exact ih r (h.2 r) hrest x hx

theorem Asks.ensures {P : Q → Prop} {talk : Dialogue Q A α} (h : talk.Asks P) :
    talk.Ensures fun transcript _ => ∀ x ∈ transcript, P x.1 :=
  fun _ _ hyields => h.of_yields hyields

theorem Asks.bind {P : Q → Prop} {talk : Dialogue Q A α} {f : α → Dialogue Q A β}
    (h : talk.Asks P) (hf : ∀ a, (f a).Asks P) : (talk.bind f).Asks P := by
  induction talk with
  | done a => exact hf a
  | ask q next ih => exact ⟨h.1, fun r => ih r (h.2 r)⟩

theorem Asks.andThen {P : Q → Prop} {talk : Dialogue Q A (Except ε α)}
    {f : α → Dialogue Q A (Except ε β)} (h : talk.Asks P) (hf : ∀ a, (f a).Asks P) :
    (talk.andThen f).Asks P := by
  refine h.bind fun result => ?_
  cases result with
  | error e => trivial
  | ok a => exact hf a

theorem asks_true (talk : Dialogue Q A α) : talk.Asks fun _ => True := by
  induction talk with
  | done a => trivial
  | ask q next ih => exact ⟨trivial, ih⟩

theorem Asks.mono {P R : Q → Prop} {talk : Dialogue Q A α} (h : talk.Asks P)
    (himp : ∀ q, P q → R q) : talk.Asks R := by
  induction talk with
  | done a => trivial
  | ask q next ih => exact ⟨himp q h.1, fun r => ih r (h.2 r)⟩

theorem Asks.relay {P : Q → Prop} {R : Q' → Prop} {f : (q : Q) → Dialogue Q' A' (A q)}
    {talk : Dialogue Q A α} (h : talk.Asks P) (hf : ∀ q, P q → (f q).Asks R) :
    (talk.relay f).Asks R := by
  induction talk with
  | done a => trivial
  | ask q next ih => exact (hf q h.1).bind fun r => ih r (h.2 r)

theorem Asks.relayWith {P : Q → Prop} {R : Q' → Prop}
    {f : (q : Q) → σ → Dialogue Q' A' (A q × σ)} {talk : Dialogue Q A α} (h : talk.Asks P)
    (hf : ∀ q s, P q → (f q s).Asks R) (s : σ) : (talk.relayWith f s).Asks R := by
  induction talk generalizing s with
  | done a => trivial
  | ask q next ih => exact (hf q s h.1).bind fun told => ih told.1 (h.2 told.1) told.2

/-- What is relayed leaves the state alone if no question that is asked changes it. -/
theorem Asks.relayWith_state {P : Q → Prop} {f : (q : Q) → σ → Dialogue Q' A' (A q × σ)}
    {talk : Dialogue Q A α} (h : talk.Asks P)
    (hf : ∀ q s, P q → (f q s).Ensures fun _ told => told.2 = s) (s : σ) :
    (talk.relayWith f s).Ensures fun _ told => told.2 = s := by
  induction talk with
  | done a => exact (ensures_done _ _).mpr rfl
  | ask q next ih =>
    simp only [Dialogue.relayWith, ensures_bind]
    refine (hf q s h.1).mono ?_
    rintro _ ⟨r, t⟩ hsame
    obtain rfl : t = s := hsame
    exact ih r (h.2 r)

theorem relayedWith_append {f : (q : Q) → σ → Dialogue Q' A' (A q × σ)} {s u : σ}
    {first rest : List (Exchange Q A)} {outer : List (Exchange Q' A')} :
    RelayedWith f s (first ++ rest) outer u ↔
      ∃ front back t, outer = front ++ back ∧ RelayedWith f s first front t ∧
        RelayedWith f t rest back u := by
  induction first generalizing s outer with
  | nil =>
    constructor
    · intro h
      exact ⟨[], outer, s, rfl, .nil, h⟩
    · rintro ⟨_, back, _, rfl, ⟨⟩, h⟩
      exact h
  | cons x first ih =>
    rw [List.cons_append, relayedWith_cons]
    constructor
    · rintro ⟨asked, later, t, rfl, hasked, hlater⟩
      obtain ⟨front, back, v, rfl, hfront, hback⟩ := ih.mp hlater
      exact ⟨asked ++ front, back, v, by rw [List.append_assoc], .cons hasked hfront, hback⟩
    · rintro ⟨_, back, v, rfl, hfront, hback⟩
      obtain ⟨asked, front, t, rfl, hasked, hfront⟩ := relayedWith_cons.mp hfront
      exact ⟨asked, front ++ back, t, by rw [List.append_assoc], hasked,
        ih.mpr ⟨front, back, v, rfl, hfront, hback⟩⟩

/-- Questions of a kind are asked once at the most, and what was asked and told before such a
question has a property together with it. -/
inductive Once (kind : Q → Bool) (P : List (Exchange Q A) → Exchange Q A → Prop) :
    List (Exchange Q A) → Prop where
  | never {transcript : List (Exchange Q A)} (h : ∀ x ∈ transcript, kind x.1 = false) :
      Once kind P transcript
  | once {front back : List (Exchange Q A)} {x : Exchange Q A}
      (hfront : ∀ y ∈ front, kind y.1 = false) (hback : ∀ y ∈ back, kind y.1 = false)
      (h : P front x) : Once kind P (front ++ x :: back)

namespace Once

variable {kind : Q → Bool} {P R : List (Exchange Q A) → Exchange Q A → Prop}
  {transcript front back : List (Exchange Q A)}

theorem mono (h : Once kind P transcript) (himp : ∀ front x, P front x → R front x) :
    Once kind R transcript := by
  cases h with
  | never h => exact .never h
  | once hfront hback h => exact .once hfront hback (himp _ _ h)

theorem behind {first : List (Exchange Q A)} (hfirst : ∀ y ∈ first, kind y.1 = false)
    (h : Once kind (fun front x => P (first ++ front) x) transcript) :
    Once kind P (first ++ transcript) := by
  cases h with
  | never h => exact .never (List.forall_mem_append.mpr ⟨hfirst, h⟩)
  | once hfront hback h =>
    rw [← List.append_assoc]
    exact .once (List.forall_mem_append.mpr ⟨hfirst, hfront⟩) hback h

theorem ahead {rest : List (Exchange Q A)} (h : Once kind P transcript)
    (hrest : ∀ y ∈ rest, kind y.1 = false) : Once kind P (transcript ++ rest) := by
  cases h with
  | never h => exact .never (List.forall_mem_append.mpr ⟨h, hrest⟩)
  | once hfront hback h =>
    rw [List.append_assoc, List.cons_append]
    exact .once hfront (List.forall_mem_append.mpr ⟨hback, hrest⟩) h

theorem length_le (h : Once kind P transcript) :
    (transcript.filter fun x => kind x.1).length ≤ 1 := by
  have hnone : ∀ l : List (Exchange Q A), (∀ y ∈ l, kind y.1 = false) →
      (l.filter fun x => kind x.1) = [] := by
    intro l hl
    exact List.filter_eq_nil_iff.mpr fun y hy => by simp [hl y hy]
  cases h with
  | never h => simp [hnone _ h]
  | @once front back x hfront hback h =>
    rw [List.filter_append, hnone front hfront, List.nil_append, List.filter_cons, hnone back hback]
    split
    · exact Nat.le_refl 1
    · exact Nat.zero_le 1

theorem of_eq {x : Exchange Q A} (h : Once kind P transcript)
    (hsplit : transcript = front ++ x :: back) (hkind : kind x.1 = true) : P front x := by
  cases h with
  | never h =>
    have hx := h x (by simp [hsplit])
    simp [hkind] at hx
  | once hfront hback h =>
    have hnot : ∀ l : List (Exchange Q A), (∀ y ∈ l, kind y.1 = false) → x ∉ l := by
      intro l hl hx
      simp [hl x hx] at hkind
    obtain ⟨rfl, rfl, -⟩ :=
      (List.append_cons_inj_of_notMem (hnot _ hfront) (hnot _ hback)).mp hsplit
    exact h

theorem ensures_bind {talk : Dialogue Q A α} {f : α → Dialogue Q A β}
    (h : talk.Ensures fun first a => (∀ y ∈ first, kind y.1 = false) ∧
      (f a).Ensures fun rest _ => Once kind (fun front x => P (first ++ front) x) rest) :
    (talk.bind f).Ensures fun asked _ => Once kind P asked := by
  rw [Dialogue.ensures_bind]
  refine h.mono fun first a ⟨hfirst, hrest⟩ => hrest.mono fun rest _ honce => ?_
  exact honce.behind hfirst

end Once

end ClusterDesk.Dialogue
