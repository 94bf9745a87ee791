import ClusterDesk.Dialogue

/-!
# What a dialogue can come to

A dialogue yields a result with a transcript when some answers lead it there. What it ensures of
everything it yields therefore holds in every environment, whatever that answers.
-/

namespace ClusterDesk.Dialogue

variable {Q : Type} {A : Q → Type} {α β σ : Type}

/-- Some answers lead the dialogue to a result with this transcript. -/
def Yields : Dialogue Q A α → List (Exchange Q A) → α → Prop
  | .done a, transcript, b => transcript = [] ∧ b = a
  | .ask q next, transcript, b =>
    ∃ r rest, transcript = ⟨q, r⟩ :: rest ∧ (next r).Yields rest b

/-- Whatever is answered, the transcript and the result have a property. -/
def Ensures (talk : Dialogue Q A α) (P : List (Exchange Q A) → α → Prop) : Prop :=
  ∀ transcript a, talk.Yields transcript a → P transcript a

theorem yields_done (a b : α) (transcript : List (Exchange Q A)) :
    (Dialogue.done a).Yields transcript b ↔ transcript = [] ∧ b = a :=
  Iff.rfl

theorem yields_ask_cons (q : Q) (next : A q → Dialogue Q A α) (r : A q)
    (rest : List (Exchange Q A)) (a : α) :
    (Dialogue.ask q next).Yields (⟨q, r⟩ :: rest) a ↔ (next r).Yields rest a := by
  constructor
  · rintro ⟨r', rest', hsplit, h⟩
    obtain ⟨hfirst, rfl⟩ := List.cons.inj hsplit
    obtain rfl : r = r' := by simpa using hfirst
    exact h
  · intro h
    exact ⟨r, rest, rfl, h⟩

theorem yields_run (talk : Dialogue Q A α) (answer : (q : Q) → σ → A q × σ) (s : σ) :
    talk.Yields (talk.run answer s).2.1 (talk.run answer s).1 := by
  induction talk generalizing s with
  | done a => exact ⟨rfl, rfl⟩
  | ask q next ih => exact ⟨(answer q s).1, _, rfl, ih _ _⟩

/-- A dialogue that can come to the transcript of a run comes to it in the same environment. -/
theorem run_eq_of_yields {talk : Dialogue Q A α} {other : Dialogue Q A β}
    {answer : (q : Q) → σ → A q × σ} {s : σ} {b : β}
    (h : other.Yields (talk.run answer s).2.1 b) :
    other.run answer s = (b, (talk.run answer s).2) := by
  induction talk generalizing other s with
  | done a =>
    cases other with
    | done a' =>
      obtain ⟨-, rfl⟩ := h
      rfl
    | ask q next =>
      obtain ⟨r, rest, hsplit, -⟩ := h
      exact absurd hsplit (by simp [run])
  | ask q next ih =>
    cases other with
    | done a' =>
      obtain ⟨hsplit, -⟩ := h
      exact absurd hsplit (by simp [run])
    | ask q' next' =>
      obtain ⟨r, rest, hsplit, hrest⟩ := h
      obtain ⟨hfirst, rfl⟩ := List.cons.inj hsplit
      cases hfirst
      have hnext := ih _ hrest
      simp only [run, hnext]

theorem run_bind (talk : Dialogue Q A α) (f : α → Dialogue Q A β)
    (answer : (q : Q) → σ → A q × σ) (s : σ) :
    (talk.bind f).run answer s =
      let first := talk.run answer s
      let second := (f first.1).run answer first.2.2
      (second.1, first.2.1 ++ second.2.1, second.2.2) := by
  induction talk generalizing s with
  | done a => rfl
  | ask q next ih => simp only [bind, run, ih, List.cons_append]

theorem yields_bind (talk : Dialogue Q A α) (f : α → Dialogue Q A β)
    (transcript : List (Exchange Q A)) (b : β) :
    (talk.bind f).Yields transcript b ↔
      ∃ first a second, transcript = first ++ second ∧ talk.Yields first a ∧
        (f a).Yields second b := by
  induction talk generalizing transcript with
  | done a =>
    constructor
    · intro h
      exact ⟨[], a, transcript, rfl, ⟨rfl, rfl⟩, h⟩
    · rintro ⟨first, a', second, rfl, ⟨rfl, rfl⟩, h⟩
      exact h
  | ask q next ih =>
    constructor
    · rintro ⟨r, rest, rfl, h⟩
      obtain ⟨first, a, second, rfl, hfirst, hsecond⟩ := (ih r rest).mp h
      exact ⟨⟨q, r⟩ :: first, a, second, rfl, ⟨r, first, rfl, hfirst⟩, hsecond⟩
    · rintro ⟨_, a, second, rfl, ⟨r, first, rfl, hfirst⟩, hsecond⟩
      exact ⟨r, first ++ second, rfl, (ih r _).mpr ⟨first, a, second, rfl, hfirst, hsecond⟩⟩

@[simp] theorem ensures_done (a : α) (P : List (Exchange Q A) → α → Prop) :
    (Dialogue.done a).Ensures P ↔ P [] a := by
  constructor
  · intro h
    exact h [] a ⟨rfl, rfl⟩
  · rintro h _ _ ⟨rfl, rfl⟩
    exact h

@[simp] theorem ensures_ask (q : Q) (next : A q → Dialogue Q A α)
    (P : List (Exchange Q A) → α → Prop) :
    (Dialogue.ask q next).Ensures P ↔
      ∀ r, (next r).Ensures fun transcript a => P (⟨q, r⟩ :: transcript) a := by
  constructor
  · intro h r transcript a hnext
    exact h _ a ⟨r, transcript, rfl, hnext⟩
  · rintro h _ a ⟨r, rest, rfl, hnext⟩
    exact h r rest a hnext

@[simp] theorem ensures_bind (talk : Dialogue Q A α) (f : α → Dialogue Q A β)
    (P : List (Exchange Q A) → β → Prop) :
    (talk.bind f).Ensures P ↔
      talk.Ensures fun first a => (f a).Ensures fun second b => P (first ++ second) b := by
  constructor
  · intro h first a hfirst second b hsecond
    exact h _ b ((yields_bind talk f _ b).mpr ⟨first, a, second, rfl, hfirst, hsecond⟩)
  · intro h transcript b hb
    obtain ⟨first, a, second, rfl, hfirst, hsecond⟩ := (yields_bind talk f transcript b).mp hb
    exact h first a hfirst second b hsecond

theorem Ensures.mono {talk : Dialogue Q A α} {P R : List (Exchange Q A) → α → Prop}
    (h : talk.Ensures P) (himp : ∀ transcript a, P transcript a → R transcript a) :
    talk.Ensures R := by
  intro transcript a ha
  exact himp transcript a (h transcript a ha)

theorem ensures_andThen_ok {ε : Type} {talk : Dialogue Q A (Except ε α)}
    {f : α → Dialogue Q A (Except ε β)} {P : β → Prop}
    (h : ∀ a, (f a).Ensures fun _ result => ∀ b, result = .ok b → P b) :
    (talk.andThen f).Ensures fun _ result => ∀ b, result = .ok b → P b := by
  rw [andThen, ensures_bind]
  rintro _ (e | a) -
  · exact (ensures_done _ _).mpr (by simp)
  · exact h a

end ClusterDesk.Dialogue
