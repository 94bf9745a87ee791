import ClusterDesk.Proofs.Dialogue.Yields

/-!
# Relayed dialogues

A relayed dialogue yields what the dialogue itself yields, and its transcript is put together from
what was asked in the place of every question.
-/

namespace ClusterDesk.Dialogue

variable {Q Q' : Type} {A : Q → Type} {A' : Q' → Type} {α β γ σ : Type}

theorem bind_assoc (talk : Dialogue Q A α) (f : α → Dialogue Q A β) (g : β → Dialogue Q A γ) :
    (talk.bind f).bind g = talk.bind fun a => (f a).bind g := by
  induction talk with
  | done a => rfl
  | ask q next ih => simp only [bind, ih]

/-- What was asked in the place of every exchange. -/
inductive Relayed (f : (q : Q) → Dialogue Q' A' (A q)) :
    List (Exchange Q A) → List (Exchange Q' A') → Prop where
  | nil : Relayed f [] []
  | cons {q : Q} {r : A q} {inner : List (Exchange Q A)} {first outer : List (Exchange Q' A')}
      (h : (f q).Yields first r) (hrest : Relayed f inner outer) :
      Relayed f (⟨q, r⟩ :: inner) (first ++ outer)

theorem relayed_cons {f : (q : Q) → Dialogue Q' A' (A q)} {q : Q} {r : A q}
    {inner : List (Exchange Q A)} {outer : List (Exchange Q' A')} :
    Relayed f (⟨q, r⟩ :: inner) outer ↔
      ∃ first rest, outer = first ++ rest ∧ (f q).Yields first r ∧ Relayed f inner rest := by
  constructor
  · rintro (_ | ⟨h, hrest⟩)
    exact ⟨_, _, rfl, h, hrest⟩
  · rintro ⟨first, rest, rfl, h, hrest⟩
    exact .cons h hrest

theorem yields_relay (f : (q : Q) → Dialogue Q' A' (A q)) (talk : Dialogue Q A α)
    (outer : List (Exchange Q' A')) (a : α) :
    (talk.relay f).Yields outer a ↔ ∃ inner, talk.Yields inner a ∧ Relayed f inner outer := by
  induction talk generalizing outer with
  | done b =>
    rw [relay, yields_done]
    constructor
    · rintro ⟨rfl, hsame⟩
      exact ⟨[], ⟨rfl, hsame⟩, .nil⟩
    · rintro ⟨inner, ⟨rfl, hsame⟩, hrelayed⟩
      cases hrelayed
      exact ⟨rfl, hsame⟩
  | ask q next ih =>
    rw [relay, yields_bind]
    constructor
    · rintro ⟨first, r, rest, rfl, hfirst, hnext⟩
      obtain ⟨inner, hinner, hrelayed⟩ := (ih r rest).mp hnext
      exact ⟨⟨q, r⟩ :: inner, ⟨r, inner, rfl, hinner⟩, .cons hfirst hrelayed⟩
    · rintro ⟨_, ⟨r, inner, rfl, hinner⟩, hrelayed⟩
      obtain ⟨first, rest, rfl, hfirst, hrest⟩ := relayed_cons.mp hrelayed
      exact ⟨first, r, rest, rfl, hfirst, (ih r rest).mpr ⟨inner, hinner, hrest⟩⟩

/-- What a dialogue ensures is ensured of every relayed transcript too. -/
theorem Ensures.relay {f : (q : Q) → Dialogue Q' A' (A q)} {talk : Dialogue Q A α}
    {P : List (Exchange Q A) → α → Prop} {R : List (Exchange Q' A') → α → Prop}
    (h : talk.Ensures P) (himp : ∀ inner outer a, P inner a → Relayed f inner outer → R outer a) :
    (talk.relay f).Ensures R := by
  intro outer a houter
  obtain ⟨inner, hinner, hrelayed⟩ := (yields_relay f talk outer a).mp houter
  exact himp inner outer a (h inner a hinner) hrelayed

theorem Relayed.append_silent {f : (q : Q) → Dialogue Q' A' (A q)}
    {silent inner : List (Exchange Q A)} {outer : List (Exchange Q' A')}
    (h : Relayed f (silent ++ inner) outer)
    (hsilent : ∀ exchange ∈ silent, ∃ r, f exchange.1 = .done r) : Relayed f inner outer := by
  induction silent generalizing outer with
  | nil => exact h
  | cons exchange rest ih =>
    obtain ⟨first, later, rfl, hfirst, hlater⟩ := relayed_cons.mp h
    obtain ⟨r, hr⟩ := hsilent exchange List.mem_cons_self
    rw [hr] at hfirst
    obtain ⟨rfl, -⟩ := hfirst
    exact ih hlater fun next hnext => hsilent next (List.mem_cons_of_mem exchange hnext)

theorem Relayed.eq_nil_of_silent {f : (q : Q) → Dialogue Q' A' (A q)}
    {silent : List (Exchange Q A)} {outer : List (Exchange Q' A')} (h : Relayed f silent outer)
    (hsilent : ∀ exchange ∈ silent, ∃ r, f exchange.1 = .done r) : outer = [] := by
  rw [← List.append_nil silent] at h
  cases h.append_silent hsilent
  rfl

/-- What was asked in the place of every exchange, from one state to another. -/
inductive RelayedWith (f : (q : Q) → σ → Dialogue Q' A' (A q × σ)) :
    σ → List (Exchange Q A) → List (Exchange Q' A') → σ → Prop where
  | nil {s : σ} : RelayedWith f s [] [] s
  | cons {q : Q} {r : A q} {s t u : σ} {inner : List (Exchange Q A)}
      {first outer : List (Exchange Q' A')} (h : (f q s).Yields first (r, t))
      (hrest : RelayedWith f t inner outer u) :
      RelayedWith f s (⟨q, r⟩ :: inner) (first ++ outer) u

theorem relayedWith_cons {f : (q : Q) → σ → Dialogue Q' A' (A q × σ)} {q : Q} {r : A q} {s u : σ}
    {inner : List (Exchange Q A)} {outer : List (Exchange Q' A')} :
    RelayedWith f s (⟨q, r⟩ :: inner) outer u ↔
      ∃ first rest t, outer = first ++ rest ∧ (f q s).Yields first (r, t) ∧
        RelayedWith f t inner rest u := by
  constructor
  · rintro (_ | ⟨h, hrest⟩)
    exact ⟨_, _, _, rfl, h, hrest⟩
  · rintro ⟨first, rest, t, rfl, h, hrest⟩
    exact .cons h hrest

theorem yields_relayWith (f : (q : Q) → σ → Dialogue Q' A' (A q × σ)) (talk : Dialogue Q A α)
    (outer : List (Exchange Q' A')) (a : α) (s u : σ) :
    (talk.relayWith f s).Yields outer (a, u) ↔
      ∃ inner, talk.Yields inner a ∧ RelayedWith f s inner outer u := by
  induction talk generalizing outer s with
  | done b =>
    rw [relayWith, yields_done]
    constructor
    · rintro ⟨rfl, hsame⟩
      obtain ⟨rfl, rfl⟩ := Prod.mk.inj hsame
      exact ⟨[], ⟨rfl, rfl⟩, .nil⟩
    · rintro ⟨inner, ⟨rfl, rfl⟩, hrelayed⟩
      cases hrelayed
      exact ⟨rfl, rfl⟩
  | ask q next ih =>
    rw [relayWith, yields_bind]
    constructor
    · rintro ⟨first, ⟨r, t⟩, rest, rfl, hfirst, hnext⟩
      obtain ⟨inner, hinner, hrelayed⟩ := (ih r rest t).mp hnext
      exact ⟨⟨q, r⟩ :: inner, ⟨r, inner, rfl, hinner⟩, .cons hfirst hrelayed⟩
    · rintro ⟨_, ⟨r, inner, rfl, hinner⟩, hrelayed⟩
      obtain ⟨first, rest, t, rfl, hfirst, hrest⟩ := relayedWith_cons.mp hrelayed
      exact ⟨first, (r, t), rest, rfl, hfirst, (ih r rest t).mpr ⟨inner, hinner, hrest⟩⟩

theorem Ensures.relayWith {f : (q : Q) → σ → Dialogue Q' A' (A q × σ)} {talk : Dialogue Q A α}
    {s : σ} {P : List (Exchange Q A) → α → Prop} {R : List (Exchange Q' A') → α × σ → Prop}
    (h : talk.Ensures P)
    (himp : ∀ inner outer a u, P inner a → RelayedWith f s inner outer u → R outer (a, u)) :
    (talk.relayWith f s).Ensures R := by
  rintro outer ⟨a, u⟩ houter
  obtain ⟨inner, hinner, hrelayed⟩ := (yields_relayWith f talk outer a s u).mp houter
  exact himp inner outer a u (h inner a hinner) hrelayed

end ClusterDesk.Dialogue
