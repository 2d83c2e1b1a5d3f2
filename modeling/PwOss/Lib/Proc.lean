/-
  Procedures over a mutable state that may fail.

  A procedure runs from a state and ends in a result and a state, or fails (an
  assertion, a loop that runs out of fuel). `Runs x s Q` is its total
  correctness: from `s`, `x` does not fail and ends as `Q` says. `Ends x s Q` is the
  partial one: if `x` ends, it ends as `Q` says. `Moves R x` relates the states
  before and after `x`, whatever they are. The rules below take a procedure apart
  as its text is written, and `onPart` runs a procedure of one component of the
  state.
-/

namespace PwOss.Proc

/-- A procedure that mutates `σ`, returns `α` or fails. -/
abbrev Proc (σ α : Type) := StateT σ Option α

variable {σ τ α β : Type}

/-- From `s`, `x` does not fail, and its result and final state meet `Q`. -/
def Runs (x : Proc σ α) (s : σ) (Q : α → σ → Prop) : Prop :=
  ∃ a t, x s = some (a, t) ∧ Q a t

/-- An assertion. -/
def require (p : Prop) [Decidable p] : Proc σ Unit := fun s => if p then some ((), s) else none

/-- Runs a procedure of one component of the state. -/
def onPart (get : σ → τ) (put : τ → σ → σ) (x : Proc τ α) : Proc σ α := fun s =>
  match x (get s) with
  | none => none
  | some (a, t) => some (a, put t s)

namespace Runs
variable {s : σ} {Q Q' : α → σ → Prop} {x y : Proc σ α}

theorem of_eq {a : α} {t : σ} (h : x s = some (a, t)) (hQ : Q a t) : Runs x s Q :=
  ⟨a, t, h, hQ⟩

/-- The one way a procedure ends is the one its rule describes. -/
theorem elim (h : Runs x s Q) {a : α} {t : σ} (ht : x s = some (a, t)) : Q a t := by
  obtain ⟨a', t', h', hQ⟩ := h
  rw [h'] at ht
  cases ht
  exact hQ

theorem mono (h : Runs x s Q) (hQ : ∀ a t, Q a t → Q' a t) : Runs x s Q' := by
  obtain ⟨a, t, hx, ha⟩ := h
  exact ⟨a, t, hx, hQ a t ha⟩

/-- A procedure ends in one way: two descriptions of it hold together. -/
theorem and (h : Runs x s Q) (h' : Runs x s Q') : Runs x s fun a t => Q a t ∧ Q' a t := by
  obtain ⟨a, t, hx, hQ⟩ := h
  exact ⟨a, t, hx, hQ, h'.elim hx⟩

theorem pure {a : α} (h : Q a s) : Runs (pure a) s Q := ⟨a, s, rfl, h⟩

theorem bind {x : Proc σ β} {f : β → Proc σ α}
    (h : Runs x s fun b t => Runs (f b) t Q) : Runs (x >>= f) s Q := by
  obtain ⟨b, t, hx, a, u, hf, hQ⟩ := h
  refine ⟨a, u, ?_, hQ⟩
  show (x s).bind (fun p => f p.1 p.2) = some (a, u)
  rw [hx]
  exact hf

/-- Bind with the first part's postcondition named. -/
theorem bind_of {x : Proc σ β} {f : β → Proc σ α} {R : β → σ → Prop} (hx : Runs x s R)
    (hf : ∀ b t, R b t → Runs (f b) t Q) : Runs (x >>= f) s Q :=
  bind (hx.mono hf)

/-- The first two parts of three run as one. -/
theorem assoc {γ : Type} {x : Proc σ β} {f : β → Proc σ γ} {g : γ → Proc σ α}
    (h : Runs ((x >>= f) >>= g) s Q) : Runs (x >>= fun b => f b >>= g) s Q := by
  rwa [bind_assoc] at h

theorem get {f : σ → Proc σ α} (h : Runs (f s) s Q) : Runs (MonadState.get >>= f) s Q :=
  bind ⟨s, s, rfl, h⟩

theorem modify {u : σ → σ} {f : Unit → Proc σ α} (h : Runs (f ()) (u s) Q) :
    Runs (modify u >>= f) s Q := bind ⟨(), u s, rfl, h⟩

theorem require {p : Prop} [Decidable p] {f : Unit → Proc σ α} (hp : p)
    (h : Runs (f ()) s Q) : Runs (Proc.require p >>= f) s Q :=
  bind ⟨(), s, if_pos hp, h⟩

theorem ite {c : Prop} [Decidable c] (hx : c → Runs x s Q) (hy : ¬ c → Runs y s Q) :
    Runs (if c then x else y) s Q := by
  by_cases h : c
  · rw [if_pos h]
    exact hx h
  · rw [if_neg h]
    exact hy h

theorem onPart {get : σ → τ} {put : τ → σ → σ} {x : Proc τ α}
    (h : Runs x (get s) fun a t => Q a (put t s)) : Runs (Proc.onPart get put x) s Q := by
  obtain ⟨a, t, hx, hQ⟩ := h
  refine ⟨a, put t s, ?_, hQ⟩
  simp only [Proc.onPart, hx]

end Runs

/-! ## Partial correctness -/

/-- If `x` ends from `s`, its result and final state meet `Q`. -/
def Ends (x : Proc σ α) (s : σ) (Q : α → σ → Prop) : Prop :=
  ∀ a t, x s = some (a, t) → Q a t

theorem Runs.ends {x : Proc σ α} {s : σ} {Q : α → σ → Prop} (h : Runs x s Q) : Ends x s Q :=
  fun _ _ ht => h.elim ht

namespace Ends
variable {s : σ} {Q Q' : α → σ → Prop} {x y : Proc σ α}

theorem mono (h : Ends x s Q) (hQ : ∀ a t, Q a t → Q' a t) : Ends x s Q' :=
  fun a t ht => hQ a t (h a t ht)

theorem pure {a : α} (h : Q a s) : Ends (pure a) s Q := (Runs.pure h).ends

theorem bind {x : Proc σ β} {f : β → Proc σ α} {R : β → σ → Prop} (hx : Ends x s R)
    (hf : ∀ b t, R b t → Ends (f b) t Q) : Ends (x >>= f) s Q := by
  intro a u h
  have h : (x s).bind (fun p => f p.1 p.2) = some (a, u) := h
  obtain ⟨⟨b, t⟩, hb, hu⟩ := Option.bind_eq_some_iff.mp h
  exact hf b t (hx b t hb) a u hu

theorem get {f : σ → Proc σ α} (h : Ends (f s) s Q) : Ends (MonadState.get >>= f) s Q := h

theorem modify {u : σ → σ} {f : Unit → Proc σ α} (h : Ends (f ()) (u s) Q) :
    Ends (modify u >>= f) s Q := h

theorem ite {c : Prop} [Decidable c] (hx : c → Ends x s Q) (hy : ¬ c → Ends y s Q) :
    Ends (if c then x else y) s Q := by
  by_cases h : c
  · rw [if_pos h]
    exact hx h
  · rw [if_neg h]
    exact hy h

theorem require {p : Prop} [Decidable p] {f : Unit → Proc σ α}
    (h : p → Ends (f ()) s Q) : Ends (Proc.require p >>= f) s Q := by
  refine .bind (R := fun _ t => p ∧ t = s) (fun a t ht => ?_) fun _ t ht => ht.2 ▸ h ht.1
  unfold Proc.require at ht
  split at ht
  · next hp =>
    cases ht
    exact ⟨hp, rfl⟩
  · cases ht

end Ends

/-! ## Relations along a procedure -/

/-- A relation that holds of no step and of two steps in a row. -/
structure Chain (R : σ → σ → Prop) : Prop where
  refl : ∀ s, R s s
  trans : ∀ {s t u}, R s t → R t u → R s u

/-- Whatever `x` ends in is related to the state it began in. -/
def Moves (R : σ → σ → Prop) (x : Proc σ α) : Prop := ∀ s, Ends x s fun _ t => R s t

namespace Moves
variable {R : σ → σ → Prop} {x y : Proc σ α}

theorem mono {R' : σ → σ → Prop} (h : Moves R x) (hR : ∀ s t, R s t → R' s t) : Moves R' x :=
  fun s => (h s).mono fun _ t => hR s t

theorem pure (hR : Chain R) (a : α) : Moves R (pure a : Proc σ α) := fun s => .pure (hR.refl s)

theorem bind (hR : Chain R) {x : Proc σ β} {f : β → Proc σ α} (hx : Moves R x)
    (hf : ∀ b, Moves R (f b)) : Moves R (x >>= f) := fun s =>
  (hx s).bind fun b t ht => (hf b t).mono fun _ _ hu => hR.trans ht hu

theorem get {f : σ → Proc σ α} (h : ∀ s, Moves R (f s)) : Moves R (MonadState.get >>= f) :=
  fun s => .get (h s s)

theorem update {u : σ → σ} (hu : ∀ s, R s (u s)) : Moves R (modify u : Proc σ Unit) := by
  intro s a t h
  cases h
  exact hu s

theorem modify (hR : Chain R) {u : σ → σ} {f : Unit → Proc σ α} (hu : ∀ s, R s (u s))
    (h : Moves R (f ())) : Moves R (modify u >>= f) := fun s =>
  .modify ((h (u s)).mono fun _ _ ht => hR.trans (hu s) ht)

theorem require {p : Prop} [Decidable p] {f : Unit → Proc σ α}
    (h : Moves R (f ())) : Moves R (Proc.require p >>= f) := fun s => .require fun _ => h s

theorem ite {c : Prop} [Decidable c] (hx : c → Moves R x) (hy : ¬ c → Moves R y) :
    Moves R (if c then x else y) := fun s =>
  .ite (fun h => hx h s) (fun h => hy h s)

/-- A procedure that fails ends nowhere. -/
theorem failure : Moves R (failure : Proc σ α) := nofun

end Moves

end PwOss.Proc
