/-
  Labelled transition systems given by a partial step function.

  `M.step s e = none` says that the event `e` is not enabled in `s`; the
  enabled events are the atomic steps of the threads of a concurrent program.
  `Via M P` are the states reached from an initial one through steps that all
  meet the condition `P`; `Reachable M` is the case without a condition. An
  invariant is proved once for every run by `Via.invariant`, and a
  concrete run is a state reached (`via_of_run`).
-/

namespace PwOss.Transition

/-- A system: its initial states and its partial step function. -/
structure System (σ ε : Type) where
  init : σ → Prop
  step : σ → ε → Option σ

variable {σ ε : Type} {M : System σ ε}

/-- The states reached from an initial state through steps that all meet `P`. -/
inductive Via (M : System σ ε) (P : σ → ε → Prop) : σ → Prop where
  | init {s : σ} (h : M.init s) : Via M P s
  | step {s s' : σ} {e : ε} (hs : Via M P s) (he : P s e) (h : M.step s e = some s') :
      Via M P s'

/-- The states reached from an initial state through any steps. -/
abbrev Reachable (M : System σ ε) : σ → Prop := Via M (fun _ _ => True)

/-- `I` holds initially and every step that meets `P` keeps it. -/
structure Inductive (M : System σ ε) (P : σ → ε → Prop) (I : σ → Prop) : Prop where
  init : ∀ s, M.init s → I s
  step : ∀ s e s', I s → P s e → M.step s e = some s' → I s'

namespace Via

theorem invariant {P : σ → ε → Prop} {I : σ → Prop} (hI : Inductive M P I) {s : σ}
    (h : Via M P s) : I s := by
  induction h with
  | init h => exact hI.init _ h
  | step _ he h ih => exact hI.step _ _ _ ih he h

/-- Fewer runs meet a stronger condition. -/
theorem mono {P Q : σ → ε → Prop} (hPQ : ∀ s e, P s e → Q s e) {s : σ} (h : Via M P s) :
    Via M Q s := by
  induction h with
  | init h => exact .init h
  | step _ he h ih => exact .step ih (hPQ _ _ he) h

end Via

/-- The run of a list of events from `s`. -/
def System.run (M : System σ ε) : σ → List ε → Option σ
  | s, [] => some s
  | s, e :: es =>
    match M.step s e with
    | none => none
    | some s' => M.run s' es

theorem run_singleton (s : σ) (e : ε) : M.run s [e] = M.step s e := by
  simp only [System.run]
  cases M.step s e <;> rfl

theorem run_cons {s s' : σ} {e : ε} {es : List ε} (h : M.run s (e :: es) = some s') :
    ∃ t, M.step s e = some t ∧ M.run t es = some s' := by
  simp only [System.run] at h
  split at h
  · cases h
  · next t ht => exact ⟨t, ht, h⟩

theorem via_of_run {P : σ → ε → Prop} : ∀ (es : List ε) {s s' : σ}, Via M P s →
    (∀ t e, e ∈ es → P t e) → M.run s es = some s' → Via M P s'
  | [], s, s', hs, _, h => by
    cases h
    exact hs
  | e :: es, s, s', hs, he, h => by
    simp only [System.run] at h
    split at h
    · cases h
    · next t ht =>
      exact via_of_run es (.step hs (he _ _ (List.mem_cons_self ..)) ht)
        (fun t e' h' => he t e' (List.mem_cons_of_mem _ h')) h

/-- The run of a list of events that all pass the test `c`. -/
def System.runTested (M : System σ ε) (c : σ → ε → Bool) : σ → List ε → Option σ
  | s, [] => some s
  | s, e :: es =>
    match M.step s e with
    | none => none
    | some s' => if c s e then M.runTested c s' es else none

theorem via_of_runTested {c : σ → ε → Bool} : ∀ (es : List ε) {s s' : σ},
    Via M (fun s e => c s e = true) s → M.runTested c s es = some s' →
    Via M (fun s e => c s e = true) s'
  | [], s, s', hs, h => by
    cases h
    exact hs
  | e :: es, s, s', hs, h => by
    simp only [System.runTested] at h
    split at h
    · cases h
    · next t ht =>
      split at h
      · next hc => exact via_of_runTested es (.step hs hc ht) h
      · cases h

/-- What holds of a state and is kept by every step that meets `P` holds at the
end of every run of such steps from that state. -/
theorem run_induction {P : σ → ε → Prop} (I : σ → Prop)
    (hstep : ∀ s e s', I s → P s e → M.step s e = some s' → I s') :
    ∀ (es : List ε) {s s' : σ}, I s → (∀ t e, e ∈ es → P t e) → M.run s es = some s' → I s'
  | [], s, s', hs, _, h => by
    cases h
    exact hs
  | e :: es, s, s', hs, he, h => by
    simp only [System.run] at h
    split at h
    · cases h
    · next t ht =>
      exact run_induction I hstep es (hstep _ _ _ hs (he _ _ (List.mem_cons_self ..)) ht)
        (fun t e' h' => he t e' (List.mem_cons_of_mem _ h')) h

end PwOss.Transition
