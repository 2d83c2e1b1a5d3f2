import PwOss.Lib.Transition

/-
  Debounced settings: a counter of the requests for another value, and a change
  that is acted on once the counter runs.

  A log lists the requests, the last one first, each with the value in force and
  the counter before and after it. `Tallied` says that one counter ran through the
  log; nothing else writes it, but it may be set to zero between two requests.
  The counter does not know which value it counts: a change is debounced in
  the log (`Debounced`) exactly where no request for a third value comes while
  one is counted (`debounced_iff_steady`).
-/

namespace PwOss.Debounce

open PwOss.Transition

variable {κ : Type}

/-- A request for a value of a setting. -/
structure Turn (κ : Type) where
  asked : κ
  /-- The setting can change. -/
  live : Bool
  held : κ
  held' : κ
  counted : Nat
  counted' : Nat
  /-- The change was made, or ordered. -/
  acted : Bool
  deriving DecidableEq

namespace Turn

/-- A request for another value of a live setting. -/
def Differs (t : Turn κ) : Prop := t.live = true ∧ t.asked ≠ t.held

instance [DecidableEq κ] (t : Turn κ) : Decidable t.Differs :=
  inferInstanceAs (Decidable (_ ∧ _))

/-- The setting changes to `v`, or a change to `v` is ordered. -/
def MovesTo (t : Turn κ) (v : κ) : Prop :=
  (t.held' ≠ t.held ∧ t.held' = v) ∨ (t.acted = true ∧ t.asked = v)

/-- What one request does to the counter and to the setting. -/
structure Counts (t : Turn κ) : Prop where
  calm : ¬ t.Differs → t.acted = false ∧ t.counted' = 0
  first : t.Differs → t.counted = 0 → t.acted = false
  again : t.Differs → t.counted ≠ 0 → t.acted = true
  held : t.held' = t.held ∨ (t.acted = true ∧ t.held' = t.asked)

theorem Counts.of_calm {t : Turn κ} (h : ¬ t.Differs) (ha : t.acted = false)
    (hc : t.counted' = 0) (hh : t.held' = t.held) : t.Counts :=
  ⟨fun _ => ⟨ha, hc⟩, fun hd => absurd hd h, fun hd => absurd hd h, .inl hh⟩

theorem Counts.of_first {t : Turn κ} (h : t.Differs) (hz : t.counted = 0) (ha : t.acted = false)
    (hh : t.held' = t.held) : t.Counts :=
  ⟨fun hn => absurd h hn, fun _ _ => ha, fun _ hp => absurd hz hp, .inl hh⟩

theorem Counts.of_again {t : Turn κ} (h : t.Differs) (hp : t.counted ≠ 0) (ha : t.acted = true)
    (hh : t.held' = t.held ∨ t.held' = t.asked) : t.Counts :=
  ⟨fun hn => absurd h hn, fun _ hz => absurd hz hp, fun _ _ => ha, hh.imp id fun h => ⟨ha, h⟩⟩

/-- A request acts when it meets a running counter. -/
theorem Counts.acted_iff {t : Turn κ} (h : t.Counts) :
    t.acted = true ↔ t.Differs ∧ t.counted ≠ 0 := by
  constructor
  · intro hacted
    by_cases hd : t.Differs
    · refine ⟨hd, fun hz => ?_⟩
      rw [h.first hd hz] at hacted
      cases hacted
    · rw [(h.calm hd).1] at hacted
      cases hacted
  · intro hboth
    exact h.again hboth.1 hboth.2

/-- Whatever changes is what was asked for, by a request that acted. -/
theorem Counts.movesTo_iff {t : Turn κ} (h : t.Counts) (v : κ) :
    t.MovesTo v ↔ t.acted = true ∧ t.asked = v := by
  constructor
  · intro hm
    rcases hm with ⟨hne, hv⟩ | hacted
    · rcases h.held with hsame | ⟨hacted, hasked⟩
      · exact absurd hsame hne
      · exact ⟨hacted, hasked.symm.trans hv⟩
    · exact hacted
  · exact Or.inr

end Turn

/-- One counter ran through the log and stands at `k`. -/
inductive Tallied : Nat → List (Turn κ) → Prop where
  | nil : Tallied 0 []
  | turn {t : Turn κ} {log : List (Turn κ)} (ht : t.Counts) (h : Tallied t.counted log) :
      Tallied t.counted' (t :: log)
  | reset {k : Nat} {log : List (Turn κ)} (h : Tallied k log) : Tallied 0 log

/-- Every change to a value follows two requests in a row for that value. -/
def Debounced : List (Turn κ) → Prop
  | [] => True
  | t :: log =>
    (∀ v, t.MovesTo v → t.asked = v ∧ ∃ u ∈ log.head?, u.asked = v) ∧ Debounced log

/-- A request for the value in force changes nothing and clears the counter, and the
request after it does not act. -/
def Cancels : List (Turn κ) → Prop
  | [] => True
  | t :: log =>
    (t.asked = t.held → t.held' = t.held ∧ t.acted = false ∧ t.counted' = 0) ∧
      (∀ u ∈ log.head?, u.asked = u.held → t.acted = false) ∧ Cancels log

/-- While a change is counted, no request for another value than the request before it. -/
def Steady : List (Turn κ) → Prop
  | [] => True
  | t :: log =>
    (t.Differs → t.counted ≠ 0 → ∀ u ∈ log.head?, u.asked = t.asked) ∧ Steady log

namespace Tallied
variable {k : Nat} {log : List (Turn κ)}

/-- A running counter counted the last request. -/
theorem counting (h : Tallied k log) (hk : k ≠ 0) : ∃ u ∈ log.head?, u.Differs := by
  cases h with
  | nil => exact absurd rfl hk
  | turn ht _ =>
    refine ⟨_, rfl, ?_⟩
    apply Classical.byContradiction
    intro hcalm
    exact hk (ht.calm hcalm).2
  | reset _ => exact absurd rfl hk

/-- The changes of a log are debounced exactly where its requests are steady. -/
theorem debounced_iff_steady (h : Tallied k log) : Debounced log ↔ Steady log := by
  induction h with
  | nil => exact Iff.rfl
  | reset _ ih => exact ih
  | @turn t log ht h ih =>
    refine and_congr ?_ ih
    constructor
    · intro hdebounced hdiffers hcounted u hu
      have hacted := ht.acted_iff.mpr ⟨hdiffers, hcounted⟩
      obtain ⟨-, u', hu', hasked⟩ :=
        hdebounced t.asked ((ht.movesTo_iff t.asked).mpr ⟨hacted, rfl⟩)
      rw [Option.mem_unique hu hu']
      exact hasked
    · intro hsteady v hv
      obtain ⟨hacted, hasked⟩ := (ht.movesTo_iff v).mp hv
      obtain ⟨hdiffers, hcounted⟩ := ht.acted_iff.mp hacted
      -- the counter runs, so there is a request before this one
      obtain ⟨u, hu, -⟩ := h.counting hcounted
      exact ⟨hasked, u, hu, (hsteady hdiffers hcounted u hu).trans hasked⟩

theorem cancels (h : Tallied k log) : Cancels log := by
  induction h with
  | nil => trivial
  | reset _ ih => exact ih
  | @turn t log ht h ih =>
    refine ⟨?_, ?_, ih⟩
    · intro hheld
      obtain ⟨hidle, hcleared⟩ := ht.calm fun hdiffers => hdiffers.2 hheld
      refine ⟨?_, hidle, hcleared⟩
      rcases ht.held with hsame | ⟨hacted, -⟩
      · exact hsame
      · rw [hidle] at hacted
        cases hacted
    · intro u hu hheld
      cases hacts : t.acted with
      | false => rfl
      | true =>
        obtain ⟨u', hu', hdiffers⟩ := h.counting (ht.acted_iff.mp hacts).2
        rw [Option.mem_unique hu hu'] at hheld
        exact absurd hheld hdiffers.2

/-- A run in which every step adds a turn that counted, or leaves the counter alone or
clears it. -/
theorem of_reachable {σ ε : Type} {M : System (σ × List (Turn κ)) ε} (count : σ → Nat)
    (hinit : ∀ s, M.init s → count s.1 = 0 ∧ s.2 = [])
    (hstep : ∀ s e s', M.step s e = some s' →
      (∃ t : Turn κ, s'.2 = t :: s.2 ∧ t.Counts ∧ t.counted = count s.1 ∧
        t.counted' = count s'.1) ∨
      (s'.2 = s.2 ∧ (count s'.1 = count s.1 ∨ count s'.1 = 0)))
    {s : σ × List (Turn κ)} (h : Reachable M s) : Tallied (count s.1) s.2 := by
  apply h.invariant (I := fun s => Tallied (count s.1) s.2)
  constructor
  · intro s hs
    obtain ⟨hzero, hnil⟩ := hinit s hs
    rw [hzero, hnil]
    exact .nil
  · intro s e s' hk _ hs
    rcases hstep s e s' hs with ⟨t, hlog, ht, hbefore, hafter⟩ | ⟨hlog, hcount⟩
    · rw [hlog, ← hafter]
      rw [← hbefore] at hk
      exact .turn ht hk
    · rw [hlog]
      rcases hcount with hsame | hzero
      · rw [hsame]
        exact hk
      · rw [hzero]
        exact .reset hk

end Tallied

end PwOss.Debounce
