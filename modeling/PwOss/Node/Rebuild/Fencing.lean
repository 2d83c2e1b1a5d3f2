import PwOss.Node.Rebuild.Bookkeeping

/-
  The generation fence: which completions may change the port.

  `queuedAt` counts the generation bumps at the moment an order was queued, in
  `Nat`, and travels with the order into its completion. A completion that the
  data loop applies answers an order queued since the last bump; one with any
  other generation leaves the port alone and goes whole to the worker.
-/

namespace PwOss.Node

open PwOss.Backend PwOss.Sys PwOss.Transition

section Steps
variable {s s' : Sys} {r : Reading} {swap : DeviceSwap}

/-- A superseded completion is submitted for retirement, the port untouched. -/
theorem apply_stale (hd : s.data = .apply swap) (hg : swap.generation ≠ s.port.generation)
    (h : dataStep r s = some s') :
    s'.port = s.port ∧
      s'.data = .claim (.retireSwap swap) (.polled s.port.rebuildPending) := by
  simp only [dataStep, hd] at h
  cases h
  rw [Sys.pollRebuildCompletion, if_pos hg]
  exact ⟨rfl, rfl⟩

/-- `submit_or_defer` passes a command on whole: into the slot's BUSY window or
into the deferred cell. -/
theorem claim_whole {work : RebuildWork} {skip : Bool} (hd : s.data = .claim work (.polled skip))
    (h : dataStep r s = some s') :
    s'.port = s.port ∧
      (s'.data = .publish work (.polled skip) ∨ s'.deferred = some work) := by
  simp only [dataStep, hd] at h
  cases h
  split
  · exact ⟨rfl, .inl rfl⟩
  · exact ⟨rfl, .inr rfl⟩

theorem publish_whole {work : RebuildWork} {skip : Bool}
    (hd : s.data = .publish work (.polled skip)) (h : dataStep r s = some s') :
    s'.port = s.port ∧ s'.workValue = some work ∧ s'.workState = .full := by
  simp only [dataStep, hd] at h
  cases h
  exact ⟨rfl, rfl, rfl⟩

end Steps

/-- What a completion may do to the port. In every reachable state the published
generation is the port's own, which counts the bumps. A completion that changes
the port's device, config or pending flag answers an order queued since the last
bump, whatever the other threads did meanwhile. One with another generation
leaves the port as it was and is handed whole to the worker. -/
theorem completions_fenced :
    (∀ s, Reachable node s →
      s.sharedGeneration = s.port.generation ∧ s.port.generation = UInt64.ofNat s.bumps) ∧
    (∀ s s' r swap, Reachable node s → s.data = .apply swap → dataStep r s = some s' →
      (s'.port.dsp ≠ s.port.dsp ∨ s'.port.config ≠ s.port.config ∨
        s'.port.rebuildPending ≠ s.port.rebuildPending) →
      swap.generation = s.port.generation ∧ swap.queuedAt = s.bumps) ∧
    (∀ s s' r swap, s.data = .apply swap → swap.generation ≠ s.port.generation →
      dataStep r s = some s' →
      s'.port = s.port ∧
        s'.data = .claim (.retireSwap swap) (.polled s.port.rebuildPending)) ∧
    (∀ s s' r swap skip, s.data = .claim (.retireSwap swap) (.polled skip) →
      dataStep r s = some s' →
      s'.port = s.port ∧ (s'.data = .publish (.retireSwap swap) (.polled skip) ∨
        s'.deferred = some (.retireSwap swap))) ∧
    (∀ s s' r swap skip, s.data = .publish (.retireSwap swap) (.polled skip) →
      dataStep r s = some s' →
      s'.port = s.port ∧ s'.workValue = some (.retireSwap swap) ∧ s'.workState = .full) := by
  refine ⟨fun s h => ?_, fun s s' r swap h hd _ _ => ?_, fun s s' r swap hd hg h => ?_,
    fun s s' r swap skip hd h => claim_whole hd h,
    fun s s' r swap skip hd h => publish_whole hd h⟩
  · exact ⟨(slots h).life.fenced.published, (slots h).life.fenced.counted⟩
  · obtain ⟨hcur, -, -⟩ := (bookkeeping h).apply_current hd
    exact ⟨congrArg Claim.generation hcur, congrArg Claim.queuedAt hcur⟩
  · exact apply_stale hd hg h

end PwOss.Node
