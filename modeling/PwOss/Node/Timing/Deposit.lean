import Mathlib.Data.List.Forall2
import PwOss.Node.Timing.Wake

/-
  Where a stream wake is kept: `deposit_stream_wake` of `node/timing.rs`, over any ports.

  Correspondence (Rust ↔ Lean):
    `deposit_stream_wake`                     ↔ `depositStreamWake`; for the one port of a node
                                                `DataState.depositStreamWake`
-/

namespace PwOss.Node.Timing

def Port.deposit (event : StreamWake) (port : Port) : Port :=
  { port with
    rebuildRequired := port.rebuildRequired || event.state.requiresRebuild
    streamWake := some event }

/-- Whether a port took the wake, and the ports: the first of the stream takes it. -/
def depositStreamWake (event : StreamWake) : List Port → Bool × List Port
  | [] => (false, [])
  | port :: ports =>
    if port.identity = event.stream then (true, port.deposit event :: ports)
    else ((depositStreamWake event ports).1, port :: (depositStreamWake event ports).2)

/-- A port is as before, or it is of the stream and has taken the wake. -/
def Deposits (event : StreamWake) (port port' : Port) : Prop :=
  port' = port ∨ (port.identity = event.stream ∧ port' = port.deposit event)

/-- Only a port with the token and the generation of the wake takes it. -/
theorem depositStreamWake_deposits (event : StreamWake) (ports : List Port) :
    List.Forall₂ (Deposits event) ports (depositStreamWake event ports).2 := by
  induction ports with
  | nil => exact .nil
  | cons port ports ih =>
    unfold depositStreamWake
    split
    · next hstream =>
      exact .cons (.inr ⟨hstream, rfl⟩) (List.forall₂_same.mpr fun _ _ => .inl rfl)
    · exact .cons (.inl rfl) ih

/-- A wake is taken exactly if a port is of its stream. -/
theorem depositStreamWake_taken (event : StreamWake) (ports : List Port) :
    (depositStreamWake event ports).1 = true ↔ ∃ port ∈ ports, port.identity = event.stream := by
  induction ports with
  | nil => exact iff_of_false Bool.false_ne_true (by rintro ⟨_, h, -⟩; cases h)
  | cons port ports ih =>
    unfold depositStreamWake
    split
    · next hstream => exact iff_of_true rfl ⟨port, List.mem_cons_self .., hstream⟩
    · next hstream =>
      refine ih.trans ⟨?_, ?_⟩
      · rintro ⟨port', hmem, hport'⟩
        exact ⟨port', List.mem_cons_of_mem _ hmem, hport'⟩
      · rintro ⟨port', hmem, hport'⟩
        rcases List.mem_cons.mp hmem with rfl | hmem
        · exact absurd hport' hstream
        · exact ⟨port', hmem, hport'⟩

/-- Where a port is of its stream, one of them has the wake. -/
theorem depositStreamWake_stores {event : StreamWake} {ports : List Port}
    (h : ∃ port ∈ ports, port.identity = event.stream) :
    ∃ port ∈ (depositStreamWake event ports).2,
      port.identity = event.stream ∧ port.streamWake = some event := by
  obtain ⟨port, hmem, hport⟩ := h
  induction ports with
  | nil => cases hmem
  | cons first ports ih =>
    unfold depositStreamWake
    split
    · next hstream => exact ⟨first.deposit event, List.mem_cons_self, hstream, rfl⟩
    · next hother =>
      have hrest : port ∈ ports := by
        rcases List.mem_cons.mp hmem with rfl | hrest
        · exact absurd hport hother
        · exact hrest
      obtain ⟨stored, hstored, hhas⟩ := ih hrest
      exact ⟨stored, List.mem_cons_of_mem _ hstored, hhas⟩

/-- The node of one port. -/
theorem depositStreamWake_singleton (event : StreamWake) (s : DataState) :
    s.depositStreamWake event =
      if (depositStreamWake event [s.port]).1 then
        (depositStreamWake event [s.port]).2.head?.map fun port => { s with port }
      else none := by
  unfold DataState.depositStreamWake depositStreamWake
  split
  · rfl
  · rfl

end PwOss.Node.Timing
