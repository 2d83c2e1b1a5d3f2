import PwOss.Node.Sink.Process
import PwOss.Node.Source.Process
import PwOss.Oss.Boundary
import PwOss.Oss.Retunes

/-
  Retunes of a node's ring, from `node/sink/buffer.rs` and `node/source/buffer.rs`.

  A cycle's `retune_period` is one retune of its device, whose answer it passes on: it
  commits a period when the device did, and takes a request for the committed period
  as the end of a pending change. The counter of the device debounces the changes,
  except that it counts the requests for any other period as one: when a third period
  is asked for while a change is pending, that period is committed on the first cycle
  that asks for it.

  What is proved:
    * `retune_period` is one turn of the device and commits no period of its own
    * in every run of a device, whatever is called in between, the retunes are
      debounced exactly where no third period interrupts a pending change
-/

namespace PwOss.Node

open PwOss.Backend PwOss.Sys PwOss.Oss PwOss.Proc PwOss.Transition PwOss.Debounce

namespace Sink

/-- What a cycle's retune passes on of the device's turn `t`. -/
structure Turned (s : Sink) (period : Nat) (outcome : RetuneOutcome) (s' : Sink)
    (t : Turn Nat) : Prop where
  turn : ∃ request fill, ∀ log, (DspWriter.retunes s.kernel).step (s.dsp, log)
    (.retune request fill) = some (s'.dsp, t :: log)
  asked : t.asked = period
  committed : s'.setupPeriod = s.setupPeriod ∨
    (t.acted = true ∧ s'.setupPeriod = period ∧ t.held' = period)
  ordered : outcome ≠ .unchanged → t.acted = true
  canceled : t.asked = t.held →
    outcome = .unchanged ∧ s'.ext.retunePending = false ∧ s'.setupPeriod = s.setupPeriod

theorem retunePeriod_turned (c : Cycle) (period stride writeNow : Nat) (s : Sink) :
    Runs (retunePeriod c period stride writeNow) s fun outcome s' =>
      ∃ t, Turned s period outcome s' t := by
  unfold retunePeriod
  refine .get ?_
  dsimp only
  generalize hr : PlaybackBufferRequest.mk period _ _ _ _ _ = request
  generalize (if s.dsp.state = .running then c.retuneFill else 0) = fill
  have hasked : request.periodBytes = period := by rw [← hr]
  obtain ⟨answer, d, hd, hanswer⟩ := DspWriter.retuneBuffer_answers s.kernel s.dsp request fill
  have hstep (log : List (Turn Nat)) :
      (DspWriter.retunes s.kernel).step (s.dsp, log) (.retune request fill) =
        some (d, s.dsp.retuneTurn request answer d :: log) := by
    simp [DspWriter.retunes, hd]
  have hnoop (hnew : ¬ s.dsp.Settled request) : request.periodBytes ≠ s.dsp.buffer.periodBytes :=
    fun hheld => hnew (.inr (.inr (.inr hheld)))
  have hdevice : device (fun n => DspWriter.retuneBuffer n request fill) s =
      some (answer, { s with dsp := d }) := by
    simp [device, hd]
  refine .bind (.of_eq hdevice ?_)
  refine (?_ : Runs _ _ fun outcome s' =>
    Turned s period outcome s' (s.dsp.retuneTurn request answer d)).mono fun _ _ ht => ⟨_, ht⟩
  cases hanswer with
  | unchanged =>
    exact .modify (.pure ⟨⟨request, fill, hstep⟩, hasked, .inl rfl, fun hne => absurd rfl hne,
      fun _ => ⟨rfl, rfl, rfl⟩⟩)
  | pending hnew =>
    exact .modify (.pure ⟨⟨request, fill, hstep⟩, hasked, .inl rfl, fun hne => absurd rfl hne,
      fun hheld => absurd hheld (hnoop hnew)⟩)
  | applied hnew =>
    obtain ⟨hheld, hpos⟩ := DspWriter.retuneBuffer_commits s.kernel s.dsp request fill _ d hd _ rfl
    have hperiod : period ≠ 0 := hasked ▸ hpos
    dsimp only
    rw [show commitGeometry period _ = _ from if_neg hperiod]
    exact .modify (.modify (.pure ⟨⟨request, fill, hstep⟩, hasked,
      .inr ⟨rfl, rfl, hheld.trans hasked⟩, fun _ => rfl, fun h => absurd h (hnoop hnew)⟩))
  | refused hnew ha =>
    rcases ha with rfl | rfl
    · exact .modify (.modify (.pure ⟨⟨request, fill, hstep⟩, hasked, .inl rfl, fun _ => rfl,
        fun hheld => absurd hheld (hnoop hnew)⟩))
    · exact .modify (.pure ⟨⟨request, fill, hstep⟩, hasked, .inl rfl, fun _ => rfl,
        fun hheld => absurd hheld (hnoop hnew)⟩)

end Sink

namespace Source
variable {δ : Type}

/-- What a cycle's retune passes on of its device's answer. -/
structure Passed (ops : CaptureOperations δ) (period : Nat) (s : Source δ) (rebuild : Bool)
    (s' : Source δ) (answer : CaptureRetune) : Prop where
  call : ∃ request : CaptureBufferRequest, request.periodBytes = period ∧
    ops.retuneBuffer request s.ext.primed s.dsp = (answer, s'.dsp)
  committed : s'.setupPeriod = s.setupPeriod ∨ (answer.acts = true ∧ s'.setupPeriod = period)
  ordered : rebuild = true ∨ s'.ext.primed ≠ s.ext.primed → answer.acts = true
  canceled : answer = .unchanged →
    rebuild = false ∧ s'.ext.retunePending = false ∧ s'.setupPeriod = s.setupPeriod

theorem retunePeriod_passed (ops : CaptureOperations δ) (config : StreamConfig) (period : Nat)
    (s : Source δ) : ∃ answer, Passed ops period s (retunePeriod ops config period s).1
      (retunePeriod ops config period s).2 answer := by
  unfold retunePeriod
  dsimp only
  generalize hr : CaptureBufferRequest.mk period _ _ _ = request
  have hasked : request.periodBytes = period := by rw [← hr]
  generalize hd : ops.retuneBuffer request s.ext.primed s.dsp = retuned
  obtain ⟨answer, d⟩ := retuned
  refine ⟨answer, ?_⟩
  cases answer with
  | unchanged =>
    exact ⟨⟨request, hasked, hd⟩, .inl rfl, by simp [modifyExt], fun _ => ⟨rfl, rfl, rfl⟩⟩
  | pending => exact ⟨⟨request, hasked, hd⟩, .inl rfl, by simp [modifyExt], nofun⟩
  | applied geometry =>
    dsimp only
    unfold commitGeometry
    split
    · exact ⟨⟨request, hasked, hd⟩, .inl rfl, fun _ => rfl, nofun⟩
    · exact ⟨⟨request, hasked, hd⟩, .inr ⟨rfl, rfl⟩, fun _ => rfl, nofun⟩
  | reprime => exact ⟨⟨request, hasked, hd⟩, .inl rfl, fun _ => rfl, nofun⟩
  | rebuild => exact ⟨⟨request, hasked, hd⟩, .inl rfl, fun _ => rfl, nofun⟩

end Source

/-- **Retunes are debounced where no third period interrupts a pending change.**  In every
run of a playback device, and of a capture device, the retunes are debounced exactly
where every request for a change that meets a counted one asks for the period of the
request before it; and a request for the committed period cancels the pending change in
every run. A cycle's `retune_period` is one turn of its device and commits a period only
as the device did. -/
theorem retunes_debounced_iff_steady (output : Native) (input : CaptureNative) :
    (∀ s, Reachable (DspWriter.retunes output) s →
      (Debounced s.2 ↔ Steady s.2) ∧ Cancels s.2) ∧
    (∀ s, Reachable (Dsp.retunes input) s → (Debounced s.2 ↔ Steady s.2) ∧ Cancels s.2) ∧
    (∀ (c : Cycle) (period stride writeNow : Nat) (s : Sink),
      Runs (Sink.retunePeriod c period stride writeNow) s fun outcome s' =>
        ∃ t, Sink.Turned s period outcome s' t) ∧
    ∀ (δ : Type) (ops : CaptureOperations δ) (config : StreamConfig) (period : Nat)
      (s : Source δ), ∃ answer, Source.Passed ops period s (Source.retunePeriod ops config period s).1
        (Source.retunePeriod ops config period s).2 answer := by
  refine ⟨?_, ?_, Sink.retunePeriod_turned, fun δ => Source.retunePeriod_passed⟩
  · intro s h
    have htallied := DspWriter.retunes_tallied h
    exact ⟨htallied.debounced_iff_steady, htallied.cancels⟩
  · intro s h
    have htallied := Dsp.retunes_tallied h
    exact ⟨htallied.debounced_iff_steady, htallied.cancels⟩

/-- A cycle of `period` bytes in frames of 4 bytes. -/
def playbackCycle (period : Nat) : PlaybackBufferRequest := ⟨period, 0, 4, 48000, period, period⟩

def captureCycle (period : Nat) : CaptureBufferRequest := ⟨period, 0, 4, 48000⟩

/-- An input ring of 65536 bytes with nothing in it. -/
def emptyInput : CaptureNative where
  read _ := .ok []
  trigger _ := true
  poll _ := false
  inputSpace _ := (0, 1024, 65536)

/-- A device primed for 2048 bytes is asked for a period, then for another. -/
def askedTwice (first second : Nat) : List DspWriter.Call :=
  [.prime (playbackCycle 2048) (65536, 1024) 10, .retune (playbackCycle first) 2048,
    .retune (playbackCycle second) 2048]

def capturedTwice (first second : Nat) : List Dsp.Call :=
  [.prime (captureCycle 2048) 4096, .retune (captureCycle first) true,
    .retune (captureCycle second) true]

theorem askedTwice_logs :
    ((DspWriter.retunes willing).run (stereoDevice, []) (askedTwice 4096 4096)).map (·.2) =
      some [⟨4096, true, 2048, 4096, 1, 0, true⟩, ⟨4096, true, 2048, 2048, 0, 1, false⟩] ∧
    ((DspWriter.retunes willing).run (stereoDevice, []) (askedTwice 4096 8192)).map (·.2) =
      some [⟨8192, true, 2048, 8192, 1, 0, true⟩, ⟨4096, true, 2048, 2048, 0, 1, false⟩] := by
  decide +kernel

theorem retunes_debounced_iff_steady_askedTwice :
    ∃ s, (DspWriter.retunes willing).run (stereoDevice, []) (askedTwice 4096 4096) = some s ∧
      s.2.map (fun t => t.held') = [4096, 2048] ∧ Debounced s.2 ∧ Cancels s.2 := by
  obtain ⟨s, hs, hlog⟩ := Option.map_eq_some_iff.mp askedTwice_logs.1
  have hreach : Reachable (DspWriter.retunes willing) s :=
    via_of_run _ (.init ⟨rfl, rfl⟩) (fun _ _ _ => trivial) hs
  obtain ⟨hiff, hcancels⟩ := (retunes_debounced_iff_steady willing emptyInput).1 s hreach
  refine ⟨s, hs, by rw [hlog]; rfl, hiff.mpr ?_, hcancels⟩
  rw [hlog]
  simp [Steady]

/-- A period asked for once is committed at once, when another is pending. -/
theorem third_period_commits_at_once :
    (∃ s, Reachable (DspWriter.retunes willing) s ∧
      s.2.map (fun t => (t.asked, t.held')) = [(8192, 8192), (4096, 2048)] ∧ ¬ Debounced s.2) ∧
    ∃ s, Reachable (Dsp.retunes emptyInput) s ∧
      s.2.map (fun t => (t.asked, t.held')) = [(8192, 8192), (4096, 2048)] ∧
        ¬ Debounced s.2 := by
  have hglitch : ¬ Debounced [⟨8192, true, 2048, 8192, 1, 0, true⟩,
      ⟨4096, true, 2048, 2048, 0, 1, false⟩] := by
    intro h
    obtain ⟨-, u, hu, hasked⟩ := h.1 8192 (.inr ⟨rfl, rfl⟩)
    cases hu
    cases hasked
  constructor
  · obtain ⟨s, hs, hlog⟩ := Option.map_eq_some_iff.mp askedTwice_logs.2
    refine ⟨s, via_of_run _ (.init ⟨rfl, rfl⟩) (fun _ _ _ => trivial) hs, ?_, ?_⟩
    · rw [hlog]
      rfl
    · rw [hlog]
      exact hglitch
  · have hrun : ((Dsp.retunes emptyInput).run (Dsp.stereo16, []) (capturedTwice 4096 8192)).map
        (·.2) = some [⟨8192, true, 2048, 8192, 1, 0, true⟩,
          ⟨4096, true, 2048, 2048, 0, 1, false⟩] := by decide +kernel
    obtain ⟨s, hs, hlog⟩ := Option.map_eq_some_iff.mp hrun
    refine ⟨s, via_of_run _ (.init ⟨rfl, rfl⟩) (fun _ _ _ => trivial) hs, ?_, ?_⟩
    · rw [hlog]
      rfl
    · rw [hlog]
      exact hglitch

end PwOss.Node
