import PwOss.Node.Sink.Delivery
import PwOss.Oss.Shadow

/-
  Pause, Start and the buffer swaps of the sink, on the device's pause shadow.

  Only a node that is stopped resumes its device, and a stopped node writes
  nothing: from the SILENCE of a Pause to the SKIP of the next Start the ring takes
  no byte (`Sink.Quiet`). While the node runs its device may be written behind a
  shadow that was never restored; the next Pause then drops the pending SKIP first.

  What is proved:
    * a process cycle appends no SKIP to the device's log, and moves the view of the
      rebuilds as the data loop does (`processDataCycle_carried`, `processDataCycle_view`)
    * Pause, Start and the buffer swaps keep `Sink.Quiet`
    * in every run each SKIP has its own SILENCE, and the sink puts nothing between
-/

namespace PwOss.Node

open PwOss.Backend PwOss.Sys PwOss.Oss PwOss.Proc PwOss.Transition

/-- The device that a completion hands over was not paused yet. -/
def Completion.Unpaused : Option Completion → Prop
  | some (.installed _ dsp _ _) => dsp.Unpaused
  | some (.retireAndRetry _ placeholder) | some (.failed _ placeholder) => placeholder.Unpaused
  | _ => True

instance : (completion : Option Completion) → Decidable (Completion.Unpaused completion)
  | none | some .superseded | some .aborted => .isTrue trivial
  | some (.installed _ dsp _ _) => inferInstanceAs (Decidable dsp.Unpaused)
  | some (.retireAndRetry _ placeholder) | some (.failed _ placeholder) =>
    inferInstanceAs (Decidable placeholder.Unpaused)

namespace Sink

/-- The device's log pairs its calls, and nothing is written in between. -/
def LogPaired (s : Sink) : Prop := Paired s.kernel true s.dsp.ops

/-- A stopped node has written nothing behind the shadow it is to restore. -/
structure Quiet (s : Sink) : Prop where
  paired : s.LogPaired
  stopped : s.started = false → DspWriter.Shadowing s.kernel true s.dsp

/-! ## Steps beside the device -/

/-- The device is as before, and the node as running. -/
structure Untouched (s s' : Sink) : Prop where
  kernel : s'.kernel = s.kernel
  dsp : s'.dsp = s.dsp
  started : s'.started = s.started

theorem Untouched.chain : Chain Untouched where
  refl := fun _ => ⟨rfl, rfl, rfl⟩
  trans := fun h h' =>
    ⟨h'.kernel.trans h.kernel, h'.dsp.trans h.dsp, h'.started.trans h.started⟩

/-- A step beside the device moves the view of the rebuilds as the data loop does. -/
structure Served (s s' : Sink) : Prop extends Untouched s s' where
  view : RebuildView.Run (fun _ => False) s.rebuildView s'.rebuildView

theorem Served.chain : Chain Served where
  refl := fun s => ⟨Untouched.chain.refl s, .refl⟩
  trans := fun h h' =>
    ⟨Untouched.chain.trans h.toUntouched h'.toUntouched, h.view.trans h'.view⟩

theorem modifyExt_served (f : SinkPortExt → SinkPortExt) : Moves Served (modifyExt f) :=
  .update fun _ => ⟨⟨rfl, rfl, rfl⟩, .refl⟩

theorem resetStreamEpoch_served : Moves Served resetStreamEpoch :=
  .update fun _ => ⟨⟨rfl, rfl, rfl⟩, .single (.worked false)⟩

theorem finishInputSequence_served (eventEpochReset : Bool) :
    Moves Served (finishInputSequence eventEpochReset) := by
  have hrest (required : Bool) : Moves Served (do
      modify fun t : Sink => { t with rebuildRequired := t.rebuildRequired || required }
      modifyExt clearPendingWrite) :=
    .modify Served.chain (fun _ => ⟨⟨rfl, rfl, rfl⟩, .single (.worked _)⟩) (modifyExt_served _)
  unfold finishInputSequence
  refine .get fun s => ?_
  cases eventEpochReset with
  | true => exact .bind Served.chain resetStreamEpoch_served fun _ => hrest _
  | false => exact hrest _

theorem onDeviceSwapped_untouched : Moves Untouched onDeviceSwapped :=
  .bind Untouched.chain (.update fun _ => ⟨rfl, rfl, rfl⟩) fun _ =>
    .update fun _ => ⟨rfl, rfl, rfl⟩

theorem settleTarget_served (fill stride : Nat) : Moves Served (settleTarget fill stride) := by
  unfold settleTarget
  exact .get fun s => .ite (fun _ => modifyExt_served _) fun _ => .pure Served.chain _

theorem queueRebuild_served (flushed : Bool) : Moves Served (queueRebuild flushed) := by
  have huntouched : Moves Untouched (queueRebuild flushed) := by
    unfold queueRebuild
    refine .get fun s => .ite (fun _ => .pure Untouched.chain _) fun _ => ?_
    exact .modify Untouched.chain (fun _ => ⟨rfl, rfl, rfl⟩) (.pure Untouched.chain _)
  intro s queued t ht
  refine ⟨huntouched s queued t ht, ?_⟩
  rw [(queueRebuild_view s flushed).elim ht]
  exact RebuildView.queue_run _ _ _

theorem queueRequiredRebuilds_served (flushed : Bool) :
    Moves Served (queueRequiredRebuilds flushed) := by
  unfold queueRequiredRebuilds
  refine .get fun s => .ite (fun _ => ?_) fun _ => .pure Served.chain _
  exact .bind Served.chain (queueRebuild_served _) fun _ => .pure Served.chain _

/-! ## Steps without a SKIP -/

/-- The node is as running as before, and its log as paired. -/
structure Carried (s s' : Sink) : Prop where
  started : s'.started = s.started
  paired : s.LogPaired → s'.LogPaired

theorem Untouched.carried {s s' : Sink} (h : Untouched s s') : Carried s s' where
  started := h.started
  paired := fun hp => by
    unfold LogPaired
    rwa [h.kernel, h.dsp]

namespace Carried
variable {s s' : Sink}

theorem chain : Chain Carried where
  refl := fun s => (Untouched.chain.refl s).carried
  trans := fun h h' => ⟨h'.started.trans h.started, fun hp => h'.paired (h.paired hp)⟩

/-- Another device, that nobody paused yet. -/
theorem swapped (hu : s'.dsp.Unpaused) (hs : s'.started = s.started) : Carried s s' where
  started := hs
  paired := fun _ => hu.paired

end Carried

/-! ## The I/O of a cycle -/

/-- One step of a cycle's I/O: beside the device, or a call of it. -/
inductive IoStep : Sink → Sink → Prop
  | beside {s s' : Sink} (h : Served s s') : IoStep s s'
  | device {s : Sink} {dsp : DspWriter} (h : DspWriter.Unskipped s.dsp dsp) :
      IoStep s { s with dsp }

/-- Any number of such steps. -/
abbrev Driven : Sink → Sink → Prop := Relation.ReflTransGen IoStep

theorem Driven.chain : Chain Driven where
  refl := fun _ => .refl
  trans := fun h h' => h.trans h'

/-- The I/O of a cycle issues no SKIP. -/
theorem Driven.carried {s s' : Sink} (h : Driven s s') : Carried s s' := by
  induction h with
  | refl => exact Carried.chain.refl s
  | tail _ hstep ih =>
    refine Carried.chain.trans ih ?_
    cases hstep with
    | beside h => exact h.toUntouched.carried
    | device h => exact ⟨rfl, h.paired⟩

/-- The I/O of a cycle moves the view of the rebuilds without a completion. -/
theorem Driven.view {s s' : Sink} (h : Driven s s') :
    RebuildView.Run (fun _ => False) s.rebuildView s'.rebuildView := by
  induction h with
  | refl => exact .refl
  | tail _ hstep ih =>
    cases hstep with
    | beside h => exact ih.trans h.view
    | device h => exact ih

section Moves
variable {α : Type}

theorem device_moves {x : Native → Proc DspWriter α} (h : ∀ n, Moves DspWriter.Unskipped (x n)) :
    Moves Driven (device x) := by
  intro s a t ht
  obtain ⟨⟨b, d⟩, hd, heq⟩ := Option.map_eq_some_iff.mp ht
  cases heq
  exact .single (.device (h s.kernel s.dsp b d hd))

/-- A device call of the write path. -/
theorem fed_moves {x : Native → Proc DspWriter α} (h : ∀ n, Moves DspWriter.Fed (x n)) :
    Moves Driven (device x) :=
  device_moves fun n => (h n).mono fun _ _ hf => hf.unskipped

theorem silence_moves (count : Nat) :
    Moves Driven (device fun n => DspWriter.writeSilence n count) :=
  fed_moves fun n => DspWriter.writeSilence_moves n count

theorem write_moves (data : List Cell) : Moves Driven (device fun n => DspWriter.write n data) :=
  fed_moves fun n => DspWriter.write_moves n data

theorem pure_moves (a : α) : Moves Driven (pure a) := .pure Driven.chain a

/-- A step that leaves the device alone. -/
theorem driven {x : Proc Sink α} (h : Moves Served x) : Moves Driven x :=
  h.mono fun _ _ hs => .single (.beside hs)

/-- An update of the port's own fields, beside the bookkeeping of its rebuilds. -/
theorem port_moves {u : Sink → Sink} (h : ∀ s, Untouched s (u s))
    (hv : ∀ s, (u s).rebuildView = s.rebuildView) : Moves Driven (modify u) :=
  driven (.update fun s => ⟨h s, by rw [hv]⟩)

theorem modifyExt_moves (f : SinkPortExt → SinkPortExt) : Moves Driven (modifyExt f) :=
  driven (modifyExt_served f)

theorem andThen {β : Type} {x : Proc Sink β} {f : β → Proc Sink α} (hx : Moves Driven x)
    (hf : ∀ b, Moves Driven (f b)) : Moves Driven (x >>= f) :=
  .bind Driven.chain hx hf

theorem endBufferSequence_moves : Moves Driven (device DspWriter.endBufferSequence) :=
  device_moves fun n => (DspWriter.endBufferSequence_moves n).mono fun _ _ => DspWriter.Spared.log

theorem endInputSequence_moves : Moves Driven endInputSequence :=
  andThen endBufferSequence_moves fun _ =>
    driven (finishInputSequence_served _)

theorem releaseInput_moves : Moves Driven releaseInput :=
  andThen endInputSequence_moves fun _ => port_moves (fun _ => ⟨rfl, rfl, rfl⟩) fun _ => rfl

theorem pendingWriteOffset_moves (bufferId size : Nat) :
    Moves Driven (pendingWriteOffset bufferId size) := by
  unfold pendingWriteOffset
  exact .get fun s => .ite (fun _ => andThen (modifyExt_moves _) fun _ => pure_moves _)
    fun _ => pure_moves _

theorem preparePendingWrite_moves (bufferId size : Nat) :
    Moves Driven (preparePendingWrite bufferId size) := by
  unfold preparePendingWrite
  refine .get fun s => ?_
  dsimp only
  exact .ite (fun _ => andThen endInputSequence_moves fun _ => pendingWriteOffset_moves _ _)
    fun _ => pendingWriteOffset_moves _ _

theorem retainPartialWrite_moves (requested : Nat) (write : WriteOutcome) :
    Moves Driven (retainPartialWrite requested write) := by
  unfold retainPartialWrite
  exact .ite (fun _ => andThen (modifyExt_moves _) fun _ => pure_moves _) fun _ => pure_moves _

theorem detectUnderrun_moves (period : Nat) (c : Cycle) (nsec : Nat) :
    Moves Driven (detectUnderrun period c nsec) := by
  unfold detectUnderrun
  refine .get fun s => ?_
  cases s.config with
  | none => exact pure_moves _
  | some config => exact .ite (fun _ => modifyExt_moves _) fun _ => pure_moves _

theorem recoverOrHold_moves (p : Position) (fill : Nat) (data : List Cell) :
    Moves Driven (recoverOrHold p fill data) := by
  unfold recoverOrHold
  refine .get fun s => .ite (fun _ => ?_) fun _ => pure_moves _
  refine andThen (modifyExt_moves _) fun _ => .get fun s => ?_
  exact andThen (silence_moves _) fun _ => andThen (write_moves data) fun _ => pure_moves _

theorem resumePlayback_moves (queued pausedUnderruns : Nat) (data : List Cell) :
    Moves Driven (resumePlayback queued pausedUnderruns data) := by
  unfold resumePlayback
  dsimp only
  have hlast (c : Prop) [Decidable c] (f : SinkPortExt → SinkPortExt) (o : WriteOutcome) :
      Moves Driven (if c then modifyExt f >>= fun _ => pure o else pure o) :=
    .ite (fun _ => andThen (modifyExt_moves f) fun _ => pure_moves o) fun _ => pure_moves o
  have hwrite (drained : Prop) [Decidable drained] : Moves Driven (do
      let o ← device fun n => DspWriter.write n data
      if ¬ drained ∧ 0 < o.bytes then
        modify fun s =>
          { s with
            ext :=
              { s.ext with
                targetDelay :=
                  min s.ext.targetGoal (predictedNextFill queued o.bytes s.setupPeriod) } }
      if o.wouldBlock = false then
        modifyExt fun ext => { ext with resuming := false }
      return o) := by
    refine andThen (write_moves data) fun o => ?_
    dsimp only
    refine .ite (fun _ => andThen ?_ fun _ => hlast _ _ o) fun _ => hlast _ _ o
    exact port_moves (fun _ => ⟨rfl, rfl, rfl⟩) fun _ => rfl
  refine .ite (fun _ => andThen (modifyExt_moves _) fun _ => .get fun s => ?_) fun _ => hwrite _
  exact andThen (silence_moves _) fun _ => hwrite _

theorem followerServo_moves (odelay stride : Nat) :
    Moves Driven (followerServo odelay stride) := by
  unfold followerServo
  refine andThen (driven (settleTarget_served odelay stride)) fun _ => .get fun s => ?_
  refine .ite (fun _ => .ite (fun _ => ?_) fun _ => pure_moves _) fun _ => pure_moves _
  exact andThen (silence_moves _) fun _ => pure_moves _

theorem levelCorrect_moves (odelay : Nat) : Moves Driven (levelCorrect odelay) := by
  unfold levelCorrect
  exact .get fun s => .ite (fun _ => andThen (silence_moves _) fun _ => pure_moves _)
    fun _ => pure_moves _

theorem commitGeometry_moves (period : Nat) (geometry : PlaybackBufferGeometry) :
    Moves Driven (commitGeometry period geometry) := by
  unfold commitGeometry
  exact .ite (fun _ => pure_moves _)
    fun _ => port_moves (fun _ => ⟨rfl, rfl, rfl⟩) fun _ => rfl

theorem retunePeriod_moves (c : Cycle) (period stride writeNow : Nat) :
    Moves Driven (retunePeriod c period stride writeNow) := by
  unfold retunePeriod
  refine .get fun s => ?_
  refine andThen (device_moves fun n => DspWriter.retuneBuffer_moves n _ _) fun r => ?_
  cases r with
  | unchanged | pending | rebuild => exact andThen (modifyExt_moves _) fun _ => pure_moves _
  | applied geometry =>
    refine andThen (commitGeometry_moves period geometry) fun _ => ?_
    exact andThen (modifyExt_moves _) fun _ => pure_moves _
  | reprime =>
    refine andThen (modifyExt_moves _) fun _ => ?_
    exact andThen (driven resetStreamEpoch_served) fun _ => pure_moves _

theorem primePlayback_moves (c : Cycle) (period : Nat) :
    Moves Driven (primePlayback c period) := by
  unfold primePlayback
  refine .get fun s => ?_
  cases s.config with
  | none => exact pure_moves _
  | some config =>
    refine .ite (fun _ => pure_moves _) fun _ => andThen ?_ fun _ => commitGeometry_moves _ _
    exact device_moves fun n =>
      (DspWriter.primeBuffer_moves n _ _ _).mono fun _ _ => DspWriter.Logged.unskipped

theorem primeCycle_moves (c : Cycle) (period : Nat) (data cycleData : List Cell) :
    Moves Driven (primeCycle c period data cycleData) := by
  have hrest (replay : Prop) [Decidable replay] : Moves Driven (
      if period = 0 then pure none
      else do
        modifyExt fun ext => { ext with resuming := false }
        primePlayback c period
        return some (if replay then data else cycleData)) := by
    refine .ite (fun _ => pure_moves _) fun _ => andThen (modifyExt_moves _) fun _ => ?_
    exact andThen (primePlayback_moves c period) fun _ => pure_moves _
  unfold primeCycle
  refine .get fun s => ?_
  dsimp only
  exact .ite (fun _ => andThen (modifyExt_moves _) fun _ => hrest _) fun _ => hrest _

theorem resumeCycle_moves (c : Cycle) (cycleData : List Cell) :
    Moves Driven (resumeCycle c cycleData) := by
  unfold resumeCycle
  refine .get fun s => .ite (fun _ => ?_) fun _ => pure_moves _
  exact andThen (resumePlayback_moves _ _ _) fun _ => pure_moves _

theorem writeNewBuffer_moves (c : Cycle) (retuned matching : Bool) (stride : Nat)
    (data : List Cell) : Moves Driven (writeNewBuffer c retuned matching stride data) := by
  unfold writeNewBuffer
  refine .get fun s => ?_
  refine andThen (.ite (fun _ => followerServo_moves _ _) fun _ => pure_moves _) fun _ => ?_
  refine andThen (.ite (fun _ => levelCorrect_moves _) fun _ => pure_moves _) fun skip => ?_
  exact .ite (fun _ => pure_moves _) fun _ => andThen (write_moves data) fun _ => pure_moves _

theorem writeCycle_moves (c : Cycle) (p : Position) (retuned matching : Bool) (stride : Nat)
    (resumed : Option WriteOutcome) (data : List Cell) :
    Moves Driven (writeCycle c p retuned matching stride resumed data) := by
  unfold writeCycle
  refine .get fun s => .ite (fun _ => andThen (write_moves data) fun _ => pure_moves _) fun _ => ?_
  cases resumed with
  | some o => exact pure_moves _
  | none => exact .ite (fun _ => recoverOrHold_moves _ _ _) fun _ => writeNewBuffer_moves _ _ _ _ _

theorem finishCycle_moves (size : Nat) (delivery : Delivery) :
    Moves Driven (finishCycle size delivery) := by
  have hrest : Moves Driven (do
      latchRebuildRequired (delivery.outcome size).status
      if (delivery.outcome size).wouldBlock then return Verdict.retain
      else if ← retainPartialWrite size (delivery.outcome size) then return .retain
      else return .release (.consumed delivery)) := by
    refine andThen (driven (.update fun _ => ⟨⟨rfl, rfl, rfl⟩, .single (.worked _)⟩)) fun _ => ?_
    refine .ite (fun _ => pure_moves _) fun _ => andThen (retainPartialWrite_moves _ _) fun _ => ?_
    exact .ite (fun _ => pure_moves _) fun _ => pure_moves _
  unfold finishCycle
  refine .get fun s => ?_
  dsimp only
  exact .ite (fun _ => andThen (modifyExt_moves _) fun _ => hrest) fun _ => hrest

theorem bufferCycle_moves (c : Cycle) (config : StreamConfig) (b : HostBuffer) :
    Moves Driven (bufferCycle c config b) := by
  unfold bufferCycle
  dsimp only
  refine andThen (preparePendingWrite_moves _ _) fun offset => ?_
  refine .ite (fun _ => pure_moves _) fun _ => ?_
  cases c.position with
  | none => exact pure_moves _
  | some p =>
    refine andThen (retunePeriod_moves _ _ _ _) fun retune => ?_
    refine andThen (.ite (fun _ => driven (queueRebuild_served _)) fun _ => pure_moves _)
      fun ordered => ?_
    refine .ite (fun _ => pure_moves _) fun _ => .get fun s => .ite (fun _ => ?_) fun _ => ?_
    · refine andThen (primeCycle_moves _ _ _ _) fun primed => ?_
      cases primed with
      | none => exact pure_moves _
      | some data => exact andThen (writeCycle_moves _ _ _ _ _ _ _) fun _ => finishCycle_moves _ _
    · refine andThen (.ite (fun _ => resumeCycle_moves _ _) fun _ => ?_) fun resumed => ?_
      · exact .ite (fun _ => andThen (detectUnderrun_moves _ _ _) fun _ => pure_moves _)
          fun _ => pure_moves _
      · exact andThen (writeCycle_moves _ _ _ _ _ _ _) fun _ => finishCycle_moves _ _

end Moves

section Cycle
variable {R : Sink → Sink → Prop} (c : Cycle)

/-- A cycle keeps what its I/O and `poll_rebuild` keep. -/
theorem cycleVerdict_moves (hR : Chain R) (hio : ∀ s t, Driven s t → R s t)
    (hpoll : Moves R (pollRebuild c)) : Moves R (cycleVerdict c) := by
  have hqueue (why : Release) : Moves Driven (do
      let _ ← queueRebuild (c.queueFlushed .inPorts)
      return Verdict.release why) :=
    andThen (driven (queueRebuild_served _)) fun _ => pure_moves _
  unfold cycleVerdict
  refine .bind hR hpoll fun skip => .mono ?_ hio
  refine .ite (fun _ => pure_moves _) fun _ => .get fun s => ?_
  cases s.config with
  | none => exact pure_moves _
  | some config =>
    refine .ite (fun _ => pure_moves _) fun _ => .ite (fun _ => hqueue _) fun _ => .ite ?_ ?_
    · refine fun _ => andThen (driven (queueRebuild_served _)) fun queued => ?_
      exact .ite (fun _ => andThen (modifyExt_moves _) fun _ => pure_moves _) fun _ => pure_moves _
    · intro _
      cases s.offer with
      | none => exact pure_moves _
      | some b => exact .ite (fun _ => bufferCycle_moves c config b) fun _ => pure_moves _

theorem processPorts_moves (hR : Chain R) (hio : ∀ s t, Driven s t → R s t)
    (hpoll : Moves R (pollRebuild c)) : Moves R (processPorts c) := by
  have hverdict : Moves R (portVerdict c) := by
    unfold portVerdict
    refine .bind hR (.mono (port_moves (fun _ => ⟨rfl, rfl, rfl⟩) fun _ => rfl) hio) fun _ => ?_
    exact .ite (fun _ => .pure hR _) fun _ => cycleVerdict_moves c hR hio hpoll
  unfold processPorts
  refine .bind hR hverdict fun verdict => ?_
  cases verdict with
  | release why => exact (andThen releaseInput_moves fun _ => pure_moves _).mono hio
  | skip | retain => exact .pure hR _

theorem processDataCycle_moves (hR : Chain R) (hio : ∀ s t, Driven s t → R s t)
    (hpoll : Moves R (pollRebuild c)) : Moves R (processDataCycle c) := by
  have hqueue (site : RebuildSite) : Moves R (queueRequiredRebuilds (c.queueFlushed site)) :=
    (driven (queueRequiredRebuilds_served _)).mono hio
  unfold processDataCycle
  refine .get fun s => .ite (fun _ => .pure hR _) fun _ => .bind hR (hqueue _) fun _ => ?_
  refine .bind hR (processPorts_moves c hR hio hpoll) fun verdict => ?_
  exact .bind hR (hqueue _) fun _ => .pure hR _

theorem pollRebuild_carried (hu : Completion.Unpaused c.completion) :
    Moves Carried (pollRebuild c) := by
  have hswap (kernel : Native) {dsp : DspWriter} (hd : dsp.Unpaused) :
      Moves Carried (swapDevice kernel dsp) := .update fun _ => .swapped hd rfl
  have hbeside {α : Type} {x : Proc Sink α} (h : Moves Untouched x) : Moves Carried x :=
    h.mono fun _ _ => Untouched.carried
  have hpure {α : Type} (a : α) : Moves Carried (pure a) := .pure Carried.chain a
  unfold pollRebuild
  refine .get fun s => .ite (fun _ => hpure _) fun _ => ?_
  cases hc : c.completion with
  | none => exact hpure _
  | some completion =>
    rw [hc] at hu
    show Moves Carried (pollRebuildCompletion completion)
    cases completion with
    | superseded => exact .get fun s => hpure _
    | installed kernel dsp config quantumBytes =>
      refine .bind Carried.chain (hswap kernel hu) fun _ => ?_
      refine .bind Carried.chain (hbeside (.update fun _ => ⟨rfl, rfl, rfl⟩)) fun _ => ?_
      exact .bind Carried.chain (hbeside onDeviceSwapped_untouched) fun _ => hpure _
    | aborted =>
      exact .bind Carried.chain (hbeside (.update fun _ => ⟨rfl, rfl, rfl⟩)) fun _ => hpure _
    | retireAndRetry kernel placeholder =>
      refine .bind Carried.chain (hbeside (.update fun _ => ⟨rfl, rfl, rfl⟩)) fun _ => ?_
      exact .bind Carried.chain (hswap kernel hu) fun _ => hpure _
    | failed kernel placeholder =>
      refine .bind Carried.chain (hswap kernel hu) fun _ => ?_
      refine .bind Carried.chain (hbeside (.update fun _ => ⟨rfl, rfl, rfl⟩)) fun _ => ?_
      exact .bind Carried.chain (hbeside onDeviceSwapped_untouched) fun _ => hpure _

/-- A process cycle issues no SKIP. -/
theorem processDataCycle_carried (hu : Completion.Unpaused c.completion) :
    Moves Carried (processDataCycle c) :=
  processDataCycle_moves c Carried.chain (fun _ _ => Driven.carried) (pollRebuild_carried c hu)

/-- A process cycle moves the view of the rebuilds as the data loop does, on the completion
that it takes. -/
theorem processDataCycle_view :
    Moves (fun s t => RebuildView.Run (fun a => c.completion.map Completion.answer = some a)
      s.rebuildView t.rebuildView) (processDataCycle c) := by
  refine processDataCycle_moves c ⟨fun _ => .refl, fun h h' => h.trans h'⟩ ?_ ?_
  · intro s t h
    exact h.view.mono nofun
  · intro s skip t ht
    dsimp only
    rw [(pollRebuild_view s c).elim ht]
    exact RebuildView.poll_run _ _ fun a ha => ha

end Cycle

/-! ## Pause, Start and the buffer swaps -/

/-- The device may be resumed at once. -/
def Shadowed (s : Sink) : Prop := DspWriter.Shadowing s.kernel true s.dsp

section Control
variable {s s' : Sink} {α : Type}

theorem Untouched.shadowed (h : Untouched s s') (hs : s.Shadowed) : s'.Shadowed := by
  unfold Shadowed
  rwa [h.kernel, h.dsp]

/-- A stopped node stays stopped and restorable. -/
structure Restorable (s : Sink) : Prop where
  stopped : s.started = false
  shadowed : s.Shadowed

theorem Restorable.untouched (h : s.Restorable) (hu : Untouched s s') : s'.Restorable :=
  ⟨hu.started.trans h.stopped, hu.shadowed h.shadowed⟩

theorem Restorable.quiet (h : s.Restorable) : s.Quiet := ⟨h.shadowed.paired, fun _ => h.shadowed⟩

theorem Quiet.restorable (h : s.Quiet) (hs : s.started = false) : s.Restorable :=
  ⟨hs, h.stopped hs⟩

theorem Quiet.carried (h : s.Quiet) (hs : s.started = true) (hc : Carried s s') : s'.Quiet where
  paired := hc.paired h.paired
  stopped := fun hf => absurd hs (by rw [← hc.started, hf]; decide)

theorem Quiet.untouched (h : s.Quiet) (hu : Untouched s s') : s'.Quiet where
  paired := hu.carried.paired h.paired
  stopped := fun hf => hu.shadowed (h.stopped (hu.started ▸ hf))

theorem Quiet.swapped (hu : s'.dsp.Unpaused) : s'.Quiet :=
  ⟨hu.paired, fun _ => hu.shadowing⟩

theorem device_restorable {x : Native → Proc DspWriter α} (hs : s.started = false)
    (h : Ends (x s.kernel) s.dsp fun _ d => DspWriter.Shadowing s.kernel true d) :
    Ends (device x) s fun _ s' => s'.Restorable := by
  intro a t ht
  obtain ⟨⟨b, d⟩, hd, heq⟩ := Option.map_eq_some_iff.mp ht
  cases heq
  exact ⟨hs, h b d hd⟩

/-- Pause leaves a shadow that Start can restore, or none. -/
theorem pausePlayback_ends (hs : s.started = false) (h : s.LogPaired) :
    Ends pausePlayback s fun _ s' => s'.Restorable := by
  unfold pausePlayback
  refine .bind (device_restorable hs (DspWriter.pause_shadowing h).ends) fun r s₁ h₁ => ?_
  have hreset : Ends resetUnpreservedPause s₁ fun _ s' => s'.Restorable := by
    unfold resetUnpreservedPause
    refine .bind (device_restorable h₁.stopped (DspWriter.suspend_shadowing h₁.shadowed).ends) ?_
    intro ok s₂ h₂
    refine .ite (fun _ => ?_) fun _ => .pure h₂
    exact .bind (finishInputSequence_served true s₂) fun _ _ hu =>
      .pure (h₂.untouched hu.toUntouched)
  have hrest : Ends (do
      let reset ← resetUnpreservedPause
      if !reset then modifyExt fun ext => { ext with rebuildAfterStart := true }) s₁
      fun _ s' => s'.Restorable := by
    refine .bind hreset fun reset s₂ h₂ => .ite (fun _ => ?_) fun _ => .pure h₂
    exact (modifyExt_served _ s₂).mono fun _ _ hu => h₂.untouched hu.toUntouched
  split
  · exact .pure h₁
  · exact hrest

/-- Start restores the shadow before anything is written. -/
theorem onStartLoop_ends (h : s.Quiet) : Ends onStartLoop s fun _ s' => s'.LogPaired := by
  unfold onStartLoop
  refine .get (.bind (modifyExt_served _ s) fun _ s₁ hu => ?_)
  dsimp only
  have h₁ := h.untouched hu.toUntouched
  refine .bind (R := fun _ s' => s'.LogPaired) (.ite (fun hc => ?_) fun _ => .pure h₁.paired) ?_
  · have hr := h₁.restorable (hu.started.trans hc.1)
    refine .bind (device_restorable hr.stopped (DspWriter.resume_shadowing hr.shadowed).ends) ?_
    intro r s₂ h₂
    split
    · exact .pure h₂.shadowed.paired
    refine .bind (device_restorable h₂.stopped (DspWriter.suspend_shadowing h₂.shadowed).ends) ?_
    intro ok s₃ h₃
    refine .ite (fun _ => ?_) fun _ => ?_
    · exact .bind (resetStreamEpoch_served s₃) fun _ _ hu =>
        .pure (h₃.untouched hu.toUntouched).shadowed.paired
    · exact .bind (modifyExt_served _ s₃) fun _ _ hu =>
        .pure (h₃.untouched hu.toUntouched).shadowed.paired
  · intro r s₂ h₂
    exact Runs.ends (.of_eq rfl h₂)

/-- A buffer swap writes nothing while a shadow waits. -/
theorem onBuffersSwapped_ends (h : s.Quiet) : Ends onBuffersSwapped s fun _ s' => s'.Quiet := by
  have hrest (reset : Bool) : Moves Served (do
      if reset then resetStreamEpoch
      modifyExt clearPendingWrite) := by
    refine .ite (fun _ => ?_) fun _ => modifyExt_served _
    exact .bind Served.chain resetStreamEpoch_served fun _ => modifyExt_served _
  have hend : Ends (device DspWriter.endBufferSequence) s fun _ s' => s'.Quiet := by
    cases hs : s.started with
    | true =>
      exact (endBufferSequence_moves s).mono fun _ _ hd => h.carried hs hd.carried
    | false =>
      refine (device_restorable hs (DspWriter.endBufferSequence_shadowing ?_)).mono
        fun _ _ hr => hr.quiet
      exact h.stopped hs
  exact .bind hend fun reset s₁ h₁ =>
    (hrest reset s₁).mono fun _ _ hu => h₁.untouched hu.toUntouched

end Control

/-! ## Runs -/

/-- The devices that an event hands to the port were made for it. -/
def Event.HandsNew : Event → Prop
  | .process c => Completion.Unpaused c.completion
  | .suspend _ dsp | .retire _ dsp | .install _ dsp _ _ | .releaseFormat _ dsp => dsp.Unpaused
  | _ => True

instance : (e : Event) → Decidable e.HandsNew
  | .process c => inferInstanceAs (Decidable (Completion.Unpaused c.completion))
  | .suspend _ dsp | .retire _ dsp | .install _ dsp _ _ | .releaseFormat _ dsp =>
    inferInstanceAs (Decidable dsp.Unpaused)
  | .provide _ | .wake .. | .start | .pause | .fence | .releaseTakeover | .useBuffers _
  | .setIo _ => .isTrue trivial

/-- The sink on devices that `new` made and `configure` opened. -/
def playback : System Sink Event where
  init s := system.init s ∧ s.dsp.Unpaused
  step s e := if e.HandsNew then step s e else none

/-- Every event of a sink keeps what a stopped node owes its device. -/
theorem body_quiet {s : Sink} {e : Event} (h : s.Quiet) (he : e.HandsNew) :
    Ends e.body s fun _ s' => s'.Quiet := by
  cases e with
  | provide b => exact Runs.ends (.of_eq rfl (h.untouched ⟨rfl, rfl, rfl⟩))
  | process c =>
    show Ends (processDataCycle c >>= fun _ => pure ()) s _
    refine .bind (R := fun _ s' => s'.Quiet) ?_ fun _ _ h' => .pure h'
    cases hs : s.started with
    | true => exact (processDataCycle_carried c he s).mono fun _ _ => h.carried hs
    | false =>
      -- a stopped node processes nothing
      unfold processDataCycle
      exact .get (.ite (fun _ => .pure h) fun hc => absurd (.inl hs) hc)
  | wake required flushed fill =>
    refine Ends.mono ?_ fun _ _ hu => h.untouched (Served.toUntouched hu)
    refine Moves.modify Served.chain (u := fun s : Sink =>
      { s with rebuildRequired := s.rebuildRequired || required })
      (fun _ => ⟨⟨rfl, rfl, rfl⟩, .single (.worked _)⟩) ?_ s
    refine .bind Served.chain (queueRequiredRebuilds_served flushed) fun _ => .get fun s => ?_
    cases fill with
    | none => exact .pure Served.chain _
    | some fill => exact settleTarget_served _ _
  | start =>
    refine .bind (onStartLoop_ends h) fun _ s₁ h₁ => ?_
    exact Runs.ends (.of_eq rfl ⟨h₁, nofun⟩)
  | pause =>
    refine .get (.modify (.ite (fun _ => ?_) fun hs => ?_))
    · refine .bind (pausePlayback_ends rfl h.paired) fun _ s₁ h₁ => ?_
      exact Runs.ends (.of_eq rfl (h₁.quiet.untouched ⟨rfl, rfl, rfl⟩))
    · have hs : s.started = false := by simpa using hs
      exact Runs.ends (.of_eq rfl (h.untouched ⟨rfl, rfl, hs.symm⟩))
  | suspend kernel placeholder => exact Runs.ends (.of_eq rfl (.swapped he))
  | fence => exact Runs.ends (.of_eq rfl (h.untouched ⟨rfl, rfl, rfl⟩))
  | retire kernel placeholder => exact Runs.ends (.of_eq rfl (.swapped he))
  | install kernel dsp config quantumBytes => exact Runs.ends (.of_eq rfl (.swapped he))
  | releaseFormat kernel placeholder => exact Runs.ends (.of_eq rfl (.swapped he))
  | releaseTakeover => exact Runs.ends (.of_eq rfl (h.untouched ⟨rfl, rfl, rfl⟩))
  | useBuffers nonempty =>
    have h₀ : Quiet { s with buffers := nonempty } := h.untouched ⟨rfl, rfl, rfl⟩
    refine .modify (.bind (onBuffersSwapped_ends h₀) fun _ s₁ h₁ => ?_)
    exact Runs.ends (.of_eq rfl (h₁.untouched ⟨rfl, rfl, rfl⟩))
  | setIo set => exact Runs.ends (.of_eq rfl (h.untouched ⟨rfl, rfl, rfl⟩))

/-- A stopped node has written nothing behind its shadow, in every run. -/
theorem playback_quiet {s : Sink} (h : Reachable playback s) : s.Quiet := by
  refine h.invariant ⟨fun s hs => .swapped hs.2, ?_⟩
  intro s e s' hq _ hs
  have hs : (if e.HandsNew then step s e else none) = some s' := hs
  by_cases he : e.HandsNew
  · rw [if_pos he] at hs
    unfold step at hs
    split at hs
    · obtain ⟨⟨u, t⟩, ht, rfl⟩ := Option.map_eq_some_iff.mp hs
      exact body_quiet hq he u t ht
    · cases hs
  · rw [if_neg he] at hs
    cases hs

end Sink

/-- SILENCE and SKIP are paired. In every run of a playback device, whatever its calls and
the kernel's answers, each SKIP has the latest SILENCE standing: it succeeded, a queue
reading after it was not empty, and no SKIP, ring reset or close came since; and no other
SKIP has the same one. In every run of the sink, moreover, nothing is written to the
device between the two. -/
theorem silence_skip_paired {n : Native} {w : DspWriter} {s : Sink}
    (hw : Reachable (DspWriter.playback n) w) (hs : Reachable Sink.playback s) :
    (∀ k op, w.ops[k]? = some op → op.isSkip = true → ∃ i, Stands n false w.ops i k ∧
      ∀ k' op', w.ops[k']? = some op' → op'.isSkip = true → Stands n false w.ops i k' →
        k' = k) ∧
    ∀ k op, s.dsp.ops[k]? = some op → op.isSkip = true →
      ∃ i, Stands s.kernel true s.dsp.ops i k := by
  refine ⟨fun k op hk hskip => ?_, (Sink.playback_quiet hs).paired⟩
  obtain ⟨i, hi⟩ := (DspWriter.playback_shadowing hw).paired k op hk hskip
  refine ⟨i, hi, ?_⟩
  intro k' op' hk' hskip' hi'
  exact hi.unique hi' hk hskip hk' hskip'

/-- A kernel with one frame queued. -/
def frameQueued : Native := { frameTaker with odelay := fun _ => .ok 4 }

/-- Two pauses: the first is resumed, the second suspended. -/
def twoPauses : List DspWriter.Call :=
  [.write (frameBuffer 0).cells, .pause, .resume, .pause, .suspend, .resume]

/-- The node plays a frame, pauses and starts again. -/
def pausedCycle : List Sink.Event :=
  [.install frameQueued stereoDevice (some ⟨1, 48000, 2, [], 0, 4⟩) 0, .useBuffers true,
    .setIo true, .start, .provide twoFrames, .process shortCycle, .pause, .start]

/-- Each of the runs issues one SKIP. -/
theorem silence_skip_paired_twoPauses :
    ∃ (w : DspWriter) (s : Sink),
      w.ops.countP NativeOp.isSkip = 1 ∧ s.dsp.ops.countP NativeOp.isSkip = 1 ∧
      (∀ k op, w.ops[k]? = some op → op.isSkip = true → ∃ i,
        Stands frameQueued false w.ops i k ∧
          ∀ k' op', w.ops[k']? = some op' → op'.isSkip = true →
            Stands frameQueued false w.ops i k' → k' = k) ∧
      ∀ k op, s.dsp.ops[k]? = some op → op.isSkip = true →
        ∃ i, Stands s.kernel true s.dsp.ops i k := by
  have hcalls : ((DspWriter.playback frameQueued).run stereoDevice twoPauses).map
      (fun w => w.ops.countP NativeOp.isSkip) = some 1 := by
    decide +kernel
  have hevents : (Sink.playback.run idleSink pausedCycle).map
      (fun s => s.dsp.ops.countP NativeOp.isSkip) = some 1 := by
    decide +kernel
  obtain ⟨w, hw, hskips⟩ := Option.map_eq_some_iff.mp hcalls
  obtain ⟨s, hs, hskips'⟩ := Option.map_eq_some_iff.mp hevents
  have hdevice : stereoDevice.Unpaused := by decide
  have hidle : Sink.playback.init idleSink :=
    ⟨⟨rfl, rfl, by decide, rfl, rfl, rfl, rfl, rfl, rfl, rfl, rfl⟩, by decide⟩
  exact ⟨w, s, hskips, hskips', silence_skip_paired
    (via_of_run twoPauses (.init hdevice) (fun _ _ _ => trivial) hw)
    (via_of_run pausedCycle (.init hidle) (fun _ _ _ => trivial) hs)⟩

end PwOss.Node
