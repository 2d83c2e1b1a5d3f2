import PwOss.Node.Sink.Port

/-
  The sink's process cycle and its control operations, from `node/sink/mod.rs`
  and `node/sink/buffer.rs`.

  A cycle ends in a `Verdict`: the port was skipped, its buffer kept, or its
  buffer let go and why. `release_input`, which every letting-go arm ends in, runs
  after the verdict. Levels compare as integers: the source compares the exact
  `f64` images of `u32` counts.

  Correspondence (Rust ↔ Lean):
    `process_ports`                          ↔ `cycleVerdict`, `processPorts`
    `detect_underrun`, `recover_or_hold`,
    `resume_playback`, `retune_period`, …    ↔ the same names
    `follower_servo`, `level_correct`        ↔ `followerServo`, `levelCorrect`
    `on_start_loop`, `pause_playback`,
    `on_suspend_loop`, `on_buffers_swapped`  ↔ the same names
-/

namespace PwOss.Node

open PwOss.Backend PwOss.Sys PwOss.Oss PwOss.Proc

/-- Where a cycle's write result comes from. -/
inductive Delivery where
  /-- The device was written. -/
  | wrote (o : WriteOutcome)
  /-- The xrun hold consumed the buffer unwritten. -/
  | held
  /-- The overfill drain consumed the buffer unwritten. -/
  | skipped
  deriving DecidableEq

/-- The cycle's write result on `size` bytes. -/
def Delivery.outcome (size : Nat) : Delivery → WriteOutcome
  | .wrote o => o
  | .held | .skipped => .consumed size

/-- Why a cycle let its buffer go. -/
inductive Release where
  | freewheel
  /-- `poll_rebuild` skipped the port. -/
  | rebuilding
  | closed
  /-- `rebuild_after_start`. -/
  | replacing
  /-- The host offers nothing. -/
  | noData
  | noBlock
  /-- No byte of the buffer is left. -/
  | empty
  | noPosition
  /-- The retune ordered a rebuild. -/
  | retuneRebuild
  /-- The position gives no period. -/
  | noPeriod
  /-- The end of the cycle. -/
  | consumed (delivery : Delivery)
  deriving DecidableEq

inductive Verdict where
  /-- The port is not negotiated. -/
  | skip
  /-- HAVE_DATA stands: the host keeps the buffer for the next cycle. -/
  | retain
  | release (why : Release)
  deriving DecidableEq

namespace Sink

/-! ## Letting a buffer go -/

/-- `finish_input_sequence`: a ring reset does not forgive a latched replacement. -/
def finishInputSequence (eventEpochReset : Bool) : Proc Sink Unit := do
  let s ← get
  if eventEpochReset then resetStreamEpoch
  modify fun t => { t with rebuildRequired := t.rebuildRequired || s.rebuildRequired }
  modifyExt clearPendingWrite

/-- `end_input_sequence`. -/
def endInputSequence : Proc Sink Unit := do
  let eventEpochReset ← device DspWriter.endBufferSequence
  finishInputSequence eventEpochReset

/-- `release_input` and `consume_freewheel_input`: NEED_DATA. -/
def releaseInput : Proc Sink Unit := do
  endInputSequence
  modify fun s => { s with offer := none }

/-! ## The retained tail -/

/-- `pending_write_offset`. -/
def pendingWriteOffset (bufferId size : Nat) : Proc Sink Nat := do
  let s ← get
  if s.ext.pendingBuffer ≠ some bufferId ∨ size < s.ext.pendingOffset then
    modifyExt fun ext => { ext with pendingBuffer := some bufferId, pendingOffset := 0 }
    return 0
  else return s.ext.pendingOffset

/-- `prepare_pending_write`. -/
def preparePendingWrite (bufferId size : Nat) : Proc Sink Nat := do
  let s ← get
  if s.ext.pendingOffset ≠ 0 ∧
      (s.ext.pendingBuffer ≠ some bufferId ∨ size < s.ext.pendingOffset) then
    endInputSequence
  pendingWriteOffset bufferId size

/-- `retain_partial_write`. -/
def retainPartialWrite (requested : Nat) (write : WriteOutcome) : Proc Sink Bool := do
  if write.bytes < requested ∧ write.retryablePartial = true then
    modifyExt fun ext => { ext with pendingOffset := satAdd ext.pendingOffset write.bytes }
    return true
  else return false

/-! ## Fill corrections -/

/-- `predicted_next_fill`. -/
def predictedNextFill (fill writeNow period : Nat) : Nat := satAdd fill writeNow - period

/-- `detect_underrun`, on the fill the cycle measured. -/
def detectUnderrun (period : Nat) (c : Cycle) (nsec : Nat) : Proc Sink Unit := do
  let s ← get
  match s.config with
  | none => return ()
  | some config =>
    let drained := nsToBytes (s.curTimestamp - nsec) (strideRate config).2 (strideRate config).1
    if c.underrunFill < underrunLow s.ext.targetDelay s.deliveryQuantumBytes period drained ∧
        s.ext.xrunTimestamp = 0 then
      modifyExt fun ext => { ext with xrunTimestamp := max nsec 1 }

/-- `recover_or_hold`: re-prime and write, or consume the buffer. -/
def recoverOrHold (p : Position) (fill : Nat) (data : List Cell) : Proc Sink Delivery := do
  let s ← get
  if s.ext.xrunTimestamp < p.nsec ∧ p.xrunRecover = false then
    modifyExt fun ext =>
      { ext with
        xrunTimestamp := 0
        targetDelay :=
          min (max ext.targetDelay (min ext.minimumFill ext.targetGoal)) ext.targetGoal }
    let s ← get
    device fun n => DspWriter.writeSilence n (s.ext.targetDelay - fill)
    let o ← device fun n => DspWriter.write n data
    return .wrote o
  else return .held

/-- `resume_playback`: the first real buffer after Pause. -/
def resumePlayback (queued pausedUnderruns : Nat) (data : List Cell) : Proc Sink WriteOutcome := do
  let drained := queued = 0 ∧ 0 < pausedUnderruns
  if drained then
    modifyExt fun ext => { ext with targetDelay := ext.targetGoal }
    let s ← get
    device fun n => DspWriter.writeSilence n s.ext.targetDelay
  let o ← device fun n => DspWriter.write n data
  if ¬ drained ∧ 0 < o.bytes then
    modify fun s =>
      { s with
        ext :=
          { s.ext with
            targetDelay :=
              min s.ext.targetGoal (predictedNextFill queued o.bytes s.setupPeriod) } }
  if o.wouldBlock = false then
    modifyExt fun ext => { ext with resuming := false }
  return o

/-- `settle_target`. -/
def settleTarget (fill stride : Nat) : Proc Sink Unit := do
  let s ← get
  if s.ext.targetDelay < s.ext.targetGoal then
    let lead := max (s.setupPeriod / 4) stride
    modifyExt fun ext =>
      { ext with targetDelay := max ext.targetDelay (min (satAdd fill lead) ext.targetGoal) }

/-- `follower_servo`: whether the cycle's buffer is skipped. -/
def followerServo (odelay stride : Nat) : Proc Sink Bool := do
  settleTarget odelay stride
  let s ← get
  let err : Int := odelay - s.ext.targetDelay
  if (s.setupPeriod : Int) < err.natAbs then
    if err < 0 then
      device fun n => DspWriter.writeSilence n (s.ext.targetDelay - odelay)
      return false
    else return true
  else return false

/-- `level_correct`: whether the cycle's buffer is skipped. -/
def levelCorrect (odelay : Nat) : Proc Sink Bool := do
  let s ← get
  let err : Int := odelay - s.ext.targetDelay
  if err < -(s.setupPeriod : Int) then
    device fun n => DspWriter.writeSilence n (s.ext.targetDelay - odelay)
    return false
  else return decide ((s.setupPeriod : Int) < err)

/-! ## Geometry -/

/-- `RetuneOutcome`. -/
inductive RetuneOutcome where
  | unchanged | retuned | rebuild
  deriving DecidableEq

/-- `commit_geometry`. -/
def commitGeometry (period : Nat) (geometry : PlaybackBufferGeometry) : Proc Sink Unit :=
  if period = 0 then pure ()
  else
    modify fun s =>
      { s with
        setupPeriod := period
        deliveryQuantumBytes := geometry.quantumBytes
        ext :=
          { s.ext with
            bufferSize := geometry.capacityBytes
            targetDelay := geometry.targetFillBytes
            targetGoal := geometry.targetGoalBytes
            minimumFill := geometry.minimumFillBytes } }

/-- `retune_period`. -/
def retunePeriod (c : Cycle) (period stride writeNow : Nat) : Proc Sink RetuneOutcome := do
  let s ← get
  let currentFill := if s.dsp.state = .running then c.retuneFill else 0
  let request : PlaybackBufferRequest :=
    { periodBytes := period
      graphRate := 0
      stride
      deviceRate := (s.config.map fun config => (strideRate config).2).getD 0
      writeBytes := writeNow
      maximumWriteBytes := c.rateMatchBytes }
  match ← device fun n => DspWriter.retuneBuffer n request currentFill with
  | .unchanged =>
    modifyExt fun ext => { ext with retunePending := false }
    return .unchanged
  | .pending =>
    modifyExt fun ext => { ext with retunePending := true }
    return .unchanged
  | .applied geometry =>
    commitGeometry period geometry
    modifyExt fun ext => { ext with retunePending := false }
    return .retuned
  | .reprime =>
    modifyExt fun ext => { ext with retunePending := false, xrunTimestamp := 0 }
    resetStreamEpoch
    return .retuned
  | .rebuild =>
    modifyExt fun ext => { ext with retunePending := true }
    return .rebuild

/-- `prime_playback`. -/
def primePlayback (c : Cycle) (period : Nat) : Proc Sink Unit := do
  let s ← get
  match s.config with
  | none => return ()
  | some config =>
    if period = 0 then return ()
    else
      let request : PlaybackBufferRequest :=
        { periodBytes := period
          graphRate := (c.position.map Position.targetRateDenom).getD 0
          stride := (strideRate config).1
          deviceRate := (strideRate config).2
          writeBytes := period
          maximumWriteBytes := c.rateMatchBytes }
      let geometry ← device fun n => DspWriter.primeBuffer n request c.granted c.delayEighths
      commitGeometry period geometry

/-! ## The cycle -/

/-- The arm of a device that is not running: replay the buffer from its first byte
on a primed ring. `none`: the position gives no period. -/
def primeCycle (c : Cycle) (period : Nat) (data cycleData : List Cell) :
    Proc Sink (Option (List Cell)) := do
  let s ← get
  let replay := s.ext.pendingOffset ≠ 0
  if replay then modifyExt fun ext => { ext with pendingOffset := 0 }
  if period = 0 then return none
  else
    modifyExt fun ext => { ext with resuming := false }
    primePlayback c period
    return some (if replay then data else cycleData)

/-- The first buffer after Pause, unless the device owes a tail. -/
def resumeCycle (c : Cycle) (cycleData : List Cell) : Proc Sink (Option WriteOutcome) := do
  let s ← get
  if s.ext.pendingOffset = 0 then
    return some (← resumePlayback c.fill c.underruns cycleData)
  else return none

/-- A new buffer in steady state: correct the level, then write. -/
def writeNewBuffer (c : Cycle) (retuned matching : Bool) (stride : Nat) (data : List Cell) :
    Proc Sink Delivery := do
  let s ← get
  let corrects := retuned = false ∧ s.setupPeriod ≠ 0 ∧ s.ext.retunePending = false
  let skipWrite ←
    (if corrects ∧ matching = true then followerServo c.fill stride else pure false)
  let skipWrite ←
    (if corrects ∧ c.following = true ∧ matching = false then levelCorrect c.fill
      else pure skipWrite)
  if skipWrite then return .skipped
  else return .wrote (← device fun n => DspWriter.write n data)

/-- The cycle's write: the retained tail comes before any fill correction. -/
def writeCycle (c : Cycle) (p : Position) (retuned matching : Bool) (stride : Nat)
    (resumed : Option WriteOutcome) (data : List Cell) : Proc Sink Delivery := do
  let s ← get
  if s.ext.pendingOffset ≠ 0 then return .wrote (← device fun n => DspWriter.write n data)
  else
    match resumed with
    | some o => return .wrote o
    | none =>
      if s.ext.xrunTimestamp ≠ 0 then recoverOrHold p c.fill data
      else writeNewBuffer c retuned matching stride data

/-- The end of a cycle: keep the buffer, or let it go. -/
def finishCycle (size : Nat) (delivery : Delivery) : Proc Sink Verdict := do
  let o := delivery.outcome size
  let s ← get
  if s.ext.resuming = true ∧ s.ext.pendingOffset ≠ 0 ∧ o.wouldBlock = false then
    modifyExt fun ext => { ext with resuming := false }
  latchRebuildRequired o.status
  if o.wouldBlock then return .retain
  else if ← retainPartialWrite size o then return .retain
  else return .release (.consumed delivery)

/-- A cycle of a port with a buffer, from `prepare_pending_write` on. -/
def bufferCycle (c : Cycle) (config : StreamConfig) (b : HostBuffer) : Proc Sink Verdict := do
  let (stride, rate) := strideRate config
  let offset ← preparePendingWrite b.id b.data.length
  let cycleData := b.cells.drop offset
  if cycleData.length = 0 then return .release .empty
  else
    match c.position with
    | none => return .release .noPosition
    | some p =>
      let matching := c.following && !p.sameClock
      let period := devicePeriodBytes p.targetDuration rate p.targetRateDenom stride
      let retune ← retunePeriod c period stride cycleData.length
      let ordered ← (if retune = .rebuild then queueRebuild (c.queueFlushed .inPorts)
        else pure false)
      if ordered then return .release .retuneRebuild
      else
        let s ← get
        if s.dsp.state ≠ .running then
          match ← primeCycle c period b.cells cycleData with
          | none => return .release .noPeriod
          | some data =>
            let delivery ← writeCycle c p (decide (retune = .retuned)) matching stride none data
            finishCycle data.length delivery
        else
          let resumed ←
            (if s.ext.resuming = true then resumeCycle c cycleData
              else do
                if 0 < c.underruns then detectUnderrun period c p.nsec
                return none)
          let delivery ←
            writeCycle c p (decide (retune = .retuned)) matching stride resumed cycleData
          finishCycle cycleData.length delivery

/-- One port's cycle, up to `release_input`. -/
def cycleVerdict (c : Cycle) : Proc Sink Verdict := do
  if ← pollRebuild c then return .release .rebuilding
  else
    let s ← get
    match s.config with
    | none => return .skip
    | some config =>
      if s.buffers = false ∨ s.io = false then return .skip
      else if s.dsp.state = .closed then
        let _ ← queueRebuild (c.queueFlushed .inPorts)
        return .release .closed
      else if s.ext.rebuildAfterStart then
        let queued ← queueRebuild (c.queueFlushed .inPorts)
        if queued then modifyExt fun ext => { ext with rebuildAfterStart := false }
        return .release .replacing
      else
        match s.offer with
        | none => return .release .noData
        | some b => if c.block then bufferCycle c config b else return .release .noBlock

/-- `process_ports` up to `release_input`; a freewheeling graph leaves the device alone. -/
def portVerdict (c : Cycle) : Proc Sink Verdict := do
  modify fun s =>
    { s with oldTimestamp := s.curTimestamp, curTimestamp := c.now.getD s.curTimestamp }
  if (c.position.map Position.freewheel).getD false then return .release .freewheel
  else cycleVerdict c

/-- `process_ports`. -/
def processPorts (c : Cycle) : Proc Sink Verdict := do
  let verdict ← portVerdict c
  match verdict with
  | .release _ =>
    releaseInput
    return verdict
  | _ => return verdict

/-- `process_data_cycle`: nothing runs while the node is stopped. -/
def processDataCycle (c : Cycle) : Proc Sink Verdict := do
  let s ← get
  if s.started = false ∨ c.position = none then return .skip
  else
    queueRequiredRebuilds (c.queueFlushed .beforePorts)
    let verdict ← processPorts c
    queueRequiredRebuilds (c.queueFlushed .afterPorts)
    return verdict

/-! ## Control operations -/

/-- `reset_unpreserved_pause`: whether the driver reset the ring. -/
def resetUnpreservedPause : Proc Sink Bool := do
  if ← device DspWriter.suspend then
    finishInputSequence true
    return true
  else return false

/-- `pause_playback`. -/
def pausePlayback : Proc Sink Unit := do
  match ← device DspWriter.pause with
  | .ok .preserved => return ()
  | _ =>
    let reset ← resetUnpreservedPause
    if !reset then modifyExt fun ext => { ext with rebuildAfterStart := true }

/-- `on_start_loop`. -/
def onStartLoop : Proc Sink Unit := do
  let s ← get
  modifyExt fun ext => { ext with xrunTimestamp := 0 }
  let resumeRunning := s.started = false ∧ s.ext.rebuildAfterStart = false ∧
    s.dsp.state = .running ∧ s.setupPeriod ≠ 0
  let resuming ← (if resumeRunning then do
      match ← device DspWriter.resume with
      | .ok () => return true
      | .error _ =>
        -- the restored queue is unknown: reset in place, or replace the device
        if ← device DspWriter.suspend then resetStreamEpoch
        else modifyExt fun ext => { ext with rebuildAfterStart := true }
        return false
    else pure false)
  modify fun s =>
    { s with
      ext := { s.ext with resuming }
      curTimestamp := 0
      oldTimestamp := 0 }

/-- `on_suspend_loop`. -/
def onSuspendLoop : Proc Sink Unit :=
  modifyExt fun ext => clearPendingWrite { ext with resuming := false, rebuildAfterStart := false }

/-- `on_buffers_swapped`. -/
def onBuffersSwapped : Proc Sink Unit := do
  if ← device DspWriter.endBufferSequence then resetStreamEpoch
  modifyExt clearPendingWrite

end Sink

end PwOss.Node
