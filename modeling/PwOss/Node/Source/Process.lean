import PwOss.Node.Source.Port

/-
  The source's process cycle and its control operations, from `node/source/mod.rs`,
  `node/source/buffer.rs`, `node/commands.rs` and `node/rebuild.rs`.

  Correspondence (Rust ↔ Lean):
    `process_ports`                           ↔ `processPorts`, with `retuneCycle`,
                                                `serveBlock` and `fillBlock`
    `process_data_cycle`                      ↔ `processDataCycle`
    `commit_geometry`, `retune_period`,
      `prime_capture`                         ↔ the same names
    `bounded_read`, `recover_overrun`,
      `fill_silence`, `measured_fill`, …      ↔ the same names
    `send_command`, with `on_start_loop` and
      `take_suspended_device`                 ↔ `startLoop`, `pauseLoop`, `suspendLoop`
    `install_device`, `release_format`        ↔ `takeTakeover`, `retireDevice`, `installSwap`,
                                                `releaseFormat`, `releaseTakeover`
    `port_use_buffers`                        ↔ `portUseBuffers`
-/

namespace PwOss.Node.Source

open PwOss.Backend

variable {δ : Type} (ops : CaptureOperations δ)

/-! ## Geometry -/

def commitGeometry (period : Nat) (geometry : CaptureBufferGeometry) (s : Source δ) : Source δ :=
  if period = 0 then s
  else
    { s with
      setupPeriod := period
      deliveryQuantumBytes := geometry.quantumBytes
      ext :=
        { s.ext with
          ringSize := geometry.capacityBytes
          targetFill := geometry.targetFillBytes
          readPeak := geometry.peakFillBytes } }

/-- `retune_period`: whether the device has to be rebuilt. -/
def retunePeriod (config : StreamConfig) (period : Nat) (s : Source δ) : Bool × Source δ :=
  let request : CaptureBufferRequest :=
    { periodBytes := period
      graphRate := 0
      stride := (strideRate config).1
      deviceRate := (strideRate config).2 }
  let retuned := ops.retuneBuffer request s.ext.primed s.dsp
  let s := { s with dsp := retuned.2 }
  match retuned.1 with
  | .unchanged => (false, s.modifyExt fun ext => { ext with retunePending := false })
  | .pending => (false, s.modifyExt fun ext => { ext with retunePending := true })
  | .applied geometry =>
    (false,
      (s.modifyExt fun ext => { ext with retunePending := false }).commitGeometry period geometry)
  | .reprime =>
    (false,
      (s.modifyExt fun ext =>
        { ext with retunePending := false, primed := false }).resetStreamEpoch)
  | .rebuild => (true, s.modifyExt fun ext => { ext with retunePending := true })

/-! ## The block of a cycle -/

/-- How a cycle filled its block: `none` is `EMPTY_CYCLE`. -/
structure Filled (δ : Type) (maxsize : Nat) where
  state : Source δ
  data : Scratch maxsize
  bytes : Option Nat
  preReadFill : Option Nat

/-- `fill_silence`: silence over `len` bytes from `offset` on. -/
def fillSilence {maxsize : Nat} (s : Source δ) (data : Scratch maxsize) (offset len : Nat) :
    Scratch maxsize :=
  let pattern := (s.config.map SilencePattern.forConfig).getD (.zero 1)
  data.write offset (pattern.fillAt 0 len)

def measuredFill (c : Cycle δ) (s : Source δ) : Nat :=
  match c.wakeFill with
  | some fill => min fill u32Max
  | none => ops.queuedBytes s.dsp

/-- `measured_overruns`, with `take_wake_xruns` and `take_polled_xruns`. -/
def measuredOverruns (c : Cycle δ) (s : Source δ) : XrunDelta × Source δ :=
  match c.wakeXruns with
  | some observation =>
    let observed := s.xrunTracker.observe observation
    (observed.1, { s with xrunTracker := observed.2 })
  | none =>
    let polled := ops.overruns s.dsp
    let observed := s.xrunTracker.observe polled.1
    (observed.1, { s with dsp := polled.2, xrunTracker := observed.2 })

/-- `prime_capture`, of a configured port. -/
def primeCapture {maxsize : Nat} (config : StreamConfig) (period graphRate : Nat)
    (data : Scratch maxsize) (s : Source δ) : Filled δ maxsize :=
  let request : CaptureBufferRequest :=
    { periodBytes := period
      graphRate
      stride := (strideRate config).1
      deviceRate := (strideRate config).2 }
  let primed := ops.primeBuffer request data.1 s.dsp
  let geometry := primed.1.1
  let data : Scratch maxsize := ⟨primed.1.2.1, primed.1.2.2.trans data.2⟩
  let s : Source δ :=
    { s with
      dsp := primed.2
      rebuildRequired := s.rebuildRequired || geometry.deviceLost
      ext := { s.ext with primed := true } }
  let s := s.commitGeometry period geometry
  let s := { s with dsp := ops.clearOverrunObservation s.dsp }
  let len := min period maxsize
  ⟨s, fillSilence s data 0 len, some len, none⟩

/-- The read of `bounded_read`: the block, the bytes the device reports and the state. -/
def readBlock {maxsize : Nat} (ispace : Nat) (data : Scratch maxsize) (s : Source δ) :
    Scratch maxsize × Nat × Source δ :=
  if 0 < ispace then
    let read := ops.read ispace s.dsp
    (data.write 0 read.1.stored, read.1.bytes,
      ({ s with dsp := read.2 } : Source δ).latchRebuildRequired read.1.status)
  else (data, 0, s)

/-- The bytes that `bounded_read` wants of a queue. -/
def wantBytes (queued : Nat) (s : Source δ) : Nat :=
  if s.setupPeriod ≠ 0 then satAdd s.setupPeriod (queued - s.ext.readPeak) else queued

/-- The bytes that it asks the device for: whole frames that are queued and have room. -/
def readSpace (queued stride maxsize : Nat) (s : Source δ) : Nat :=
  min (min (s.wantBytes queued) queued) maxsize / stride * stride

/-- `bounded_read`: one period, and the backlog beyond the healthy peak. -/
def boundedRead {maxsize : Nat} (queued stride : Nat) (data : Scratch maxsize) (s : Source δ) :
    Filled δ maxsize :=
  let (data, nread, s) := readBlock ops (s.readSpace queued stride maxsize) data s
  let period := min s.setupPeriod maxsize
  let out := if 0 < period then max nread period else nread
  let data := if nread < out then fillSilence s data nread (out - nread) else data
  ⟨s, data, some out, some queued⟩

/-- `recover_overrun`. -/
def recoverOverrun (count : Nat) (preReadFill : Option Nat) (s : Source δ) : Source δ :=
  let recovered := ops.recoverOverrun count preReadFill s.dsp
  let s := { s with dsp := recovered.2 }
  match recovered.1 with
  | none => s
  | some resetEpoch =>
    -- A latched loss outlives the reset.
    let s := if resetEpoch then
        { s.resetStreamEpoch with rebuildRequired := s.rebuildRequired }
      else s
    s.modifyExt fun ext => { ext with primed := false }

/-- Freewheel silence, priming, the cycle before a position, or the bounded read. -/
def fillBlock {maxsize : Nat} (c : Cycle δ) (config : StreamConfig) (freewheel : Bool)
    (period graphRate : Nat) (data : Scratch maxsize) (s : Source δ) : Filled δ maxsize :=
  if freewheel = true ∧ 0 < period then
    let len := min period maxsize
    ⟨s, fillSilence s data 0 len, some len, none⟩
  else if s.ext.primed = false ∧ 0 < period then primeCapture ops config period graphRate data s
  else if ops.isRunning s.dsp = false then ⟨s, data, none, none⟩
  else boundedRead ops (measuredFill ops c s) (strideRate config).1 data s

/-- The overruns of a cycle that ran on the device. -/
def settleOverruns (c : Cycle δ) (freewheel : Bool) (preReadFill : Option Nat) (s : Source δ) :
    Source δ :=
  let (overruns, s) : XrunDelta × Source δ :=
    if ops.isRunning s.dsp = true ∧ freewheel = false then measuredOverruns ops c s else ({}, s)
  if 0 < overruns.events then recoverOverrun ops overruns.events preReadFill s
  else { s with dsp := ops.clearOverrunObservation s.dsp }

/-! ## The cycle -/

/-- The host gets the block of `id`, filled with `size` bytes. -/
def publishBlock (id : UInt32) (block : HostBlock) (size stride : Nat) (s : Source δ) : Source δ :=
  { s.setBlock id (block.publish size stride) with
    io := some ⟨.haveData, id⟩
    held := (id, block.publish size stride) :: s.held }

/-- The graph rate and the period in device bytes, zero without a target rate. -/
def cyclePeriod (position : Position) (config : StreamConfig) : Nat × Nat :=
  if 0 < position.targetRateDenom then
    (position.targetRateDenom,
      devicePeriodBytes position.targetDuration (strideRate config).2 position.targetRateDenom
        (strideRate config).1)
  else (0, 0)

/-- The retune of a cycle: whether it ordered a rebuild, which ends the cycle. -/
def retuneCycle (c : Cycle δ) (config : StreamConfig) (period : Nat) (s : Source δ) :
    Bool × Source δ :=
  let (rebuild, s) := retunePeriod ops config period s
  if rebuild then s.queueRebuild (c.queueFlushed .inPorts) else (false, s)

/-- The cycle fills the block of `id` and gives it to the host, or leaves it in the area. -/
def serveBlock (c : Cycle δ) (position : Position) (config : StreamConfig) (id : UInt32)
    (block : HostBlock) (s : Source δ) : Source δ :=
  -- The realtime ring overflowed by design while freewheeling.
  let s := s.modifyExt fun ext =>
    { ext with
      primed := ext.primed && !(ext.wasFreewheeling && !position.freewheel)
      wasFreewheeling := position.freewheel }
  let filled := fillBlock ops c config position.freewheel (cyclePeriod position config).2
    (cyclePeriod position config).1 block.scratch s
  let block := block.store filled.data
  let s := settleOverruns ops c position.freewheel filled.preReadFill filled.state
  match filled.bytes with
  | some size => s.publishBlock id block size (strideRate config).1
  | none => { s.setBlock id block with io := some ⟨.ok, id⟩ }

/-- The cycle once its block is there. -/
def cycleBlock (c : Cycle δ) (position : Position) (config : StreamConfig) (id : UInt32)
    (block : HostBlock) (s : Source δ) : Source δ :=
  let (pending, s) := retuneCycle ops c config (cyclePeriod position config).2 s
  if pending then s else serveBlock ops c position config id block s

/-- `process_ports`, of the one port. -/
def processPorts (c : Cycle δ) (position : Position) (s : Source δ) : Source δ :=
  let (skip, s) := s.pollRebuild c
  if skip then s
  else
    match s.config, s.io with
    | some config, some area =>
      if s.buffers = [] then s
      else if ops.isClosed s.dsp then (s.queueRebuild (c.queueFlushed .inPorts)).2
      else if area.status ≠ .ok ∧ area.status ≠ .needData then s
      else
        let (id, s) := s.cycleBufferId area
        match s.validDataBlock id with
        | none => s
        | some block => cycleBlock ops c position config id block (s.takeBlock id)
    | _, _ => s

/-- `process_data_cycle`. -/
def processDataCycle (c : Cycle δ) (s : Source δ) : Source δ :=
  match c.position with
  | none => s
  | some position =>
    if s.started = false then s
    else
      let s := s.queueRequiredRebuilds (c.queueFlushed .beforePorts)
      let s := processPorts ops c position s
      s.queueRequiredRebuilds (c.queueFlushed .afterPorts)

/-! ## Control operations -/

/-- `send_command(Start)`, on the data loop: `on_start_loop` of a negotiated port. -/
def startLoop (s : Source δ) : Source δ :=
  if s.config = none ∨ s.buffers = [] then s
  else { s with started := true, ext := { s.ext with primed := false } }

/-- `send_command(Pause)`, on the data loop. -/
def pauseLoop (s : Source δ) : Source δ :=
  { s with started := false, takeover := true, rebuildPending := true }

/-- `send_command(Suspend)`, on the data loop: `on_suspend_loop`, `take_suspended_device`
and the swap of the device. -/
def suspendLoop (placeholder : δ) (s : Source δ) : Source δ :=
  onDeviceSwapped
    { s.resetStreamEpoch with
      started := false
      takeover := true
      dsp := placeholder
      buffers := []
      config := none
      setupPeriod := 0
      deliveryQuantumBytes := 0
      rebuildPending := true }

/-- `release_format`, on the data loop. -/
def releaseFormat (placeholder : δ) (s : Source δ) : Source δ :=
  { s.resetStreamEpoch with
    takeover := true
    dsp := placeholder
    buffers := []
    config := none
    rebuildPending := true }

/-- `install_device` takes the port over. -/
def takeTakeover (s : Source δ) : Source δ := { s with takeover := true, rebuildPending := true }

/-- `install_device` retires a busy device before it opens again. -/
def retireDevice (closed : δ) (s : Source δ) : Source δ := { s with dsp := closed }

/-- The final swap of `install_device`; without a configuration it failed. -/
def installSwap (dsp : δ) (config : Option StreamConfig) (quantumBytes : Nat) (s : Source δ) :
    Source δ :=
  { (onDeviceSwapped
      { s with dsp, config, deliveryQuantumBytes := quantumBytes, rebuildPending := false }) with
    takeover := false }

/-- `release_rebuild_takeover`. -/
def releaseTakeover (s : Source δ) : Source δ :=
  { s with takeover := false, rebuildPending := false }

/-- `port_use_buffers`: another set of buffers, of which the host holds none. -/
def portUseBuffers (blocks : List HostBlock) (s : Source δ) : Source δ :=
  onBuffersSwapped { s with buffers := blocks, used := [], held := [] }

end PwOss.Node.Source
