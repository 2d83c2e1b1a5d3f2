import PwOss.Lib.Proc
import PwOss.Sys.Errno
import PwOss.Oss.Buffer

/-
  The playback device `DspWriter` of `freebsd_oss/dsp.rs`.

  The kernel answers each native call through a `Native`, by the number of calls
  before it: any accepted count, any errno, any refusal. What the device was
  given is kept in two ghost fields. `ring` holds the bytes it accepted since its
  ring was last reset, each with the host byte it came from; `ops` lists the
  native calls. A failed assertion, an index past a buffer and an overflowing
  counter end a procedure without a result.

  Correspondence (Rust ↔ Lean):
    `write_buffered`, `write_exact`, `write`   ↔ `writeBuffered`, `writeExact`, `write`
    `realign_with_silence`, `write_silence`    ↔ `realignWithSilence`, `writeSilence`
    `end_buffer_sequence`                      ↔ `endBufferSequence`
    `suspend`, `pause`, `resume`, `arm`        ↔ the same names
    `prime_buffer`, `retune_buffer`            ↔ `primeBuffer`, `retuneBuffer`
  The wake threshold, the capability bits, the log and the sleep between two
  attempts are left out.
-/

namespace PwOss.Oss

open PwOss.Backend PwOss.Sys PwOss.Proc

/-- The byte of a host buffer that a device byte copies. -/
structure Origin where
  buffer : Nat
  index : Nat
  deriving DecidableEq, Repr

/-- A byte on its way to the device; synthetic silence has no origin. -/
structure Cell where
  byte : UInt8
  origin : Option Origin
  deriving DecidableEq, Repr

def Cell.silence (byte : UInt8) : Cell := ⟨byte, none⟩

/-- `DspState`. -/
inductive DspState where
  | closed | setup | running
  deriving DecidableEq, Repr

/-- A native call on the device, with its result. -/
inductive NativeOp where
  | open_ (ok : Bool)
  | close
  /-- write(2), with the bytes it accepted. -/
  | write (accepted : List Cell)
  /-- SETTRIGGER(0). -/
  | reset (ok : Bool)
  /-- SETTRIGGER(PCM_ENABLE_OUTPUT). -/
  | enable (ok : Bool)
  /-- SNDCTL_DSP_SILENCE. -/
  | silence (ok : Bool)
  /-- SNDCTL_DSP_SKIP. -/
  | skip (ok : Bool)
  /-- GETODELAY. -/
  | odelay
  deriving DecidableEq

def NativeOp.isTrigger : NativeOp → Bool
  | .reset _ | .enable _ => true
  | _ => false

/-- The kernel's answers, by the number of native calls before; those to
SETTRIGGER by the number of SETTRIGGER calls before. -/
structure Native where
  open_ : Nat → Except Errno Unit
  write : Nat → Except Errno Nat
  trigger : Nat → Bool
  silence : Nat → Except Errno Unit
  skip : Nat → Except Errno Unit
  odelay : Nat → Except Errno Int

/-- `NativeWrite`. -/
structure NativeWrite where
  bytes : Int
  error : Option Errno
  deriving DecidableEq

/-- The fields of `PlaybackBufferState` that decide a retune. -/
structure PlaybackBufferState where
  periodBytes : Nat := 0
  quantumBytes : Nat := 0
  capacityBytes : Nat := 0
  mismatchCycles : Nat := 0
  deriving DecidableEq

/-- `DspWriter`. The stride is a nonzero `u32`, and `frameOff` lies in a frame. -/
structure DspWriter where
  state : DspState
  needsTrigger : Bool
  pauseShadowed : Bool
  stride : Nat
  silencePattern : SilencePattern
  deliveryQuantumNs : Nat
  playbackDelayEighths : Nat
  frameOff : Nat
  buffer : PlaybackBufferState
  -- ghost state of the device
  ring : List Cell
  ops : List NativeOp
  stride_pos : 0 < stride
  stride_lt : stride < 2 ^ 32
  frame_lt : frameOff < stride

/-- `io_status`. -/
def ioStatus (error : Errno) : IoStatus :=
  if error = .eagain ∨ error = .eintr then .wouldBlock
  else if error = .ebadf ∨ error = .enodev ∨ error = .enxio ∨ error = .epipe then .disconnected
  else .fatal error.code

namespace DspWriter

theorem stereo_pos : 0 < 4 := by decide
theorem stereo_lt : 4 < 2 ^ 32 := by decide

/-- A device that `new` made: closed, with nothing accepted. -/
def new (deliveryQuantumNs : Nat) : DspWriter where
  state := .closed
  needsTrigger := false
  pauseShadowed := false
  stride := 1
  silencePattern := .zero 1
  deliveryQuantumNs
  playbackDelayEighths := 10
  frameOff := 0
  buffer := {}
  ring := []
  ops := []
  stride_pos := by decide
  stride_lt := by decide
  frame_lt := by decide

variable (n : Native)

/-! ## State updates -/

/-- A native call that leaves the ring alone. -/
def called (op : NativeOp) (w : DspWriter) : DspWriter := { w with ops := w.ops ++ [op] }

/-- The first write leaves Setup. -/
def start (w : DspWriter) : DspWriter :=
  if w.state = .setup then { w with state := .running } else w

/-- The device accepted `cells`: the frame phase counts every byte. -/
def accept (cells : List Cell) (w : DspWriter) : DspWriter :=
  { w with
    ring := w.ring ++ cells
    ops := w.ops ++ [.write cells]
    frameOff := (w.frameOff + cells.length) % max w.stride 1
    frame_lt := by
      have h := w.stride_pos
      rw [Nat.max_eq_left (Nat.succ_le_of_lt h)]
      exact Nat.mod_lt _ h }

/-- SETTRIGGER(0) reset the ring. -/
def resetRing (w : DspWriter) : DspWriter := { w with ring := [] }

/-- `frame_off = 0`. -/
def alignFrame (w : DspWriter) : DspWriter := { w with frameOff := 0, frame_lt := w.stride_pos }

/-! ## Native calls -/

/-- The SETTRIGGER calls so far. -/
def triggers (w : DspWriter) : Nat := w.ops.countP NativeOp.isTrigger

/-- `set_trigger`. -/
def setTrigger (enable : Bool) : Proc DspWriter Bool := do
  let w ← get
  let ok := n.trigger w.triggers
  if enable then
    modify (called (.enable ok))
    return ok
  else if ok then
    modify fun w => (w.called (.reset true)).resetRing
    return true
  else
    modify (called (.reset false))
    return false

/-- `try_odelay`. -/
def tryOdelay : Proc DspWriter (Except Errno Int) := do
  let w ← get
  modify (called .odelay)
  return n.odelay w.ops.length

/-- `shadow_pause`, with the errno of its failure. -/
def shadowPause : Proc DspWriter (Except Errno Unit) := do
  let w ← get
  modify (called (.silence (n.silence w.ops.length).isOk))
  return n.silence w.ops.length

/-- `restore_shadow`, with the errno of its failure. -/
def restoreShadow : Proc DspWriter (Except Errno Unit) := do
  let w ← get
  modify (called (.skip (n.skip w.ops.length).isOk))
  return n.skip w.ops.length

/-! ## Writes -/

/-- `write_buffered`: one write(2). -/
def writeBuffered (buf : List Cell) : Proc DspWriter NativeWrite := do
  let count := buf.length % 2 ^ 32
  modify start
  let w ← get
  require (w.state = .running)
  match n.write w.ops.length with
  | .ok accepted =>
    let nbytes := min accepted count
    require (w.frameOff + nbytes < 2 ^ 32)
    modify (accept (buf.take nbytes))
    return ⟨nbytes, none⟩
  | .error error =>
    modify (called (.write []))
    return ⟨-1, some error⟩

/-- `write_exact`'s result. -/
def exactResult (count done : Nat) (error : Option Errno) : NativeWrite :=
  ⟨done, if done < count then error else none⟩

/-- The loop of `write_exact`. -/
def writeExactLoop (buf : List Cell) (count : Nat) :
    Nat → Nat → Nat → Option Errno → Proc DspWriter NativeWrite
  | 0, _, _, _ => failure
  | fuel + 1, done, tries, error =>
    if count ≤ done then pure (exactResult count done error)
    else do
      let attempt ← writeBuffered n (buf.drop done)
      if 0 < attempt.bytes then
        writeExactLoop buf count fuel (done + attempt.bytes.toNat) tries none
      else
        let w ← get
        if (attempt.bytes < 0 ∧ attempt.error ≠ some .eagain) ∨ w.needsTrigger = true then
          return exactResult count done attempt.error
        else if 100 < tries + 1 then
          return exactResult count done attempt.error
        else
          writeExactLoop buf count fuel done (tries + 1) attempt.error

/-- `write_exact`: every iteration accepts a byte or spends one of 101 tries. -/
def writeExact (buf : List Cell) : Proc DspWriter NativeWrite :=
  let count := buf.length % 2 ^ 32
  writeExactLoop n buf count (count + 102) 0 0 none

/-- What `write` keeps between its phases: `done`, `error`, `frame_complete`. -/
structure Progress where
  done : Nat
  error : Option Errno
  frameComplete : Bool

/-- The first phase of `write`: finish the frame a prior short write left open. -/
def finishFrame (buf : List Cell) (count : Nat) : Proc DspWriter Progress := do
  let w ← get
  if w.frameOff ≠ 0 ∧ count ≠ 0 then
    let need := min (w.stride - w.frameOff) count
    let tail ← writeExact n (buf.take need)
    let done := tail.bytes.toNat
    if done < need then return ⟨done, tail.error, false⟩
    else return ⟨done, none, true⟩
  else return ⟨0, none, true⟩

/-- The second phase: a bulk write, and the rest of a frame it split. -/
def writeBulk (buf : List Cell) (count done : Nat) : Proc DspWriter Progress := do
  let first ← writeBuffered n (buf.drop done)
  if first.bytes ≤ 0 then return ⟨done, first.error, true⟩
  else
    let done := done + first.bytes.toNat
    let w ← get
    if w.frameOff ≠ 0 ∧ done < count then
      let need := min (w.stride - w.frameOff) (count - done)
      let tail ← writeExact n ((buf.drop done).take need)
      if tail.bytes < need then return ⟨done + tail.bytes.toNat, tail.error, true⟩
      else return ⟨done + tail.bytes.toNat, none, true⟩
    else return ⟨done, none, true⟩

/-- `arm`: start a trigger-suspended channel with whatever is buffered. -/
def arm : Proc DspWriter Unit := do
  let w ← get
  if w.needsTrigger then
    modify fun w => { w with needsTrigger := false }
    let _ ← setTrigger n true

/-- `write`'s outcome. -/
def outcome (count : Nat) (p : Progress) : WriteOutcome where
  bytes := p.done
  status :=
    match p.error with
    | none => if p.done = 0 then .wouldBlock else .progress
    | some error => if p.done < count then ioStatus error else .progress

/-- `write`: the device byte stream stays frame-aligned. -/
def write (buf : List Cell) : Proc DspWriter WriteOutcome := do
  let count := buf.length % 2 ^ 32
  modify start
  let first ← finishFrame n buf count
  let last ← (if first.frameComplete = true ∧ first.done < count then
    writeBulk n buf count first.done else pure first)
  arm n
  return outcome count last

/-! ## Silence -/

def silenceChunkBytes : Nat := 4096

def bulkSilenceBytes : Nat := 131072

/-- `realign_with_silence`: close an open frame with format silence. -/
def realignWithSilence : Proc DspWriter (Except (Option Errno) Unit) := do
  let w ← get
  if w.frameOff ≠ 0 then
    let need := w.stride - w.frameOff
    require (need ≤ silenceChunkBytes)
    let result ← writeExact n ((w.silencePattern.fillAt w.frameOff need).map Cell.silence)
    let w ← get
    if w.frameOff ≠ 0 then return .error result.error
    else return .ok ()
  else return .ok ()

/-- `aligned_silence_chunk`: whole frames, unless the chunk is the last. -/
def alignedSilenceChunk (count bufferLen : Nat) : Proc DspWriter Nat := do
  let w ← get
  let chunk := min count bufferLen
  if chunk < count then
    let split := (w.frameOff + chunk) % max w.stride 1
    require (split ≤ chunk)
    return chunk - split
  else return chunk

/-- `write_silence_chunk`: the bytes accepted, if any. -/
def writeSilenceChunk (silence : List UInt8) : Proc DspWriter (Option Nat) := do
  let result ← writeBuffered n (silence.map Cell.silence)
  if result.bytes ≤ 0 then return none
  else return some result.bytes.toNat

/-- The loop of `write_uniform_silence` and `write_pattern_silence` over the
silence available at a frame offset. -/
def writeSilenceLoop (available : Nat → List UInt8) : Nat → Nat → Proc DspWriter Unit
  | _, 0 => pure ()
  | 0, _ + 1 => failure
  | fuel + 1, count + 1 => do
    let w ← get
    let silence := available w.frameOff
    let chunk ← alignedSilenceChunk (count + 1) silence.length
    if chunk = 0 then return ()
    else
      require (chunk ≤ silence.length)
      match ← writeSilenceChunk n (silence.take chunk) with
      | none => return ()
      | some written =>
        require (written ≤ count + 1)
        writeSilenceLoop available fuel (count + 1 - written)

/-- `write_uniform_silence` from a shared block of `len` bytes. -/
def writeUniformSilence (count len : Nat) (byte : UInt8) : Proc DspWriter Unit :=
  writeSilenceLoop n (fun _ => List.replicate len byte) count count

/-- `write_pattern_silence`: the cache resumes at the frame offset. It is there: every
uniform encoding has a block of its own. -/
def writePatternSilence (count : Nat) : Proc DspWriter Unit := do
  let w ← get
  let cache := w.silencePattern.fillAt 0 (max bulkSilenceBytes w.silencePattern.frameMultiple)
  writeSilenceLoop n (fun frameOff => cache.drop frameOff) count count

/-- `write_silence`: whole frames of silence, best effort. -/
def writeSilence (count : Nat) : Proc DspWriter Unit := do
  modify start
  match ← realignWithSilence n with
  | .error _ => return ()
  | .ok () =>
    let w ← get
    let count := count - count % max w.stride 1
    match w.silencePattern.uniformByte with
    | some 0 => writeUniformSilence n count bulkSilenceBytes 0
    | some 0x80 => writeUniformSilence n count bulkSilenceBytes 0x80
    | some 0xff => writeUniformSilence n count silenceChunkBytes 0xff
    | some 0x55 => writeUniformSilence n count silenceChunkBytes 0x55
    | _ => writePatternSilence n count

/-! ## Lifecycle -/

/-- `open`. -/
def open_ : Proc DspWriter (Except Errno Unit) := do
  let w ← get
  require (w.state = .closed)
  match n.open_ w.ops.length with
  | .error error =>
    modify (called (.open_ false))
    return .error error
  | .ok () =>
    modify fun w => { (w.called (.open_ true)).resetRing with state := .setup }
    return .ok ()

/-- `close`. -/
def close : Proc DspWriter Unit := do
  let w ← get
  require (w.state ≠ .closed)
  modify fun w =>
    { ((w.called .close).resetRing).alignFrame with
      state := .closed, needsTrigger := false, pauseShadowed := false, buffer := {} }

/-- `suspend`: stop the channel and reset its ring. `false`: the driver refused. -/
def suspend : Proc DspWriter Bool := do
  let w ← get
  if w.state ≠ .running then return true
  else if ← setTrigger n false then
    modify fun w =>
      { w.alignFrame with state := .setup, needsTrigger := true, pauseShadowed := false }
    return true
  else return false

/-- `pause`: keep the queued playback behind a silence shadow. -/
def pause : Proc DspWriter (Except Errno PauseOutcome) := do
  modify fun w => { w with pauseShadowed := false }
  let w ← get
  if w.state ≠ .running then return .ok .preserved
  else
    match ← tryOdelay n with
    | .error error => return .error error
    | .ok delay =>
      if delay ≤ 0 then return .ok .preserved
      else if w.silencePattern.uniformByte = none then return .ok .reprime
      else
        match ← shadowPause n with
        | .error error => return .error error
        | .ok () =>
          match ← tryOdelay n with
          | .error error => return .error error
          | .ok delay =>
            modify fun w => { w with pauseShadowed := decide (0 < delay) }
            return .ok .preserved

/-- `resume`: restore the samples `pause` saved. -/
def resume : Proc DspWriter (Except Errno Unit) := do
  let w ← get
  modify fun w => { w with pauseShadowed := false }
  if w.pauseShadowed then restoreShadow n
  else return .ok ()

/-- `end_buffer_sequence`: close the frame that the retained buffer left open.
`true`: the ring was reset. -/
def endBufferSequence : Proc DspWriter Bool := do
  let w ← get
  if w.frameOff = 0 then return false
  else if w.state ≠ .running then
    modify alignFrame
    return false
  else if w.pauseShadowed then suspend n
  else
    match ← realignWithSilence n with
    | .ok () => return false
    | .error _ => suspend n

/-! ## Ring geometry -/

/-- `prime_buffer`, given the capacity and quantum the kernel granted. -/
def primeBuffer (request : PlaybackBufferRequest) (granted : Nat × Nat) (delayEighths : Nat) :
    Proc DspWriter PlaybackBufferGeometry := do
  let w ← get
  require (w.state = .setup)
  let geometry := playbackAppliedGeometry request granted.1 granted.2 w.deliveryQuantumNs
    delayEighths
  modify fun w =>
    { w with
      playbackDelayEighths := delayEighths
      buffer :=
        { periodBytes := request.periodBytes
          quantumBytes := geometry.quantumBytes
          capacityBytes := geometry.capacityBytes } }
  writeSilence n geometry.targetFillBytes
  return geometry

/-- `retune_buffer`. -/
def retuneBuffer (request : PlaybackBufferRequest) (currentFillBytes : Nat) :
    Proc DspWriter PlaybackRetune := do
  let w ← get
  let setMismatch (cycles : Nat) (w : DspWriter) : DspWriter :=
    { w with buffer := { w.buffer with mismatchCycles := cycles } }
  if w.state ≠ .running ∨ w.buffer.periodBytes = 0 ∨ request.periodBytes = 0 ∨
      request.periodBytes = w.buffer.periodBytes then
    modify (setMismatch 0)
    return .unchanged
  else
    let cycles := satAdd w.buffer.mismatchCycles 1
    modify (setMismatch cycles)
    if cycles < 2 then return .pending
    else
      let geometry := playbackRetunedGeometry request w.buffer.capacityBytes
        w.buffer.quantumBytes w.deliveryQuantumNs currentFillBytes w.playbackDelayEighths
      if geometry.requiredCapacityBytes ≤ geometry.capacityBytes then
        modify fun w =>
          { w with
            buffer := { w.buffer with periodBytes := request.periodBytes, mismatchCycles := 0 } }
        return .applied geometry
      else if ← suspend n then
        modify (setMismatch 0)
        return .reprime
      else return .rebuild

end DspWriter

end PwOss.Oss
