import PwOss.Backend.Capture

/-
  The ring policy of `freebsd_oss/buffer.rs`: the fill targets and the required
  capacity of a granted ring in both directions, the geometry they give, and the
  capacity that playback plans for. The fragment layout of the ioctl is left out:
  the model reads what the kernel granted.
-/

namespace PwOss.Oss

open PwOss.Backend

def playbackDesiredDelay (period delayEighths : Nat) : Nat := satMul (period / 8) delayEighths

def playbackFillFloor (period blocksize : Nat) : Nat := satAdd period (max (period / 4) blocksize)

def playbackBufferRequired (period desired blocksize writeMax : Nat) : Nat :=
  max (satAdd (satMul period 2) desired)
    (satAdd (satAdd (playbackFillFloor period blocksize) writeMax) blocksize)

/-- The fill target, and whether the grant capped the wanted one. -/
def playbackTargetDelay (granted period blocksize writeMax desired : Nat) : Nat × Bool :=
  if satMul period 2 ≤ granted then
    let floor := playbackFillFloor period blocksize
    let ceiling := max (granted - satAdd writeMax blocksize) period
    let wanted := max desired floor
    (max (min wanted ceiling) period, decide (ceiling < wanted))
  else (granted / 2, false)

/-- `delivery_quantum_bytes`: the bytes of `ns` nanoseconds, rounded up to frames. -/
def deliveryQuantumBytes (ns rate stride : Nat) : Nat :=
  let stride := max stride 1
  let bytes := min (ns * rate * stride / 1000000000) u32Max
  let rounded := (bytes + stride - 1) / stride * stride
  if rounded ≤ u32Max then rounded else u32Max - u32Max % stride

def playbackAppliedGeometry (request : PlaybackBufferRequest)
    (capacityBytes grantedQuantumBytes deliveryQuantumNs delayEighths : Nat) :
    PlaybackBufferGeometry :=
  let quantumBytes := max grantedQuantumBytes
    (deliveryQuantumBytes deliveryQuantumNs request.deviceRate request.stride)
  let writeMax := max request.periodBytes request.maximumWriteBytes
  let desired := playbackDesiredDelay request.periodBytes delayEighths
  let target := playbackTargetDelay capacityBytes request.periodBytes quantumBytes writeMax desired
  { capacityBytes
    quantumBytes
    targetFillBytes := target.1
    targetGoalBytes := target.1
    minimumFillBytes := playbackFillFloor request.periodBytes quantumBytes
    requiredCapacityBytes :=
      playbackBufferRequired request.periodBytes desired quantumBytes writeMax
    delayCapped := target.2 }

def playbackRetunedGeometry (request : PlaybackBufferRequest)
    (capacityBytes grantedQuantumBytes deliveryQuantumNs currentFillBytes delayEighths : Nat) :
    PlaybackBufferGeometry :=
  let geometry := playbackAppliedGeometry request capacityBytes grantedQuantumBytes
    deliveryQuantumNs delayEighths
  let predicted := satAdd currentFillBytes request.writeBytes - request.periodBytes
  { geometry with targetFillBytes := min geometry.targetGoalBytes predicted }

/-! ## The planned capacity -/

def bufferCapacityMinBytes : Nat := 131072

/-- The plugin is built for a kernel with `scaled` secondary buffers, or without. -/
def bufferCapacityMaxBytes (scaled : Bool) : Nat :=
  if scaled then 4 * 1024 * 1024 else bufferCapacityMinBytes

def bufferCapacityTargetMs : Nat := 200

def minBufferBytes : Nat := 65536

/-- `u64` multiplication that saturates. -/
def satMul64 (a b : Nat) : Nat := min (a * b) (2 ^ 64 - 1)

/-- The kernel's byte budget for the soft ring of a channel. -/
def bufferCapacityLimit (scaled : Bool) (stride rate : Nat) : Nat :=
  if scaled then
    min (max (satMul64 (satMul64 stride rate) bufferCapacityTargetMs / 1000)
      bufferCapacityMinBytes) (bufferCapacityMaxBytes scaled)
  else bufferCapacityMinBytes

def graphFramesInDeviceBytes (frames deviceRate graphRate stride : Nat) : Nat :=
  if graphRate = 0 then min (satMul64 frames stride) u32Max
  else min (satMul64 (satMul64 frames deviceRate / graphRate) stride) u32Max

/-- One graph cycle of the largest commonly negotiable quantum in device bytes. -/
def maxBufferPeriodBytes (scaled : Bool) (stride deviceRate graphRate : Nat) : Nat :=
  let stride := max stride 1
  let defaultMax := graphFramesInDeviceBytes 2048 deviceRate graphRate stride
  let capFrames := bufferCapacityLimit scaled stride deviceRate / stride / 4
  min defaultMax (satMul capFrames stride)

/-- The transfer size a ring is planned for: an unset fragment counts as 1 KiB. -/
def transferEstimate (fragment hardwareChunk : Nat) : Nat :=
  max (if fragment = 0 then 1024 else fragment) hardwareChunk

def playbackBufferRequest (scaled : Bool) (period maxPeriod stride rate fragment hardwareChunk
    writeMax delayEighths : Nat) : Nat :=
  let transfer := transferEstimate fragment hardwareChunk
  let stable := playbackBufferRequired maxPeriod (playbackDesiredDelay maxPeriod delayEighths)
    transfer maxPeriod
  let required := playbackBufferRequired period (playbackDesiredDelay period delayEighths)
    transfer writeMax
  min (max (max required stable) minBufferBytes) (bufferCapacityLimit scaled stride rate)

/-- The capacity to ask for, and the hardware's delivery quantum. -/
def playbackBufferPlan (scaled : Bool) (request : PlaybackBufferRequest)
    (deliveryQuantumNs fragmentBytes delayEighths : Nat) : Nat × Nat :=
  let hardwareQuantum := deliveryQuantumBytes deliveryQuantumNs request.deviceRate request.stride
  let writeMax := max request.periodBytes request.maximumWriteBytes
  let maxPeriod := maxBufferPeriodBytes scaled request.stride request.deviceRate request.graphRate
  (playbackBufferRequest scaled request.periodBytes maxPeriod request.stride request.deviceRate
    fragmentBytes hardwareQuantum writeMax delayEighths, hardwareQuantum)

/-! ## Underruns -/

/-- `underrun_low`: the fill below which an underrun needs recovery. -/
def underrunLow (targetFill deliveryQuantum periodBytes drainedBytes : Nat) : Nat :=
  let low := max (min periodBytes (targetFill - deliveryQuantum)) (periodBytes / 4)
  let wander := max (periodBytes / 4) deliveryQuantum
  max (min low (targetFill - drainedBytes - wander)) (periodBytes / 16)

/-! ## Capture -/

/-- The fill target, and the fill beyond which a read catches up. -/
def captureFillTargets (period blocksize ring : Nat) : Nat × Nat :=
  let target := satAdd period (blocksize / 2)
  let peak := satAdd (satAdd target (blocksize / 2)) (period / 2)
  if 0 < ring then
    let ringPeak := ring - blocksize
    let minPeak := min (satAdd target blocksize) ringPeak
    (target, max (min peak ringPeak) minPeak)
  else (target, peak)

def captureBufferRequired (period blocksize : Nat) : Nat :=
  max (satAdd (captureFillTargets period blocksize 0).1 (satMul blocksize 2)) (satMul period 2)

def captureAppliedGeometry (request : CaptureBufferRequest)
    (capacityBytes grantedQuantumBytes deliveryQuantumNs : Nat) : CaptureBufferGeometry :=
  let quantumBytes := max grantedQuantumBytes
    (deliveryQuantumBytes deliveryQuantumNs request.deviceRate request.stride)
  let targets := captureFillTargets request.periodBytes quantumBytes capacityBytes
  { capacityBytes
    quantumBytes
    targetFillBytes := targets.1
    peakFillBytes := targets.2
    requiredCapacityBytes := captureBufferRequired request.periodBytes quantumBytes
    deviceLost := false }

end PwOss.Oss
