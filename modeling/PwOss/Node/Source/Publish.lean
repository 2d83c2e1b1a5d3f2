import PwOss.Node.Source.Level

/-
  What a source cycle publishes, of the read branches of `process_ports`.

  Freewheeling and priming pad the block with silence to the period of the cycle, and a
  read pads what the device gave to the committed period. All three cut the period at the
  end of the block.

  What is proved:
    1. `capture_publishes_frames`: what is published lies in the block, and is device bytes
       followed by silence. It is whole frames, whatever the device gives, exactly where the
       period cut at the end of the block is.
    2. `served_period_whole`: of a period that `device_period_bytes` gives, that is a block
       which holds the period or is whole frames itself.
    3. `torn_block_published`: a block of a frame and a half is published with the half.
-/

namespace PwOss.Node.Source

open PwOss.Backend PwOss.Transition

variable {δ : Type} (ops : CaptureOperations δ)

/-! ## The branches of a cycle -/

/-- The silence of the format in place. -/
def silence (s : Source δ) : SilencePattern :=
  (s.config.map SilencePattern.forConfig).getD (.zero 1)

/-- The edge out of freewheeling re-primes. -/
def enterCycle (position : Position) (s : Source δ) : Source δ :=
  s.modifyExt fun ext =>
    { ext with
      primed := ext.primed && !(ext.wasFreewheeling && !position.freewheel)
      wasFreewheeling := position.freewheel }

section Branch
variable (c : Cycle δ) (config : StreamConfig) (freewheel : Bool) (period : Nat) (s : Source δ)

/-- The period that a cycle pads its block to, where it publishes one. -/
def servedPeriod : Option Nat :=
  if freewheel = true ∧ 0 < period then some period
  else if s.ext.primed = false ∧ 0 < period then some period
  else if ops.isRunning s.dsp = false then none
  else some s.setupPeriod

/-- What the device gave to a read of `ispace` bytes. -/
def readData (ispace : Nat) : List UInt8 :=
  if 0 < ispace then
    (ops.read ispace s.dsp).1.stored.take (ops.read ispace s.dsp).1.bytes
  else []

/-- The device bytes in the block of a cycle. -/
def deviceBytes (maxsize : Nat) : List UInt8 :=
  if freewheel = true ∧ 0 < period then []
  else if s.ext.primed = false ∧ 0 < period then []
  else if ops.isRunning s.dsp = false then []
  else readData ops s (s.readSpace (measuredFill ops c s) (strideRate config).1 maxsize)

end Branch

/-- A read of whole frames reports whole frames: the contract of `CaptureOperations::read`. -/
def WholeReads (stride : Nat) (read : (len : Nat) → δ → ReadOutcome len × δ) : Prop :=
  ∀ len, stride ∣ len → ∀ dsp, stride ∣ (read len dsp).1.bytes

/-! ## Writes into the block -/

theorem take_overwrite (data bytes : List UInt8) (offset : Nat)
    (h : offset + bytes.length ≤ data.length) :
    (overwrite data offset bytes).take (offset + bytes.length) = data.take offset ++ bytes := by
  have hoffset : (data.take offset).length = offset := by
    rw [List.length_take]
    omega
  have hbytes : bytes.take (data.length - offset) = bytes := List.take_of_length_le (by omega)
  unfold overwrite
  have hlength : (data.take offset ++ bytes).length = offset + bytes.length := by
    rw [List.length_append, hoffset]
  rw [hbytes, List.take_append_of_le_length (Nat.le_of_eq hlength.symm)]
  exact List.take_of_length_le (Nat.le_of_eq hlength)

section Fill
variable {maxsize : Nat} (s : Source δ) (data : Scratch maxsize)

theorem take_fillSilence (offset len : Nat) (h : offset + len ≤ maxsize) :
    (fillSilence s data offset len).1.take (offset + len) =
      data.1.take offset ++ s.silence.fillAt 0 len := by
  have htake := take_overwrite data.1 (s.silence.fillAt 0 len) offset
    (by rw [SilencePattern.length_fillAt, data.2]; exact h)
  rwa [SilencePattern.length_fillAt] at htake

theorem length_readData (ispace : Nat) :
    (readData ops s ispace).length = (readBlock ops ispace data s).2.1 := by
  unfold readData readBlock
  split
  · rw [List.length_take, Nat.min_eq_left (ReadOutcome.bytes_le _)]
  · rfl

theorem readData_le (ispace : Nat) : (readData ops s ispace).length ≤ ispace := by
  unfold readData
  split
  · refine Nat.le_trans (List.length_take_le' _ _) (ReadOutcome.stored_le _)
  · exact Nat.zero_le _

theorem take_write {len : Nat} (outcome : ReadOutcome len) (h : len ≤ maxsize) :
    (data.write 0 outcome.stored).1.take outcome.bytes = outcome.stored.take outcome.bytes := by
  have hstored := outcome.stored_le
  have hwhole := take_overwrite data.1 outcome.stored 0 (by rw [data.2]; omega)
  rw [Nat.zero_add, List.take_zero, List.nil_append] at hwhole
  calc (overwrite data.1 0 outcome.stored).take outcome.bytes
      = ((overwrite data.1 0 outcome.stored).take outcome.stored.length).take outcome.bytes := by
        rw [List.take_take, Nat.min_eq_left outcome.bytes_le]
    _ = outcome.stored.take outcome.bytes := by rw [hwhole]

theorem take_readBlock {ispace : Nat} (h : ispace ≤ maxsize) :
    (readBlock ops ispace data s).1.1.take (readBlock ops ispace data s).2.1 =
      readData ops s ispace := by
  unfold readData readBlock
  by_cases hspace : 0 < ispace
  · rw [if_pos hspace, if_pos hspace]
    exact take_write data (ops.read ispace s.dsp).1 h
  · rw [if_neg hspace, if_neg hspace]
    exact List.take_zero

/-- A read latches what it learned, and leaves the period and the format. -/
theorem readBlock_keeps (ispace : Nat) :
    (readBlock ops ispace data s).2.2.setupPeriod = s.setupPeriod ∧
      (readBlock ops ispace data s).2.2.silence = s.silence := by
  unfold readBlock
  split
  · exact ⟨rfl, rfl⟩
  · exact ⟨rfl, rfl⟩

theorem readSpace_le (queued stride maxsize : Nat) : s.readSpace queued stride maxsize ≤ maxsize :=
  Nat.le_trans (Nat.div_mul_le_self _ _) (Nat.min_le_right _ _)

/-- A committed period of zero pads nothing. -/
theorem paddedBytes (nread period : Nat) :
    (if 0 < period then max nread period else nread) = max nread period := by
  split
  · rfl
  · omega

theorem boundedRead_bytes (queued stride : Nat) :
    (boundedRead ops queued stride data s).bytes =
      some (max (readData ops s (s.readSpace queued stride maxsize)).length
        (min s.setupPeriod maxsize)) := by
  obtain ⟨hperiod, -⟩ := readBlock_keeps ops s data (s.readSpace queued stride maxsize)
  rw [length_readData ops s data, ← hperiod, ← paddedBytes]
  rfl

/-- What a read gave, padded with silence to `size` bytes. -/
theorem take_padded {nread size : Nat} (hle : nread ≤ size) (hsize : size ≤ maxsize) :
    (if nread < size then fillSilence s data nread (size - nread) else data).1.take size =
      data.1.take nread ++ s.silence.fillAt 0 (size - nread) := by
  split
  · have htake := take_fillSilence s data nread (size - nread) (by omega)
    rwa [Nat.add_sub_cancel' hle] at htake
  · have heq : nread = size := by omega
    rw [heq, Nat.sub_self]
    exact (List.append_nil _).symm

theorem boundedRead_data (queued stride : Nat) {size : Nat}
    (h : (boundedRead ops queued stride data s).bytes = some size) :
    size ≤ maxsize ∧
      (boundedRead ops queued stride data s).data.1.take size =
        readData ops s (s.readSpace queued stride maxsize) ++
          s.silence.fillAt 0
            (size - (readData ops s (s.readSpace queued stride maxsize)).length) := by
  have hspace := readSpace_le s queued stride maxsize
  have hdevice := Nat.le_trans (readData_le ops s (s.readSpace queued stride maxsize)) hspace
  obtain ⟨hperiod, hsilence⟩ := readBlock_keeps ops s data (s.readSpace queued stride maxsize)
  rw [boundedRead_bytes, Option.some.injEq] at h
  subst h
  refine ⟨by omega, ?_⟩
  rw [length_readData ops s data] at hdevice ⊢
  rw [← take_readBlock ops s data hspace, ← hsilence, ← hperiod, ← paddedBytes]
  refine take_padded _ _ ?_ ?_
  · rw [paddedBytes]
    exact Nat.le_max_left _ _
  · rw [paddedBytes]
    omega

end Fill

/-! ## The block of a cycle -/

section Cycle
variable {maxsize : Nat} (c : Cycle δ) (config : StreamConfig) (freewheel : Bool)
  (period graphRate : Nat) (data : Scratch maxsize) (s : Source δ)

theorem fillBlock_bytes :
    (fillBlock ops c config freewheel period graphRate data s).bytes =
      (servedPeriod ops freewheel period s).map fun served =>
        max (deviceBytes ops c config freewheel period s maxsize).length (min served maxsize) := by
  unfold fillBlock servedPeriod deviceBytes
  split
  · rw [Option.map_some, List.length_nil, Nat.zero_max]
  split
  · rw [Option.map_some, List.length_nil, Nat.zero_max]
    rfl
  split
  · rfl
  · exact boundedRead_bytes ops s data _ _

/-- A block of silence alone. -/
theorem take_silent (t : Source δ) {len : Nat} (h : len ≤ maxsize) :
    (fillSilence t data 0 len).1.take len = [] ++ t.silence.fillAt 0 (len - 0) := by
  have htake := take_fillSilence t data 0 len (by omega)
  rwa [Nat.zero_add] at htake

theorem take_primed :
    (primeCapture ops config period graphRate data s).data.1.take (min period maxsize) =
      [] ++ s.silence.fillAt 0 (min period maxsize - 0) := by
  have hcommit : ∀ (geometry : CaptureBufferGeometry) (t : Source δ),
      (t.commitGeometry period geometry).silence = t.silence := by
    intro geometry t
    unfold commitGeometry
    split
    · rfl
    · rfl
  have hsilence : (primeCapture ops config period graphRate data s).state.silence = s.silence := by
    unfold primeCapture
    exact hcommit ..
  rw [← hsilence]
  exact take_silent _ _ (Nat.min_le_right _ _)

theorem fillBlock_data {size : Nat}
    (h : (fillBlock ops c config freewheel period graphRate data s).bytes = some size) :
    size ≤ maxsize ∧
      (fillBlock ops c config freewheel period graphRate data s).data.1.take size =
        deviceBytes ops c config freewheel period s maxsize ++
          s.silence.fillAt 0
            (size - (deviceBytes ops c config freewheel period s maxsize).length) := by
  unfold fillBlock at h ⊢
  unfold deviceBytes
  split at h
  · next hfreewheel =>
    rw [if_pos hfreewheel, if_pos hfreewheel]
    obtain rfl : min period maxsize = size := Option.some.inj h
    exact ⟨Nat.min_le_right _ _, take_silent data s (Nat.min_le_right _ _)⟩
  next hfreewheel =>
  rw [if_neg hfreewheel, if_neg hfreewheel]
  split at h
  · next hprime =>
    rw [if_pos hprime, if_pos hprime]
    obtain rfl : min period maxsize = size := Option.some.inj h
    exact ⟨Nat.min_le_right _ _, take_primed ops config period graphRate data s⟩
  next hprime =>
  rw [if_neg hprime, if_neg hprime]
  split at h
  · cases h
  · next hrun =>
    rw [if_neg hrun, if_neg hrun]
    exact boundedRead_data ops s data _ _ h

/-- Device bytes come in whole frames, when reads do. -/
theorem deviceBytes_whole (h : WholeReads (strideRate config).1 ops.read) (maxsize : Nat) :
    (strideRate config).1 ∣ (deviceBytes ops c config freewheel period s maxsize).length := by
  unfold deviceBytes readData
  split
  · exact Nat.dvd_zero _
  split
  · exact Nat.dvd_zero _
  split
  · exact Nat.dvd_zero _
  split
  · rw [List.length_take, Nat.min_eq_left (ReadOutcome.bytes_le _)]
    exact h _ (Nat.dvd_mul_left _ _) _
  · exact Nat.dvd_zero _

end Cycle

section Serve
variable (c : Cycle δ) (position : Position) (config : StreamConfig) (id : UInt32)
  (block : HostBlock) (s : Source δ)

/-- The period that the cycle of `serveBlock` pads to. -/
def blockPeriod : Option Nat :=
  servedPeriod ops position.freewheel (cyclePeriod position config).2 (s.enterCycle position)

/-- The device bytes in the block of `serveBlock`. -/
def blockDeviceBytes : List UInt8 :=
  deviceBytes ops c config position.freewheel (cyclePeriod position config).2
    (s.enterCycle position) block.maxsize

/-- How `serveBlock` fills its block. -/
def blockFilled : Filled δ block.maxsize :=
  fillBlock ops c config position.freewheel (cyclePeriod position config).2
    (cyclePeriod position config).1 block.scratch (s.enterCycle position)

/-- The host gets the filled block, if there is one. -/
theorem serveBlock_held :
    (serveBlock ops c position config id block s).held =
      (match (blockFilled ops c position config block s).bytes with
        | some size =>
          [(id, (block.store (blockFilled ops c position config block s).data).publish size
            (strideRate config).1)]
        | none => []) ++ s.held := by
  unfold serveBlock blockFilled enterCycle
  dsimp only
  generalize hfilled : fillBlock ops c config _ _ _ _ _ = filled
  have hframe : (settleOverruns ops c position.freewheel filled.preReadFill filled.state).frame =
      s.frame := by
    rw [frame_settleOverruns, ← hfilled, frame_fillBlock]
    rfl
  have hheld : (settleOverruns ops c position.freewheel filled.preReadFill filled.state).held =
      s.held := congrArg (fun f => f.ledger.held) hframe
  rw [← hheld]
  cases filled.bytes with
  | none => rfl
  | some size => rfl

/-- The cycle gives the host the block `b`. -/
def Publishes (b : HostBlock) : Prop :=
  (serveBlock ops c position config id block s).held = (id, b) :: s.held

theorem publishes_iff (b : HostBlock) :
    Publishes ops c position config id block s b ↔
      ∃ size, (blockFilled ops c position config block s).bytes = some size ∧
        b = (block.store (blockFilled ops c position config block s).data).publish size
          (strideRate config).1 := by
  unfold Publishes
  rw [serveBlock_held]
  cases (blockFilled ops c position config block s).bytes with
  | none =>
    constructor
    · exact fun h => absurd h.symm (List.cons_ne_self _ _)
    · rintro ⟨size, hsize, -⟩
      cases hsize
  | some size =>
    rw [List.singleton_append, List.cons.injEq, Prod.mk.injEq]
    constructor
    · rintro ⟨⟨-, rfl⟩, -⟩
      exact ⟨size, rfl, rfl⟩
    · rintro ⟨_, hsize, rfl⟩
      cases hsize
      exact ⟨⟨rfl, rfl⟩, rfl⟩

/-- What is published lies in the block, with the device bytes first. -/
theorem published_block {b : HostBlock} (h : Publishes ops c position config id block s b) :
    b.chunkSize ≤ b.maxsize ∧
      b.data.take b.chunkSize = blockDeviceBytes ops c position config block s ++
        s.silence.fillAt 0
          (b.chunkSize - (blockDeviceBytes ops c position config block s).length) := by
  obtain ⟨size, hsize, rfl⟩ := (publishes_iff ops c position config id block s b).mp h
  obtain ⟨hle, hdata⟩ := fillBlock_data ops c config _ _ _ _ _ hsize
  have hlength := (blockFilled ops c position config block s).data.2
  exact ⟨Nat.le_trans hle (Nat.le_of_eq hlength.symm), hdata⟩

/-- It is as long as what the device gave, or as the period cut at the end of the block. -/
theorem published_size {b : HostBlock} (h : Publishes ops c position config id block s b) :
    ∃ period, blockPeriod ops position config s = some period ∧
      b.chunkSize = max (blockDeviceBytes ops c position config block s).length
        (min period block.maxsize) := by
  obtain ⟨size, hsize, rfl⟩ := (publishes_iff ops c position config id block s b).mp h
  unfold blockFilled at hsize
  rw [fillBlock_bytes, Option.map_eq_some_iff] at hsize
  obtain ⟨period, hperiod, hmax⟩ := hsize
  exact ⟨period, hperiod, hmax.symm⟩

/-- A device that gives nothing. -/
def emptyRead (len : Nat) (dsp : δ) : ReadOutcome len × δ :=
  (⟨[], 0, .progress, Nat.zero_le _, Nat.zero_le _⟩, dsp)

/-- A cycle with a period publishes it, cut at the end of the block, if the device gives
nothing. -/
theorem published_empty {period : Nat} (h : blockPeriod ops position config s = some period) :
    ∃ b, Publishes { ops with read := emptyRead } c position config id block s b ∧
      b.chunkSize = min period block.maxsize := by
  have hempty : blockDeviceBytes { ops with read := emptyRead } c position config block s = [] := by
    unfold blockDeviceBytes deviceBytes readData
    split
    · rfl
    split
    · rfl
    split
    · rfl
    split
    · rfl
    · rfl
  have hbytes : (blockFilled { ops with read := emptyRead } c position config block s).bytes =
      some (min period block.maxsize) := by
    unfold blockFilled
    rw [fillBlock_bytes]
    show (blockPeriod ops position config s).map (fun served =>
      max (blockDeviceBytes { ops with read := emptyRead } c position config block s).length _) = _
    rw [h, Option.map_some, hempty, List.length_nil, Nat.zero_max]
  exact ⟨_, (publishes_iff _ c position config id block s _).mpr ⟨_, hbytes, rfl⟩, rfl⟩

/-- Capture publishes whole frames within the block, where the period cut at the end of the
block is whole frames. In every cycle the published bytes lie in the block, and are what the
device gave followed by the silence of the format; and they are whole frames, for every
device that reads whole frames, exactly on that condition. -/
theorem capture_publishes_frames :
    (∀ b, Publishes ops c position config id block s b →
      b.chunkSize ≤ b.maxsize ∧
        b.data.take b.chunkSize = blockDeviceBytes ops c position config block s ++
          s.silence.fillAt 0
            (b.chunkSize - (blockDeviceBytes ops c position config block s).length)) ∧
    ((∀ read, WholeReads (strideRate config).1 read →
        ∀ b, Publishes { ops with read } c position config id block s b →
          (strideRate config).1 ∣ b.chunkSize) ↔
      ∀ period, blockPeriod ops position config s = some period →
        (strideRate config).1 ∣ min period block.maxsize) := by
  refine ⟨fun b => published_block ops c position config id block s, ?_, ?_⟩
  · intro h period hperiod
    obtain ⟨b, hb, hsize⟩ := published_empty ops c position config id block s hperiod
    rw [← hsize]
    exact h emptyRead (fun _ _ _ => Nat.dvd_zero _) b hb
  · intro h read hread b hb
    obtain ⟨period, hperiod, hsize⟩ :=
      published_size { ops with read } c position config id block s hb
    have hdevice := deviceBytes_whole { ops with read } c config position.freewheel
      (cyclePeriod position config).2 (s.enterCycle position) hread block.maxsize
    rw [hsize]
    rcases Nat.le_total (min period block.maxsize)
        (blockDeviceBytes { ops with read } c position config block s).length with hlong | hshort
    · rw [Nat.max_eq_left hlong]
      exact hdevice
    · rw [Nat.max_eq_right hshort]
      exact h period hperiod

end Serve

/-! ## Blocks shorter than the period -/

theorem devicePeriodBytes_whole (duration deviceRate graphRate stride : Nat) :
    stride ∣ devicePeriodBytes duration deviceRate graphRate stride ∨
      devicePeriodBytes duration deviceRate graphRate stride = u32Max := by
  unfold devicePeriodBytes
  split
  · exact .inl (Nat.dvd_zero _)
  generalize min (duration * deviceRate) u64Max / graphRate = frames
  rcases Nat.le_total (frames * stride) u32Max with hle | hge
  · -- Nothing saturates.
    have hexact : min (min (frames * stride) u64Max) u32Max = frames * stride := by
      unfold u32Max u64Max at *
      omega
    rw [hexact]
    exact .inl (Nat.dvd_mul_left _ _)
  · right
    unfold u32Max u64Max at *
    omega

/-- A period of `device_period_bytes` is cut to whole frames if the block is whole frames, or
holds it. -/
theorem served_period_whole {stride period maxsize : Nat}
    (h : stride ∣ period ∨ period = u32Max) (hmax : maxsize < 2 ^ 32) :
    stride ∣ min period maxsize ↔ stride ∣ maxsize ∨ (period ≤ maxsize ∧ stride ∣ period) := by
  rcases Nat.lt_or_ge maxsize period with hlt | hle
  · rw [Nat.min_eq_right (Nat.le_of_lt hlt)]
    constructor
    · exact .inl
    · rintro (hblock | ⟨hle, -⟩)
      · exact hblock
      · omega
  · rw [Nat.min_eq_left hle]
    constructor
    · exact fun hperiod => .inr ⟨hle, hperiod⟩
    · rintro (hblock | ⟨-, hperiod⟩)
      · rcases h with hperiod | hsaturated
        · exact hperiod
        · have heq : period = maxsize := by
            unfold u32Max at hsaturated
            omega
          rwa [heq]
      · exact hperiod

/-- Two channels of two bytes. -/
def stereoWords : StreamConfig := ⟨0x103, 48000, 2, [], 0, 4⟩

/-- A frame and a half. -/
def tornBlock : HostBlock := ⟨true, [0, 0, 0, 0, 0, 0], 0, 0, by decide⟩

/-- The host gives a buffer of a frame and a half, and takes it back once. -/
def tornBuffer : List (Event Unit) :=
  [.install () (some stereoWords) 4, .useBuffers [tornBlock], .hostIo (some ⟨.needData, noBuffer⟩),
    .start, .process (fourFrames none), .hostIo (some ⟨.needData, 0⟩), .process (fourFrames none)]

/-- The host is given a frame of the device, and half a frame of silence. -/
theorem torn_block_published :
    ∃ s b, (system sevens).run (fresh ()) tornBuffer = some s ∧ s.held = [(0, b)] ∧
      b.data.take b.chunkSize = [7, 7, 7, 7, 0, 0] ∧ b.chunkStride = 4 ∧
      ¬ b.chunkStride ∣ b.chunkSize := by
  refine ⟨_, _, rfl, rfl, rfl, rfl, ?_⟩
  decide

end PwOss.Node.Source
