import PwOss.Lib.Rounding
import PwOss.Node.Format.Snap
import PwOss.Oss.Buffer
import PwOss.Oss.Channels
import PwOss.Sys.Errno

/-
  The outcome of a native configuration, from `freebsd_oss/backend.rs`, and the delivery
  quantum that it tells the node and the ring geometry by different ways.

  `configure_outcome` counts the quantum's frames at the stream's rate at once. The
  geometry of `freebsd_oss/buffer.rs` gets the quantum's duration in whole nanoseconds,
  and rounds its whole bytes up to frames: this restores the frame that the floors took,
  as long as what they drop is less than the bytes of a frame but one.

  What is proved:
    * the flags of an outcome are empty just where nothing was adjusted
    * the two quanta are whole frames, the geometry's never larger; they agree exactly
      where the remainders dropped on the way fit, and with frames of two bytes or more
      at every rate up to 500 MHz

  Correspondence (Rust ↔ Lean):
    `FORMAT_MAP`                             ↔ `formatMap`
    `stream_config_from_native`,
      `configure_outcome`,
      `advertised_quantum_cap_frames`        ↔ the same names
    `DeliveryQuantum::duration_ns`           ↔ `DeliveryQuantum.durationNs`
    `AdjustmentFlags::between`               ↔ `AdjustmentFlags.between`
-/

namespace PwOss.Backend

/-- `QuantumQuality`. -/
inductive QuantumQuality where
  | exact
  | estimated
  | variable_
  | unavailable
  deriving DecidableEq

/-- `DeliveryQuantum`: the frames that the hardware moves at a time. -/
structure DeliveryQuantum where
  frames : UInt32
  rate : UInt32
  quality : QuantumQuality
  deriving DecidableEq

/-- The product is that of two `u32`, and a `u64` holds it. -/
def DeliveryQuantum.durationNs (delivery : DeliveryQuantum) : Nat :=
  if delivery.frames = 0 ∨ delivery.rate = 0 then 0
  else delivery.frames.toNat * 1000000000 / delivery.rate.toNat

/-- `BufferConstraints`. -/
structure BufferConstraints where
  capacityLimitBytes : Option Nat
  quantumCapFrames : Option Nat
  quantumCapBasis : Option String
  deriving DecidableEq

/-- `AppliedBufferGeometry`. -/
structure AppliedBufferGeometry where
  capacityBytes : Option Nat
  quantumBytes : Option Nat
  delivery : DeliveryQuantum
  deriving DecidableEq

namespace AdjustmentFlags

def format : UInt32 := 1
def rate : UInt32 := 2
def channels : UInt32 := 4
def layout : UInt32 := 8

/-- What a backend changed of a request. -/
def between (requested applied : StreamConfig) : UInt32 :=
  (if requested.format ≠ applied.format then format else 0) |||
    (if requested.rate ≠ applied.rate then rate else 0) |||
    (if requested.channels ≠ applied.channels ∨ requested.stride ≠ applied.stride then channels
      else 0) |||
    (if requested.positions ≠ applied.positions ∨ requested.flags ≠ applied.flags then layout
      else 0)

theorem flags_eq_zero {p q r t : Prop} [Decidable p] [Decidable q] [Decidable r] [Decidable t] :
    ((if p then format else 0) ||| (if q then rate else 0) ||| (if r then channels else 0) |||
      (if t then layout else 0)) = 0 ↔ ¬ p ∧ ¬ q ∧ ¬ r ∧ ¬ t := by
  by_cases p <;> by_cases q <;> by_cases r <;> by_cases t <;>
    simp [*, format, rate, channels, layout]

/-- Nothing is flagged exactly where nothing was adjusted. -/
theorem between_eq_zero {requested applied : StreamConfig} :
    between requested applied = 0 ↔ requested = applied := by
  unfold between
  rw [flags_eq_zero]
  cases requested
  cases applied
  simp only [StreamConfig.mk.injEq]
  tauto

end AdjustmentFlags

/-- `ConfigureOutcome`. -/
structure ConfigureOutcome where
  actualConfig : StreamConfig
  appliedBuffer : AppliedBufferGeometry
  bufferConstraints : BufferConstraints
  adjusted : UInt32
  deriving DecidableEq

end PwOss.Backend

namespace PwOss.Oss

open PwOss.Backend PwOss.Sys PwOss.Rounding

/-! ## The applied configuration -/

/-- The native formats, with the SPA formats that they carry. -/
def formatMap : List (UInt32 × UInt32) :=
  [(0x00001000, 0x10b), (0x00002000, 0x10c), (0x10000000, 0x11b), (0x20000000, 0x11c),
    (0x00010000, 0x10f), (0x00020000, 0x110), (0x00000010, 0x103), (0x00000020, 0x104),
    (0x00000008, 0x102), (0x00000040, 0x101), (0x00000080, 0x105), (0x00000100, 0x106),
    (0x00040000, 0x111), (0x00080000, 0x112), (0x00004000, 0x10d), (0x00008000, 0x10e),
    (0x00000001, 0x11f), (0x00000002, 0x120)]

/-- `AppliedNativeConfig`: what the kernel answered. -/
structure AppliedNativeConfig where
  format : UInt32
  channels : UInt32
  rate : UInt32
  deriving DecidableEq

def satMulU32 (a b : UInt32) : UInt32 := .ofNat (min (a.toNat * b.toNat) (2 ^ 32 - 1))

/-- One AUX slot for each channel. -/
def auxPositions (channels : UInt32) : List UInt32 :=
  (List.range channels.toNat).map fun index => channelAux0 + .ofNat index

def streamConfigFromNative (requested : StreamConfig) (applied : AppliedNativeConfig) :
    Option StreamConfig := do
  let (_, spaFormat) ← formatMap.find? fun entry => entry.1 == applied.format
  let bytes ← Node.bytesPerSample spaFormat
  let actual : StreamConfig :=
    { requested with
      format := spaFormat
      rate := applied.rate
      channels := applied.channels
      stride := satMulU32 bytes applied.channels }
  if applied.channels = requested.channels then return actual
  else if unpositioned requested.flags then
    return { actual with positions := auxPositions applied.channels }
  else
    match channelPositions applied.channels with
    | some positions => return { actual with positions }
    | none =>
      return { actual with
        flags := actual.flags ||| 1
        positions := auxPositions applied.channels }

/-- The frames of a period that the ring holds four times, where they last less than 2048
frames at 44.1 kHz. -/
def advertisedQuantumCapFrames (scaled : Bool) (stride rate : Nat) : Option Nat :=
  let stride := max stride 1
  let frames := bufferCapacityLimit scaled stride rate / stride / 4
  if rate = 0 ∨ 2048 * rate ≤ frames * 44100 then none else some frames

/-- The quantum's bytes at the applied rate; an unavailable quantum has none. -/
def quantumBytes (delivery : DeliveryQuantum) (actual : StreamConfig) : Option Nat :=
  if delivery.frames = 0 ∨ delivery.rate = 0 then none
  else
    let product := satMul64 delivery.frames.toNat actual.rate.toNat
    let frames := (product + delivery.rate.toNat - 1) / delivery.rate.toNat
    some (min (satMul64 frames actual.stride.toNat) u32Max)

def configureOutcome (scaled : Bool) (requested : StreamConfig) (applied : AppliedNativeConfig)
    (delivery : DeliveryQuantum) : Except Errno ConfigureOutcome :=
  match streamConfigFromNative requested applied with
  | none => .error .enotsup
  | some actual =>
    .ok
      { actualConfig := actual
        appliedBuffer :=
          { capacityBytes := none, quantumBytes := quantumBytes delivery actual, delivery }
        bufferConstraints :=
          { capacityLimitBytes :=
              some (bufferCapacityLimit scaled actual.stride.toNat actual.rate.toNat)
            quantumCapFrames :=
              advertisedQuantumCapFrames scaled actual.stride.toNat actual.rate.toNat
            quantumCapBasis := some "4 periods" }
        adjusted := AdjustmentFlags.between requested actual }

/-! ## The two quanta -/

/-- What the node's and the geometry's quantum of a stream have to meet. -/
structure Agree (configured derived stride rate deliveryRate : Nat) : Prop where
  configured_dvd : stride ∣ configured
  derived_dvd : stride ∣ derived
  derived_le : derived ≤ configured
  same_rate : rate = deliveryRate → configured = derived
  other_rate : rate ≠ deliveryRate → configured ≤ derived + stride

/-- What the way through nanoseconds drops is restored: the remainder of the duration and
what the quantum lacks of whole frames leave room in the frame that rounding up gives. -/
def Recovered (frames deliveryRate rate stride : Nat) : Prop :=
  if rate = deliveryRate then
    stride * (frames * 1000000000 % deliveryRate) + 1000000000 ≤ stride * 1000000000
  else
    stride * (1000000000 * excess frames deliveryRate rate +
      frames * 1000000000 % deliveryRate * rate) + 1000000000 * deliveryRate ≤
        2 * stride * 1000000000 * deliveryRate

instance (frames deliveryRate rate stride : Nat) :
    Decidable (Recovered frames deliveryRate rate stride) :=
  inferInstanceAs (Decidable (if rate = deliveryRate then _ else _))

theorem durationNs_eq (delivery : DeliveryQuantum) :
    delivery.durationNs = ticks 1000000000 delivery.frames.toNat delivery.rate.toNat := by
  unfold DeliveryQuantum.durationNs ticks
  split
  · next h =>
    rcases h with h | h
    · simp [h]
    · simp [h]
  · rfl

/-- Nothing saturates on the way to a quantum that fits. -/
theorem quantumBytes_getD (delivery : DeliveryQuantum) (actual : StreamConfig)
    (hr : 0 < delivery.rate.toNat)
    (hfit : exactFrames delivery.frames.toNat delivery.rate.toNat actual.rate.toNat *
      actual.stride.toNat ≤ u32Max) :
    (quantumBytes delivery actual).getD 0 =
      exactFrames delivery.frames.toNat delivery.rate.toNat actual.rate.toNat *
        actual.stride.toNat := by
  unfold quantumBytes
  split
  · next h =>
    rcases h with h | h
    · simp [h, exactFrames]
    · simp [h] at hr
  · have hproduct : satMul64 delivery.frames.toNat actual.rate.toNat =
        delivery.frames.toNat * actual.rate.toNat := by
      have hlt := Nat.mul_lt_mul'' delivery.frames.toNat_lt actual.rate.toNat_lt
      unfold satMul64
      omega
    have hbytes : satMul64 (exactFrames delivery.frames.toNat delivery.rate.toNat
          actual.rate.toNat) actual.stride.toNat =
        exactFrames delivery.frames.toNat delivery.rate.toNat actual.rate.toNat *
          actual.stride.toNat := by
      unfold u32Max at hfit
      unfold satMul64
      omega
    dsimp only [Option.getD_some]
    rw [hproduct, ← Nat.ceilDiv_eq_add_pred_div]
    show min (satMul64 (exactFrames _ _ _) _) u32Max = _
    rw [hbytes, Nat.min_eq_left hfit]

theorem deliveryQuantumBytes_eq {ns rate stride : Nat} (hs : 0 < stride)
    (hfit : tickFrames 1000000000 ns rate stride * stride ≤ u32Max) :
    deliveryQuantumBytes ns rate stride = tickFrames 1000000000 ns rate stride * stride := by
  have hbytes : ns * rate * stride / 1000000000 ≤ u32Max := by
    rw [Nat.mul_comm] at hfit
    exact Nat.le_trans ((tickFrames_le_iff hs).mp (Nat.le_refl _)) hfit
  unfold deliveryQuantumBytes
  dsimp only
  rw [Nat.max_eq_left hs, Nat.min_eq_left hbytes, ← Nat.ceilDiv_eq_add_pred_div]
  exact if_pos hfit

theorem configureOutcome_quantum {scaled : Bool} {requested : StreamConfig}
    {applied : AppliedNativeConfig} {delivery : DeliveryQuantum} {outcome : ConfigureOutcome}
    (h : configureOutcome scaled requested applied delivery = .ok outcome) :
    outcome.appliedBuffer.quantumBytes = quantumBytes delivery outcome.actualConfig := by
  unfold configureOutcome at h
  split at h
  · cases h
  · cases h
    rfl

/-- At the delivery's own rate the nanoseconds have to give every frame. -/
theorem exactFrames_self_le_iff {frames rate stride : Nat} (hr : 0 < rate) (hs : 0 < stride) :
    exactFrames frames rate rate ≤
        tickFrames 1000000000 (ticks 1000000000 frames rate) rate stride ↔
      stride * (frames * 1000000000 % rate) + 1000000000 ≤ stride * 1000000000 := by
  have hwithin : exactFrames frames rate rate ≤
      tickFrames 1000000000 (ticks 1000000000 frames rate) rate stride + 0 ↔ _ :=
    exactFrames_le_iff (by decide) hr hs 0
  rw [Nat.add_zero] at hwithin
  rw [hwithin, excess_self]
  generalize frames * 1000000000 % rate = a
  have hscaled : (stride * a + 1000000000) * rate ≤ stride * 1000000000 * rate ↔
      stride * a + 1000000000 ≤ stride * 1000000000 := Nat.mul_le_mul_right_iff hr
  rw [← hscaled]
  constructor
  · intro h
    linarith
  · intro h
    linarith

/-- The two quanta agree exactly where the nanoseconds restore what they drop. -/
theorem agree_iff {frames deliveryRate rate stride : Nat} (hr : 0 < deliveryRate)
    (hs : 0 < stride) :
    Agree (exactFrames frames deliveryRate rate * stride)
        (tickFrames 1000000000 (ticks 1000000000 frames deliveryRate) rate stride * stride)
        stride rate deliveryRate ↔
      Recovered frames deliveryRate rate stride := by
  have hle : tickFrames 1000000000 (ticks 1000000000 frames deliveryRate) rate stride ≤
      exactFrames frames deliveryRate rate := tickFrames_le hr hs
  unfold Recovered
  by_cases hrate : rate = deliveryRate
  · subst hrate
    rw [if_pos rfl, ← exactFrames_self_le_iff hr hs]
    constructor
    · intro h
      exact Nat.le_of_mul_le_mul_right (h.same_rate rfl).le hs
    · intro h
      refine ⟨Nat.dvd_mul_left .., Nat.dvd_mul_left .., Nat.mul_le_mul_right _ hle, fun _ => ?_,
        fun hne => absurd rfl hne⟩
      rw [Nat.le_antisymm h hle]
  · rw [if_neg hrate, show 2 * stride = (1 + 1) * stride from rfl,
      ← exactFrames_le_iff (by decide) hr hs 1]
    constructor
    · intro h
      apply Nat.le_of_mul_le_mul_right (c := stride) _ hs
      rw [Nat.succ_mul]
      exact h.other_rate hrate
    · intro h
      refine ⟨Nat.dvd_mul_left .., Nat.dvd_mul_left .., Nat.mul_le_mul_right _ hle,
        fun heq => absurd heq hrate, fun _ => ?_⟩
      rw [← Nat.succ_mul]
      exact Nat.mul_le_mul_right _ h

/-- **The two quantum computations agree where rounding up restores what the nanoseconds
drop.**  For every delivery quantum, every configuration that the kernel applied, and a
quantum that does not saturate, the quantum of `configure_outcome` and the one that the
ring geometry derives from the duration are whole frames, equal at the delivery's own rate
and else at most one frame apart, the geometry's never larger, if and only if the two
remainders fit. -/
theorem quanta_agree_iff (scaled : Bool) (requested : StreamConfig)
    (applied : AppliedNativeConfig) (delivery : DeliveryQuantum) {outcome : ConfigureOutcome}
    (hout : configureOutcome scaled requested applied delivery = .ok outcome)
    (hr : 0 < delivery.rate.toNat) (hs : 0 < outcome.actualConfig.stride.toNat)
    (hfit : exactFrames delivery.frames.toNat delivery.rate.toNat
      outcome.actualConfig.rate.toNat * outcome.actualConfig.stride.toNat ≤ u32Max) :
    Agree (outcome.appliedBuffer.quantumBytes.getD 0)
        (deliveryQuantumBytes delivery.durationNs outcome.actualConfig.rate.toNat
          outcome.actualConfig.stride.toNat)
        outcome.actualConfig.stride.toNat outcome.actualConfig.rate.toNat
        delivery.rate.toNat ↔
      Recovered delivery.frames.toNat delivery.rate.toNat outcome.actualConfig.rate.toNat
        outcome.actualConfig.stride.toNat := by
  have hticks : tickFrames 1000000000
      (ticks 1000000000 delivery.frames.toNat delivery.rate.toNat)
      outcome.actualConfig.rate.toNat outcome.actualConfig.stride.toNat *
        outcome.actualConfig.stride.toNat ≤ u32Max :=
    Nat.le_trans (Nat.mul_le_mul_right _ (tickFrames_le hr hs)) hfit
  rw [configureOutcome_quantum hout, quantumBytes_getD _ _ hr hfit, durationNs_eq,
    deliveryQuantumBytes_eq hs hticks]
  exact agree_iff hr hs

/-- With frames of two bytes or more, rates up to 500 MHz leave the room. -/
theorem recovered_of_two_le {frames deliveryRate rate stride : Nat} (hs : 2 ≤ stride)
    (hr : 0 < deliveryRate) (hd : deliveryRate ≤ 500000000) (hrate : rate ≤ 500000000) :
    Recovered frames deliveryRate rate stride := by
  have ha := Nat.mod_lt (frames * 1000000000) hr
  have hb : excess frames deliveryRate rate < deliveryRate := Nat.mod_lt _ hr
  unfold Recovered
  generalize frames * 1000000000 % deliveryRate = a at ha ⊢
  generalize excess frames deliveryRate rate = b at hb ⊢
  split
  · nlinarith
  · have hdropped : 1000000000 * b + a * rate ≤ deliveryRate * 1500000000 := by nlinarith
    nlinarith [Nat.mul_le_mul_left stride hdropped, Nat.mul_le_mul_right deliveryRate hs]

/-- The outcome of a configuration at the request's own format, with a quantum of its rate. -/
def exactOutcome (config : StreamConfig) (frames : UInt32) (quantumBytes : Nat) :
    ConfigureOutcome where
  actualConfig := config
  appliedBuffer := ⟨none, some quantumBytes, ⟨frames, config.rate, .exact⟩⟩
  bufferConstraints := ⟨some 131072, none, some "4 periods"⟩
  adjusted := 0

/-- Stereo frames of S16 at 48 kHz. -/
def stereoRequest : StreamConfig := ⟨0x103, 48000, 2, [3, 4], 0, 4⟩

theorem quanta_agree_iff_stereo :
    DeliveryQuantum.durationNs ⟨256, 48000, .exact⟩ = 5333333 ∧
      Agree 1024 (deliveryQuantumBytes 5333333 48000 4) 4 48000 48000 := by
  have hout : configureOutcome false stereoRequest ⟨0x10, 2, 48000⟩ ⟨256, 48000, .exact⟩ =
      .ok (exactOutcome stereoRequest 256 1024) := by
    decide +kernel
  have hiff := quanta_agree_iff false stereoRequest ⟨0x10, 2, 48000⟩ ⟨256, 48000, .exact⟩ hout
    (by decide) (by decide) (by decide +kernel)
  exact ⟨by decide +kernel, hiff.mpr (by decide +kernel)⟩

/-- Mono frames of U8 at 44.1 kHz. -/
def monoRequest : StreamConfig := ⟨0x102, 44100, 1, [2], 0, 1⟩

/-- Of 1024 one-byte frames at their own rate the nanoseconds give 1023. -/
theorem quanta_differ_mono :
    configureOutcome false monoRequest ⟨0x8, 1, 44100⟩ ⟨1024, 44100, .exact⟩ =
        .ok (exactOutcome monoRequest 1024 1024) ∧
      deliveryQuantumBytes (DeliveryQuantum.durationNs ⟨1024, 44100, .exact⟩) 44100 1 = 1023 ∧
      ¬ Agree 1024 (deliveryQuantumBytes (DeliveryQuantum.durationNs ⟨1024, 44100, .exact⟩)
        44100 1) 1 44100 44100 := by
  have hlost : deliveryQuantumBytes (DeliveryQuantum.durationNs ⟨1024, 44100, .exact⟩) 44100 1 =
      1023 := by decide +kernel
  refine ⟨by decide +kernel, hlost, fun h => ?_⟩
  have hsame := h.same_rate rfl
  rw [hlost] at hsame
  cases hsame

end PwOss.Oss
