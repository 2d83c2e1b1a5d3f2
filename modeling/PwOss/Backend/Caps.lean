import Mathlib.Algebra.GroupWithZero.Nat
import PwOss.Backend.Stream

/-
  Stream capabilities, from `backend/mod.rs`: what a stream offers, and which
  concrete formats it admits.

  Correspondence (Rust ↔ Lean):
    `ChannelLayout`, `ChannelSet`, `RateSet`     ↔ the same names
    `ConfigurationFlags`                         ↔ its two bits
    `StreamConfiguration`, `StreamCaps`          ↔ the same names
    `ChannelSet::admits`, `RateSet::admits`,
      `StreamCaps::admits`                       ↔ the same names
    `conversion_for`, `preferred_configuration`,
      `configurations_in_preference_order`       ↔ the same names
-/

namespace PwOss.Backend

/-! ## SPA channel positions -/

/-- `SPA_AUDIO_CHANNEL_UNKNOWN`. -/
def channelUnknown : UInt32 := 0
/-- `SPA_AUDIO_CHANNEL_NA`. -/
def channelNa : UInt32 := 1
/-- `SPA_AUDIO_CHANNEL_AUX0`: this position and those above name no speaker. -/
def channelAux0 : UInt32 := 0x1000
/-- `SPA_AUDIO_MAX_CHANNELS`: the width of a raw format's position array. -/
def maxChannels : UInt32 := 64

/-- A position that says nothing about the speaker. -/
def opaquePosition (position : UInt32) : Bool :=
  position == channelUnknown || position == channelNa || decide (channelAux0 ≤ position)

/-! ## Capabilities -/

structure ChannelLayout where
  channels : UInt32
  /-- `none`: the backend reports a count but no positions. -/
  positions : Option (List UInt32)
  deriving DecidableEq, Repr

inductive ChannelSet where
  | discrete (layouts : List ChannelLayout)
  | range (min max : UInt32)
  deriving DecidableEq, Repr

/-- `ConfigurationFlags`. -/
structure ConfigurationFlags where
  layoutReorder : Bool := false
  opaqueLayout : Bool := false
  deriving DecidableEq, Repr

inductive RateSet where
  | discrete (rates : List UInt32)
  | range (min max : UInt32)
  deriving DecidableEq, Repr

/-- `ConversionPath`: who converts between the graph's format and the device's. -/
inductive ConversionPath where
  | none | kernel | server | library
  deriving DecidableEq, Repr

/-- `ChannelMapError`: why a backend rejects a channel map. -/
inductive ChannelMapError where
  | unsupported
  | convertlessReorder
  deriving DecidableEq, Repr

structure StreamConfiguration where
  /-- The SPA formats offered, in preference order. -/
  formats : List UInt32
  channels : ChannelSet
  rates : RateSet
  preferredRate : Option UInt32
  rateTolerance : UInt32
  conversion : ConversionPath
  flags : ConfigurationFlags
  deriving DecidableEq, Repr

structure StreamCaps where
  configurations : List StreamConfiguration
  preferred : Nat
  deriving DecidableEq, Repr

/-! ## Admission -/

/-- `u32::saturating_add`. -/
def satAddU32 (a b : UInt32) : UInt32 := .ofNat (min (a.toNat + b.toNat) (2 ^ 32 - 1))

/-- The counts from `min` to `max`, without positions. -/
def ChannelSet.layouts : ChannelSet → List ChannelLayout
  | .discrete layouts => layouts
  | .range min max =>
    (List.range' min.toNat (max.toNat + 1 - min.toNat)).map fun channels =>
      ⟨.ofNat channels, none⟩

/-- The advertised positions in a requested order. -/
def reorders (requested advertised : List UInt32) : Bool :=
  requested.length == advertised.length &&
    requested.zipIdx.all fun (position, index) =>
      !(requested.take index).contains position && advertised.contains position

def ChannelLayout.admits (layout : ChannelLayout) (channels : UInt32)
    (positions : Option (List UInt32)) (flags : ConfigurationFlags) : Bool :=
  layout.channels == channels &&
    match positions, layout.positions with
    | none, _ => true
    | some requested, none =>
      requested.length == channels.toNat && requested.all opaquePosition
    | some requested, some advertised =>
      (flags.opaqueLayout && requested.length == channels.toNat && requested.all opaquePosition) ||
        requested == advertised ||
        (flags.layoutReorder && reorders requested advertised)

def ChannelSet.admits (set : ChannelSet) (channels : UInt32) (positions : Option (List UInt32))
    (flags : ConfigurationFlags) : Bool :=
  match set with
  | .range min max => positions.isNone && decide (min ≤ channels) && decide (channels ≤ max)
  | .discrete layouts => layouts.any fun layout => layout.admits channels positions flags

def RateSet.admits (set : RateSet) (rate tolerance : UInt32) : Bool :=
  match set with
  | .discrete rates => rates.contains rate
  | .range min max =>
    decide (min ≤ satAddU32 rate tolerance) && decide (rate ≤ satAddU32 max tolerance)

/-- One configuration takes the format. -/
def StreamConfiguration.admits (configuration : StreamConfiguration) (spaFormat channels : UInt32)
    (positions : Option (List UInt32)) (rate : UInt32) : Bool :=
  configuration.formats.contains spaFormat &&
    configuration.channels.admits channels positions configuration.flags &&
    configuration.rates.admits rate configuration.rateTolerance

namespace StreamCaps

def admits (caps : StreamCaps) (spaFormat channels : UInt32) (positions : Option (List UInt32))
    (rate : UInt32) : Bool :=
  caps.configurations.any fun configuration =>
    configuration.admits spaFormat channels positions rate

def conversionFor (caps : StreamCaps) (spaFormat channels rate : UInt32) :
    Option ConversionPath :=
  (caps.configurations.find? fun configuration =>
    configuration.admits spaFormat channels none rate).map (·.conversion)

/-- The preferred index, or 0 where it is out of range. -/
def preferredIndex (caps : StreamCaps) : Nat :=
  if caps.preferred < caps.configurations.length then caps.preferred else 0

def preferredConfiguration (caps : StreamCaps) : Option StreamConfiguration :=
  caps.configurations[caps.preferredIndex]?

def configurationsInPreferenceOrder (caps : StreamCaps) : List StreamConfiguration :=
  caps.preferredConfiguration.toList ++
    (caps.configurations.zipIdx.filter fun p => p.2 != caps.preferredIndex).map (·.1)

end StreamCaps

/-! ## What is admitted -/

theorem le_satAddU32 (a b : UInt32) : a ≤ satAddU32 a b := by
  have ha := a.toNat_lt
  have hsize : min (a.toNat + b.toNat) (2 ^ 32 - 1) < UInt32.size := by
    rw [UInt32.size]
    omega
  rw [UInt32.le_iff_toNat_le, satAddU32, UInt32.toNat_ofNat_of_lt' hsize]
  omega

namespace RateSet

/-- There is a rate in the set. -/
def Usable : RateSet → Prop
  | .discrete rates => rates ≠ []
  | .range min max => min ≤ max

theorem admits_of_mem {rates : List UInt32} {rate : UInt32} (h : rate ∈ rates)
    (tolerance : UInt32) : (RateSet.discrete rates).admits rate tolerance = true :=
  List.contains_iff_mem.mpr h

/-- The tolerance only widens the range. -/
theorem admits_of_between {min max rate : UInt32} (hmin : min ≤ rate) (hmax : rate ≤ max)
    (tolerance : UInt32) : (RateSet.range min max).admits rate tolerance = true := by
  rw [admits, Bool.and_eq_true, decide_eq_true_iff, decide_eq_true_iff]
  exact ⟨UInt32.le_trans hmin (le_satAddU32 rate tolerance),
    UInt32.le_trans hmax (le_satAddU32 max tolerance)⟩

end RateSet

namespace ChannelLayout

variable {layout : ChannelLayout} {flags : ConfigurationFlags}

/-- The positions of a layout, or one AUX slot for each channel. -/
def positionsOrAux (layout : ChannelLayout) : List UInt32 :=
  layout.positions.getD
    ((List.range layout.channels.toNat).map fun i => channelAux0 + .ofNat i)

theorem aux_opaquePosition {i : Nat} (h : i < 2 ^ 32 - 0x1000) :
    opaquePosition (channelAux0 + .ofNat i) = true := by
  have hsize : i < UInt32.size := Nat.lt_of_lt_of_le h (by decide)
  have haux : channelAux0.toNat = 0x1000 := rfl
  have hle : channelAux0 ≤ channelAux0 + .ofNat i := by
    rw [UInt32.le_iff_toNat_le, UInt32.toNat_add, UInt32.toNat_ofNat_of_lt' hsize]
    omega
  rw [opaquePosition, decide_eq_true hle, Bool.or_true]

/-- A layout admits its own positions, as far as the AUX slots do not wrap. -/
theorem admits_own (h : layout.positions = none → layout.channels.toNat ≤ 2 ^ 32 - 0x1000) :
    layout.admits layout.channels (some layout.positionsOrAux) flags = true := by
  unfold admits positionsOrAux
  rw [beq_self_eq_true, Bool.true_and]
  cases hp : layout.positions with
  | some positions => simp only [Option.getD_some, beq_self_eq_true, Bool.or_true, Bool.true_or]
  | none =>
    simp only [Option.getD_none, List.length_map, List.length_range, beq_self_eq_true,
      Bool.true_and, List.all_eq_true, List.mem_map, List.mem_range]
    rintro p ⟨i, hi, rfl⟩
    exact aux_opaquePosition (by have := h hp; omega)

/-- Without positions the count decides. -/
theorem admits_unpositioned : layout.admits layout.channels none flags = true := by
  unfold admits
  rw [beq_self_eq_true, Bool.true_and]

end ChannelLayout

theorem ChannelSet.admits_of_mem {layouts : List ChannelLayout} {layout : ChannelLayout}
    (h : layout ∈ layouts) {channels : UInt32} {positions : Option (List UInt32)}
    {flags : ConfigurationFlags} (ha : layout.admits channels positions flags = true) :
    (ChannelSet.discrete layouts).admits channels positions flags = true :=
  List.any_eq_true.mpr ⟨layout, h, ha⟩

theorem StreamCaps.admits_of_mem {caps : StreamCaps} {configuration : StreamConfiguration}
    (h : configuration ∈ caps.configurations) {spaFormat channels rate : UInt32}
    {positions : Option (List UInt32)} (hf : spaFormat ∈ configuration.formats)
    (hc : configuration.channels.admits channels positions configuration.flags = true)
    (hr : configuration.rates.admits rate configuration.rateTolerance = true) :
    caps.admits spaFormat channels positions rate = true := by
  refine List.any_eq_true.mpr ⟨configuration, h, ?_⟩
  rw [StreamConfiguration.admits, List.contains_iff_mem.mpr hf, hc, hr]
  rfl

end PwOss.Backend
