import PwOss.Node.Format.Enum

/-
  A requested format against the capabilities: `snap_raw_to_caps` of
  `node/format.rs`, and the part of `set_format_param` before the device is opened.

  What is proved:
    1. `snapRawToCaps_unchanged`: a request that is not reported as changed is left as it
       was.
    2. `snapRawToCaps_eq`: the snapped request has format and rate of the nearest
       configuration, and its channels and positions where its count is another one.

  Correspondence (Rust ↔ Lean):
    `spa_audio_info_raw`             ↔ `RawFormat`
    the `min_by_key` of the snap     ↔ `nearestConfiguration`, `snapKey`
    the three steps of the snap      ↔ `snapFormat`, `snapChannels`, `snapRate`
    `snap_raw_to_caps`               ↔ `snapRawToCaps`
    `bytes_per_sample`               ↔ `bytesPerSample`
    `parse_config`                   ↔ `parseConfig`
    `set_format_param`               ↔ `setFormatParam`
-/

namespace PwOss.Node

open PwOss.Backend

/-! ## The request -/

/-- `spa_audio_info_raw`. -/
structure RawFormat where
  format : UInt32
  flags : UInt32
  rate : UInt32
  channels : UInt32
  position : Vector UInt32 64
  deriving DecidableEq, Repr

namespace RawFormat

/-- `SPA_AUDIO_FLAG_UNPOSITIONED` is clear. -/
def positioned (raw : RawFormat) : Bool := raw.flags &&& 1 == 0

/-- The first `channels` positions. -/
def channelMap (raw : RawFormat) : List UInt32 := raw.position.toList.take raw.channels.toNat

/-- The positions that the request names. -/
def positions (raw : RawFormat) : Option (List UInt32) :=
  if raw.positioned then some raw.channelMap else none

/-- The capabilities take the request as it stands. -/
def admitted (caps : StreamCaps) (raw : RawFormat) : Bool :=
  caps.admits raw.format raw.channels raw.positions raw.rate

end RawFormat

/-! ## The snap -/

/-- The order in which configurations are near a request. -/
structure SnapKey where
  formatMissing : Bool
  channelDistance : Nat
  rateDistance : Nat
  notPreferred : Bool
  deriving DecidableEq, Repr, Ord

instance : LE SnapKey := leOfOrd

instance : DecidableLE SnapKey := fun a b => inferInstanceAs (Decidable ((compare a b).isLE = true))

def channelDistance (configuration : StreamConfiguration) (raw : RawFormat) : Nat :=
  ((configuration.channels.layouts.map fun layout =>
    absDiff layout.channels raw.channels).min?).getD (2 ^ 32 - 1)

def rateDistance (configuration : StreamConfiguration) (raw : RawFormat) : Nat :=
  match configuration.rates with
  | .discrete rates => ((rates.map (absDiff · raw.rate)).min?).getD (2 ^ 32 - 1)
  | .range min max => absDiff raw.rate (clamp raw.rate min max)

def snapKey (caps : StreamCaps) (raw : RawFormat) (entry : StreamConfiguration × Nat) : SnapKey :=
  ⟨!entry.1.formats.contains raw.format, channelDistance entry.1 raw, rateDistance entry.1 raw,
    entry.2 != caps.preferred⟩

/-- The offering configuration with the least key, the first of equals. -/
def nearestConfiguration (caps : StreamCaps) (raw : RawFormat) : Option StreamConfiguration :=
  ((caps.configurations.zipIdx.filter fun entry => offers entry.1).minOn? (snapKey caps raw)).map
    (·.1)

/-- The format, and whether it changed. -/
def snapFormat (configuration : StreamConfiguration) (raw : RawFormat) : UInt32 × Bool :=
  if configuration.formats.contains raw.format then (raw.format, false)
  else
    match configuration.formats.head? with
    | some best => (best, true)
    | none => (raw.format, false)

/-- The layout with the nearest count, the first of equals. -/
def nearestLayout (configuration : StreamConfiguration) (raw : RawFormat) : Option ChannelLayout :=
  configuration.channels.layouts.minOn? fun layout => absDiff layout.channels raw.channels

/-- The slots from the first on are overwritten, as far as both go. -/
def writePositions (position : Vector UInt32 64) (values : List UInt32) : Vector UInt32 64 :=
  Vector.ofFn fun i => (values[i.val]?).getD position[i]

def snapChannels (layout : ChannelLayout) (raw : RawFormat) : RawFormat × Bool :=
  let channels := if maxChannels < layout.channels then maxChannels else layout.channels
  if channels ≠ raw.channels then
    ({ raw with
        channels := channels
        position := writePositions raw.position layout.positionsOrAux }, true)
  else (raw, false)

def nearestRate (configuration : StreamConfiguration) (raw : RawFormat) : UInt32 :=
  match configuration.rates with
  | .discrete rates => (rates.minOn? (absDiff · raw.rate)).getD raw.rate
  | .range min max => clamp raw.rate min max

/-- The snapped request, and whether it changed. -/
def snapRawToCaps (caps : StreamCaps) (raw : RawFormat) : RawFormat × Bool :=
  match nearestConfiguration caps raw with
  | none => (raw, false)
  | some configuration =>
    let (format, formatChanged) := snapFormat configuration raw
    let raw := { raw with format := format }
    match nearestLayout configuration raw with
    | none => (raw, formatChanged)
    | some layout =>
      let (raw, channelsChanged) := snapChannels layout raw
      let rate := nearestRate configuration raw
      if rate ≠ raw.rate then ({ raw with rate := rate }, true)
      else (raw, formatChanged || channelsChanged)

/-! ## The request is applied -/

/-- The bytes of a sample of the formats a stream can carry, by their SPA ids. -/
def bytesPerSample (format : UInt32) : Option UInt32 :=
  if format ∈ [0x101, 0x102, 0x11f, 0x120] then some 1
  else if format ∈ [0x103, 0x104, 0x105, 0x106] then some 2
  else if 0x10f ≤ format ∧ format ≤ 0x11a then some 3
  else if (0x107 ≤ format ∧ format ≤ 0x10e) ∨ format = 0x11b ∨ format = 0x11c then some 4
  else if format = 0x11d ∨ format = 0x11e then some 8
  else none

inductive FormatError where
  /-- `-ENOTSUP` -/
  | unsupportedFormat
  /-- `-EINVAL`, from the backend's `validate_config`. -/
  | channelMap (error : ChannelMapError)
  /-- `-EINVAL`: rejecting an out-of-caps format. -/
  | outOfCaps
  deriving DecidableEq, Repr

section Request

variable (validateConfig : StreamCaps → StreamConfig → Except ChannelMapError Unit)
  (caps : StreamCaps)

def parseConfig (raw : RawFormat) : Except FormatError StreamConfig :=
  match bytesPerSample raw.format with
  | none => .error .unsupportedFormat
  | some bytes =>
    let config : StreamConfig :=
      { format := raw.format
        rate := raw.rate
        channels := raw.channels
        positions := raw.channelMap
        flags := raw.flags
        stride := bytes * raw.channels }
    match validateConfig caps config with
    | .error error => .error (.channelMap error)
    | .ok () => .ok config

/-- The configuration to install, and whether the request was snapped. -/
def setFormatParam (nearest : Bool) (requested : RawFormat) :
    Except FormatError (StreamConfig × Bool) :=
  let admitted := (bytesPerSample requested.format).isSome && requested.admitted caps
  let (raw, snapped) :=
    if nearest && !admitted then snapRawToCaps caps requested else (requested, false)
  match parseConfig validateConfig caps raw with
  | .error error => .error error
  | .ok config => if raw.admitted caps then .ok (config, snapped) else .error .outOfCaps

end Request

/-! ## What the snap leaves -/

variable {caps : StreamCaps} {c : StreamConfiguration} {layout : ChannelLayout} {raw : RawFormat}

theorem snapFormat_unchanged (h : (snapFormat c raw).2 = false) :
    (snapFormat c raw).1 = raw.format := by
  unfold snapFormat at h ⊢
  split
  · rfl
  · next hmissing =>
    rw [if_neg hmissing] at h
    split
    · next best hbest =>
      rw [hbest] at h
      cases h
    · rfl

theorem snapChannels_unchanged (h : (snapChannels layout raw).2 = false) :
    (snapChannels layout raw).1 = raw := by
  unfold snapChannels at h ⊢
  dsimp only at h ⊢
  generalize (if maxChannels < layout.channels then maxChannels else layout.channels) = channels
    at h ⊢
  split
  · next hne =>
    rw [if_pos hne] at h
    cases h
  · rfl

/-- A request that is not reported as changed is left as it was. -/
theorem snapRawToCaps_unchanged (h : (snapRawToCaps caps raw).2 = false) :
    (snapRawToCaps caps raw).1 = raw := by
  unfold snapRawToCaps at h ⊢
  cases hc : nearestConfiguration caps raw with
  | none => rfl
  | some c =>
    rw [hc] at h
    dsimp only at h ⊢
    cases hl : nearestLayout c { raw with format := (snapFormat c raw).1 } with
    | none =>
      rw [hl] at h
      dsimp only at h ⊢
      rw [snapFormat_unchanged h]
    | some layout =>
      rw [hl] at h
      dsimp only at h ⊢
      split
      · next hrate =>
        rw [if_pos hrate] at h
        cases h
      · next hrate =>
        rw [if_neg hrate] at h
        obtain ⟨hformat, hchannels⟩ := Bool.or_eq_false_iff.mp h
        dsimp only at hchannels ⊢
        rw [snapChannels_unchanged hchannels, snapFormat_unchanged hformat]

theorem writePositions_take {position : Vector UInt32 64} {values : List UInt32}
    (h : values.length ≤ 64) :
    (writePositions position values).toList.take values.length = values := by
  refine List.ext_getElem? fun i => ?_
  rw [List.getElem?_take]
  split
  · next hi =>
    have hlt : i < 64 := by omega
    rw [Vector.getElem?_toList, Vector.getElem?_eq_getElem hlt, writePositions, Vector.getElem_ofFn]
    rw [List.getElem?_eq_getElem hi]
    rfl
  · next hi => rw [List.getElem?_eq_none (by omega)]

/-- The capabilities of a device: some configuration offers a format, and all list
layouts of 1 to 64 channels and have a rate. -/
structure Snappable (caps : StreamCaps) : Prop where
  offering : ∃ c ∈ caps.configurations, c.formats ≠ []
  layouts : ∀ c ∈ caps.configurations, ∃ layouts, c.channels = .discrete layouts ∧ layouts ≠ [] ∧
    ∀ layout ∈ layouts, 1 ≤ layout.channels.toNat ∧ layout.channels.toNat ≤ 64 ∧
      ∀ positions, layout.positions = some positions → positions.length = layout.channels.toNat
  rates : ∀ c ∈ caps.configurations, c.rates.Usable

theorem Snappable.nearest (h : Snappable caps) (raw : RawFormat) :
    ∃ c, nearestConfiguration caps raw = some c := by
  obtain ⟨c, hc, hf⟩ := h.offering
  obtain ⟨i, hi⟩ := List.getElem?_of_mem hc
  have hmem : (c, i) ∈ caps.configurations.zipIdx.filter fun entry => offers entry.1 := by
    refine List.mem_filter.mpr ⟨List.mk_mem_zipIdx_iff_getElem?.mpr hi, ?_⟩
    rw [offers, List.isEmpty_eq_false_iff.mpr hf]
    rfl
  obtain ⟨entry, hentry⟩ := Option.isSome_iff_exists.mp
    (List.isSome_minOn?_of_mem (f := snapKey caps raw) hmem)
  exact ⟨entry.1, by rw [nearestConfiguration, hentry]; rfl⟩

theorem nearestConfiguration_mem (h : nearestConfiguration caps raw = some c) :
    c ∈ caps.configurations ∧ c.formats ≠ [] := by
  obtain ⟨⟨c', i⟩, hentry, rfl⟩ := Option.map_eq_some_iff.mp h
  obtain ⟨hmem, hoffers⟩ := List.mem_filter.mp (List.minOn?_mem hentry)
  refine ⟨List.mem_of_getElem? (List.mk_mem_zipIdx_iff_getElem?.mp hmem), ?_⟩
  simpa only [offers, Bool.not_eq_true', List.isEmpty_eq_false_iff] using hoffers

theorem snapFormat_mem (h : c.formats ≠ []) : (snapFormat c raw).1 ∈ c.formats := by
  unfold snapFormat
  split
  · next hmem => exact List.contains_iff_mem.mp hmem
  · rw [List.head?_eq_some_head h]
    exact List.head_mem h

theorem nearestRate_admits (h : c.rates.Usable) :
    c.rates.admits (nearestRate c raw) c.rateTolerance = true := by
  unfold nearestRate
  cases hr : c.rates with
  | discrete rates =>
    rw [hr] at h
    obtain ⟨rate, hrate⟩ := Option.isSome_iff_exists.mp
      (List.isSome_minOn?_iff (f := (absDiff · raw.rate)).mpr h)
    dsimp only
    rw [hrate]
    exact RateSet.admits_of_mem (List.minOn?_mem hrate) _
  | range min max =>
    rw [hr] at h
    have hbetween := clamp_between raw.rate h
    exact RateSet.admits_of_between hbetween.1 hbetween.2 _

theorem absDiff_eq_zero {a b : UInt32} : absDiff a b = 0 ↔ a = b := by
  rw [← UInt32.toNat_inj]
  unfold absDiff
  omega

/-- A layout of the requested count is taken where there is one. -/
theorem nearestLayout_channels {layouts : List ChannelLayout} (hc : c.channels = .discrete layouts)
    (h : nearestLayout c raw = some layout)
    (hmem : ∃ l ∈ layouts, l.channels = raw.channels) : layout.channels = raw.channels := by
  unfold nearestLayout at h
  rw [hc] at h
  obtain ⟨l, hl, heq⟩ := hmem
  have hle := List.apply_get_minOn?_le_of_mem (f := fun layout : ChannelLayout =>
    absDiff layout.channels raw.channels) hl
  simp only [ChannelSet.layouts] at h
  simp only [h, Option.get_some, absDiff_eq_zero.mpr heq] at hle
  exact absDiff_eq_zero.mp (Nat.le_zero.mp hle)

/-- The snapped request: format and rate of the nearest configuration, the channels
and positions as `snapChannels` leaves them. -/
theorem snapRawToCaps_eq (hn : nearestConfiguration caps raw = some c)
    (hl : nearestLayout c raw = some layout) :
    (snapRawToCaps caps raw).1 =
      { (snapChannels layout raw).1 with
        format := (snapFormat c raw).1
        rate := nearestRate c raw } := by
  have hlayout : nearestLayout c { raw with format := (snapFormat c raw).1 } = some layout := hl
  unfold snapRawToCaps
  rw [hn]
  dsimp only
  rw [hlayout]
  dsimp only
  unfold snapChannels
  dsimp only
  generalize (if maxChannels < layout.channels then maxChannels else layout.channels) = channels
  by_cases hch : channels ≠ raw.channels
  · simp only [if_pos hch]
    have hrate : nearestRate c
        { raw with
          format := (snapFormat c raw).1
          channels := channels
          position := writePositions raw.position layout.positionsOrAux } = nearestRate c raw := rfl
    rw [hrate]
    split
    · rfl
    · next heq => rw [Decidable.not_not.mp heq]
  · simp only [if_neg hch]
    have hrate : nearestRate c { raw with format := (snapFormat c raw).1 } =
        nearestRate c raw := rfl
    rw [hrate]
    split
    · rfl
    · next heq => rw [Decidable.not_not.mp heq]

theorem snapChannels_same (h : layout.channels.toNat ≤ 64) (heq : layout.channels = raw.channels) :
    (snapChannels layout raw).1 = raw := by
  have hle : ¬ maxChannels < layout.channels := by
    rw [UInt32.lt_iff_toNat_lt]
    exact Nat.not_lt.mpr h
  unfold snapChannels
  dsimp only
  rw [if_neg hle, if_neg (fun hne => hne heq)]

/-- A new channel count brings the positions of its layout. -/
theorem snapChannels_moved (h : layout.channels.toNat ≤ 64) (hne : layout.channels ≠ raw.channels) :
    (snapChannels layout raw).1 =
      { raw with
        channels := layout.channels
        position := writePositions raw.position layout.positionsOrAux } := by
  have hle : ¬ maxChannels < layout.channels := by
    rw [UInt32.lt_iff_toNat_lt]
    exact Nat.not_lt.mpr h
  unfold snapChannels
  dsimp only
  rw [if_neg hle, if_pos hne]

theorem positionsOrAux_length (h : ∀ positions, layout.positions = some positions →
    positions.length = layout.channels.toNat) :
    layout.positionsOrAux.length = layout.channels.toNat := by
  unfold ChannelLayout.positionsOrAux
  cases hp : layout.positions with
  | none => rw [Option.getD_none, List.length_map, List.length_range]
  | some positions => exact h positions hp

theorem admits_iff {spaFormat channels rate : UInt32} {positions : Option (List UInt32)} :
    caps.admits spaFormat channels positions rate = true ↔
      ∃ c ∈ caps.configurations, spaFormat ∈ c.formats ∧
        c.channels.admits channels positions c.flags = true ∧
        c.rates.admits rate c.rateTolerance = true := by
  simp only [StreamCaps.admits, StreamConfiguration.admits, List.any_eq_true, Bool.and_eq_true,
    List.contains_iff_mem, and_assoc]

/-! ## The request outside the capabilities -/

/-- Only the last check compares the request with the capabilities. -/
theorem parseConfig_ne (validateConfig : StreamCaps → StreamConfig → Except ChannelMapError Unit)
    (caps : StreamCaps) (raw : RawFormat) :
    parseConfig validateConfig caps raw ≠ .error .outOfCaps := by
  unfold parseConfig
  split
  · exact nofun
  · dsimp only
    split
    · exact nofun
    · exact nofun

end PwOss.Node
