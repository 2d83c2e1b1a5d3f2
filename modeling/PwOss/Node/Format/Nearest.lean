import PwOss.Lib.Least
import PwOss.Node.Format.Snap

/-
  Which requests a snap leads into the capabilities.

  A request that names positions keeps them where the configuration that it is snapped to
  has a layout of its channel count, so such a request is taken only if its positions are
  (`SnapsInto`). Every other request outside the capabilities is taken once snapped.

  What is proved:
    1. `nearestConfiguration_selected`: the configuration of the least key is the one that
       is selected by the format, the count, the rate, the preference and the order of the
       capabilities, in turn.
    2. `snap_nearest_admitted`: a snap leads into the capabilities exactly where `SnapsInto`
       holds of the request.
    3. `snap_nearest_rejected`: two channels in other places are rejected.
-/

namespace PwOss.Node

open PwOss.Backend PwOss.Least

variable {caps : StreamCaps} {c : StreamConfiguration} {layout : ChannelLayout} {raw : RawFormat}

/-! ## The configuration of a request -/

/-- A rate of the set. -/
def Offered (rates : RateSet) (rate : UInt32) : Prop :=
  match rates with
  | .discrete rates => rate ∈ rates
  | .range min max => min ≤ rate ∧ rate ≤ max

/-- A configuration with a layout of the requested count. It offers a format, and the
requested one if any configuration does. -/
structure Fits (caps : StreamCaps) (raw : RawFormat) (c : StreamConfiguration) : Prop where
  mem : c ∈ caps.configurations
  offering : c.formats ≠ []
  format : (∃ c' ∈ caps.configurations, raw.format ∈ c'.formats) → raw.format ∈ c.formats
  count : ∃ layout ∈ c.channels.layouts, layout.channels = raw.channels

/-- Of the configurations that fit, one with a rate as near as any. -/
structure Close (caps : StreamCaps) (raw : RawFormat) (c : StreamConfiguration) : Prop extends
    Fits caps raw c where
  rate : ∃ rate, Offered c.rates rate ∧ ∀ c', Fits caps raw c' → ∀ rate', Offered c'.rates rate' →
    absDiff rate raw.rate ≤ absDiff rate' raw.rate

/-- Of the close configurations the preferred one, or else the first. -/
def Selected (caps : StreamCaps) (raw : RawFormat) (c : StreamConfiguration) : Prop :=
  ∃ i, caps.configurations[i]? = some c ∧ Close caps raw c ∧
    ∀ j c', caps.configurations[j]? = some c' → Close caps raw c' →
      i = caps.preferred ∨ (j ≠ caps.preferred ∧ i ≤ j)

/-! ## When the snap leads into the capabilities -/

/-- A configuration takes the requested positions, at the requested count. -/
def TakesPositions (c : StreamConfiguration) (raw : RawFormat) : Prop :=
  c.channels.admits raw.channels (some raw.channelMap) c.flags = true

/-- The requested format, or the first of a configuration that does not have it. -/
def Replacement (c : StreamConfiguration) (raw : RawFormat) (format : UInt32) : Prop :=
  (raw.format ∈ c.formats ∧ format = raw.format) ∨
    (raw.format ∉ c.formats ∧ c.formats.head? = some format)

/-- The rate of a set that is nearest to a request, the first of equals in a list. -/
def NearestOffer (rates : RateSet) (request rate : UInt32) : Prop :=
  match rates with
  | .discrete rates => FirstLeast (absDiff · request) rates rate
  | .range min max =>
    min ≤ rate ∧ rate ≤ max ∧ ∀ r, min ≤ r → r ≤ max → absDiff rate request ≤ absDiff r request

/-- When the snap leads into the capabilities: the request names no positions, or no
configuration fits its count, or the selected one takes its positions, or another one does
and has the format and the rate that the selected one replaces those of the request by. -/
def SnapsInto (caps : StreamCaps) (raw : RawFormat) : Prop :=
  raw.positioned = false ∨ (∀ c, ¬ Fits caps raw c) ∨ ∃ c, Selected caps raw c ∧
    (TakesPositions c raw ∨ ∃ c' ∈ caps.configurations, TakesPositions c' raw ∧
      (∃ format ∈ c'.formats, Replacement c raw format) ∧
      ∃ rate, NearestOffer c.rates raw.rate rate ∧ c'.rates.admits rate c'.rateTolerance = true)

/-! ## The order of the keys -/

/-- What decides between two numbers first, and then something else. -/
theorem isLE_compare_then (a b : Nat) (rest : Ordering) :
    ((compare a b).then rest).isLE = true ↔ a < b ∨ a = b ∧ rest.isLE = true := by
  rcases Nat.lt_trichotomy a b with h | rfl | h
  · rw [Nat.compare_eq_lt.mpr h]
    exact iff_of_true rfl (.inl h)
  · rw [Nat.compare_eq_eq.mpr rfl]
    simp
  · rw [Nat.compare_eq_gt.mpr h]
    exact iff_of_false Bool.false_ne_true (by omega)

theorem compare_toNat (a b : Bool) : compare a b = compare a.toNat b.toNat := by
  cases a <;> cases b <;> rfl

namespace SnapKey

theorem le_iff (a b : SnapKey) : a ≤ b ↔
    a.formatMissing.toNat < b.formatMissing.toNat ∨
      a.formatMissing.toNat = b.formatMissing.toNat ∧
        (a.channelDistance < b.channelDistance ∨ a.channelDistance = b.channelDistance ∧
          (a.rateDistance < b.rateDistance ∨ a.rateDistance = b.rateDistance ∧
            a.notPreferred.toNat ≤ b.notPreferred.toNat)) := by
  obtain ⟨fa, ca, ra, pa⟩ := a
  obtain ⟨fb, cb, rb, pb⟩ := b
  have hcompare : compare (SnapKey.mk fa ca ra pa) (SnapKey.mk fb cb rb pb) =
      (compare fa fb).then
        ((compare ca cb).then ((compare ra rb).then ((compare pa pb).then .eq))) :=
    rfl
  show (compare (SnapKey.mk fa ca ra pa) (SnapKey.mk fb cb rb pb)).isLE = true ↔ _
  rw [hcompare, compare_toNat, compare_toNat, isLE_compare_then, isLE_compare_then,
    isLE_compare_then, isLE_compare_then, Nat.le_iff_lt_or_eq]
  simp

instance : Std.IsLinearPreorder SnapKey where
  le_refl a := by
    rw [le_iff]
    omega
  le_trans a b c := by
    rw [le_iff, le_iff, le_iff]
    omega
  le_total a b := by
    rw [le_iff, le_iff]
    omega

end SnapKey

/-! ## Distances -/

theorem channelDistance_eq_zero :
    channelDistance c raw = 0 ↔ ∃ layout ∈ c.channels.layouts, layout.channels = raw.channels := by
  unfold channelDistance
  cases hmin : (c.channels.layouts.map fun layout => absDiff layout.channels raw.channels).min? with
  | none =>
    rw [List.min?_eq_none_iff, List.map_eq_nil_iff] at hmin
    rw [hmin]
    simp
  | some least =>
    obtain ⟨hmem, hleast⟩ := List.min?_eq_some_iff.mp hmin
    obtain ⟨nearest, hnearest, rfl⟩ := List.mem_map.mp hmem
    rw [Option.getD_some]
    constructor
    · exact fun hzero => ⟨nearest, hnearest, absDiff_eq_zero.mp hzero⟩
    · rintro ⟨layout, hlayout, heq⟩
      have hle := hleast _ (List.mem_map_of_mem hlayout)
      rw [absDiff_eq_zero.mpr heq] at hle
      exact Nat.le_zero.mp hle

theorem absDiff_comm (a b : UInt32) : absDiff a b = absDiff b a := Nat.add_comm _ _

/-- No value between the bounds is nearer than the clamped one. -/
theorem absDiff_clamp_le {min max r : UInt32} (value : UInt32) (hmin : min ≤ r) (hmax : r ≤ max) :
    absDiff (clamp value min max) value ≤ absDiff r value := by
  rw [UInt32.le_iff_toNat_le] at hmin hmax
  unfold clamp absDiff
  split
  · next hlt =>
    rw [UInt32.lt_iff_toNat_lt] at hlt
    omega
  split
  · next hgt =>
    rw [UInt32.lt_iff_toNat_lt] at hgt
    omega
  · omega

theorem nearestRate_nearest (h : c.rates.Usable) (raw : RawFormat) :
    NearestOffer c.rates raw.rate (nearestRate c raw) := by
  unfold NearestOffer nearestRate
  cases hr : c.rates with
  | discrete rates =>
    rw [hr] at h
    obtain ⟨rate, hrate⟩ := Option.isSome_iff_exists.mp
      (List.isSome_minOn?_iff (f := (absDiff · raw.rate)).mpr h)
    dsimp only
    rw [hrate]
    exact firstLeast_of_minOn? hrate
  | range min max =>
    rw [hr] at h
    obtain ⟨hmin, hmax⟩ := clamp_between raw.rate h
    exact ⟨hmin, hmax, fun r => absDiff_clamp_le raw.rate⟩

theorem NearestOffer.offered {rates : RateSet} {request rate : UInt32}
    (h : NearestOffer rates request rate) : Offered rates rate := by
  cases rates with
  | discrete rates => exact FirstLeast.mem h
  | range min max => exact ⟨h.1, h.2.1⟩

theorem NearestOffer.le {rates : RateSet} {request rate rate' : UInt32}
    (h : NearestOffer rates request rate) (h' : Offered rates rate') :
    absDiff rate request ≤ absDiff rate' request := by
  cases rates with
  | discrete rates => exact FirstLeast.le h h'
  | range min max => exact h.2.2 rate' h'.1 h'.2

/-- A set has one nearest rate. -/
theorem NearestOffer.unique {rates : RateSet} {request rate rate' : UInt32}
    (h : NearestOffer rates request rate) (h' : NearestOffer rates request rate') :
    rate = rate' := by
  have heq : absDiff rate request = absDiff rate' request :=
    Nat.le_antisymm (h.le h'.offered) (h'.le h.offered)
  cases rates with
  | discrete rates => exact FirstLeast.unique h h'
  | range min max =>
    obtain ⟨hmin, hmax, hleast⟩ := h
    obtain ⟨hmin', hmax', -⟩ := h'
    -- between two rates at one distance lies the request, which is in the range
    have hbetween := fun hlow hhigh => hleast request hlow hhigh
    rw [absDiff_eq_zero.mpr rfl, UInt32.le_iff_toNat_le, UInt32.le_iff_toNat_le] at hbetween
    rw [UInt32.le_iff_toNat_le] at hmin hmax hmin' hmax'
    rw [← UInt32.toNat_inj]
    unfold absDiff at heq hbetween
    omega

theorem rateDistance_eq (h : c.rates.Usable) :
    rateDistance c raw = absDiff (nearestRate c raw) raw.rate := by
  unfold rateDistance nearestRate
  cases hr : c.rates with
  | discrete rates =>
    rw [hr] at h
    obtain ⟨rate, hrate⟩ := Option.isSome_iff_exists.mp
      (List.isSome_minOn?_iff (f := (absDiff · raw.rate)).mpr h)
    have hleast := firstLeast_of_minOn? hrate
    have hmin : (rates.map (absDiff · raw.rate)).min? = some (absDiff rate raw.rate) := by
      refine List.min?_eq_some_iff.mpr ⟨List.mem_map_of_mem hleast.mem, fun distance hd => ?_⟩
      obtain ⟨rate', hrate', rfl⟩ := List.mem_map.mp hd
      exact hleast.le hrate'
    dsimp only
    rw [hmin, hrate]
    rfl
  | range min max => exact absDiff_comm _ _

theorem snapFormat_replacement (h : c.formats ≠ []) : Replacement c raw (snapFormat c raw).1 := by
  unfold snapFormat
  by_cases hmem : raw.format ∈ c.formats
  · rw [if_pos (List.contains_iff_mem.mpr hmem)]
    exact .inl ⟨hmem, rfl⟩
  · rw [if_neg fun hc => hmem (List.contains_iff_mem.mp hc), List.head?_eq_some_head h]
    exact .inr ⟨hmem, List.head?_eq_some_head h⟩

theorem Replacement.unique {format format' : UInt32} (h : Replacement c raw format)
    (h' : Replacement c raw format') : format = format' := by
  rcases h with ⟨hmem, rfl⟩ | ⟨hmem, hhead⟩ <;> rcases h' with ⟨hmem', rfl⟩ | ⟨hmem', hhead'⟩
  · rfl
  · exact absurd hmem hmem'
  · exact absurd hmem' hmem
  · exact Option.some.inj (hhead.symm.trans hhead')

/-! ## The configuration of the least key is the selected one -/

/-- The configurations that offer a format, with their places. -/
theorem mem_offering {i : Nat} :
    (c, i) ∈ caps.configurations.zipIdx.filter (fun entry => offers entry.1) ↔
      caps.configurations[i]? = some c ∧ c.formats ≠ [] := by
  rw [List.mem_filter, List.mk_mem_zipIdx_iff_getElem?]
  simp only [offers, Bool.not_eq_true', List.isEmpty_eq_false_iff]

theorem offering_ordered (caps : StreamCaps) :
    (caps.configurations.zipIdx.filter fun entry => offers entry.1).Pairwise
      fun entry entry' => entry.2 < entry'.2 := by
  refine List.Pairwise.filter _ (List.pairwise_map.mp ?_)
  rw [List.zipIdx_map_snd]
  exact List.pairwise_lt_range'

/-- `c` at the place `i` has the least key, and is the first of equals. -/
def HasLeastKey (caps : StreamCaps) (raw : RawFormat) (c : StreamConfiguration) (i : Nat) : Prop :=
  FirstLeast (snapKey caps raw) (caps.configurations.zipIdx.filter fun entry => offers entry.1)
    (c, i)

theorem nearestConfiguration_least (h : nearestConfiguration caps raw = some c) :
    ∃ i, HasLeastKey caps raw c i := by
  obtain ⟨⟨c', i⟩, hentry, rfl⟩ := Option.map_eq_some_iff.mp h
  exact ⟨i, firstLeast_of_minOn? hentry⟩

theorem Fits.entry (h : Fits caps raw c) :
    ∃ i, (c, i) ∈ caps.configurations.zipIdx.filter (fun entry => offers entry.1) := by
  obtain ⟨i, hi⟩ := List.getElem?_of_mem h.mem
  exact ⟨i, mem_offering.mpr ⟨hi, h.offering⟩⟩

theorem Fits.format_iff (h : Fits caps raw c) :
    raw.format ∈ c.formats ↔ ∃ c' ∈ caps.configurations, raw.format ∈ c'.formats :=
  ⟨fun hmem => ⟨c, h.mem, hmem⟩, h.format⟩

/-- Between configurations that fit, the rate decides, and then the preference. -/
theorem snapKey_le_iff {c' : StreamConfiguration} (h : Fits caps raw c) (h' : Fits caps raw c')
    (i j : Nat) : snapKey caps raw (c, i) ≤ snapKey caps raw (c', j) ↔
      rateDistance c raw < rateDistance c' raw ∨ rateDistance c raw = rateDistance c' raw ∧
        (i != caps.preferred).toNat ≤ (j != caps.preferred).toNat := by
  have hformat : c.formats.contains raw.format = c'.formats.contains raw.format := by
    rw [Bool.eq_iff_iff, List.contains_iff_mem, List.contains_iff_mem, h.format_iff, h'.format_iff]
  have hcount := channelDistance_eq_zero.mpr h.count
  have hcount' := channelDistance_eq_zero.mpr h'.count
  rw [SnapKey.le_iff]
  unfold snapKey
  rw [hformat, hcount, hcount']
  dsimp only
  omega

namespace HasLeastKey

variable {i : Nat}

theorem entry (h : HasLeastKey caps raw c i) :
    caps.configurations[i]? = some c ∧ c.formats ≠ [] :=
  mem_offering.mp (FirstLeast.mem h)

theorem format (h : HasLeastKey caps raw c i)
    (hoffered : ∃ c' ∈ caps.configurations, raw.format ∈ c'.formats) : raw.format ∈ c.formats := by
  obtain ⟨c', hmem, hformat⟩ := hoffered
  obtain ⟨j, hj⟩ := List.getElem?_of_mem hmem
  have hle : snapKey caps raw (c, i) ≤ snapKey caps raw (c', j) :=
    FirstLeast.le h (mem_offering.mpr ⟨hj, List.ne_nil_of_mem hformat⟩)
  by_contra hmissing
  rw [SnapKey.le_iff] at hle
  simp [snapKey, hformat, hmissing] at hle

/-- It has the requested count if any configuration that fits does. -/
theorem count (h : HasLeastKey caps raw c i) (hfits : ∃ c', Fits caps raw c') :
    ∃ layout ∈ c.channels.layouts, layout.channels = raw.channels := by
  obtain ⟨c', hc'⟩ := hfits
  obtain ⟨j, hj⟩ := hc'.entry
  have hle : snapKey caps raw (c, i) ≤ snapKey caps raw (c', j) := FirstLeast.le h hj
  have hformat : c.formats.contains raw.format = c'.formats.contains raw.format := by
    rw [Bool.eq_iff_iff, List.contains_iff_mem, List.contains_iff_mem, hc'.format_iff]
    exact ⟨fun hmem => ⟨c, List.mem_of_getElem? h.entry.1, hmem⟩, h.format⟩
  have hcount' := channelDistance_eq_zero.mpr hc'.count
  rw [SnapKey.le_iff] at hle
  unfold snapKey at hle
  rw [hformat, hcount'] at hle
  dsimp only at hle
  exact channelDistance_eq_zero.mp (by omega)

theorem fits (h : HasLeastKey caps raw c i)
    (hcount : ∃ layout ∈ c.channels.layouts, layout.channels = raw.channels) : Fits caps raw c :=
  ⟨List.mem_of_getElem? h.entry.1, h.entry.2, h.format, hcount⟩

theorem close (hs : Snappable caps) (h : HasLeastKey caps raw c i) (hc : Fits caps raw c) :
    Close caps raw c := by
  have hnearest := nearestRate_nearest (hs.rates c hc.mem) raw
  refine ⟨hc, nearestRate c raw, hnearest.offered, fun c' hc' rate' hoffered => ?_⟩
  obtain ⟨j, hj⟩ := hc'.entry
  have hle := (snapKey_le_iff hc hc' i j).mp (FirstLeast.le h hj)
  have hother := (nearestRate_nearest (hs.rates c' hc'.mem) raw).le hoffered
  rw [rateDistance_eq (hs.rates c hc.mem), rateDistance_eq (hs.rates c' hc'.mem)] at hle
  omega

end HasLeastKey

/-- A close configuration is as near in rate as any that fits. -/
theorem Close.rateDistance_le (hs : Snappable caps) {c' : StreamConfiguration}
    (h : Close caps raw c) (h' : Fits caps raw c') : rateDistance c raw ≤ rateDistance c' raw := by
  obtain ⟨rate, hoffered, hleast⟩ := h.rate
  have hnearest := (nearestRate_nearest (hs.rates c h.mem) raw).le hoffered
  have hother := hleast c' h' _ (nearestRate_nearest (hs.rates c' h'.mem) raw).offered
  rw [rateDistance_eq (hs.rates c h.mem), rateDistance_eq (hs.rates c' h'.mem)]
  exact Nat.le_trans hnearest hother

/-- The nearest configuration is selected, if it has the requested count. -/
theorem nearestConfiguration_selected (hs : Snappable caps)
    (h : nearestConfiguration caps raw = some c)
    (hcount : ∃ layout ∈ c.channels.layouts, layout.channels = raw.channels) :
    Selected caps raw c := by
  obtain ⟨i, hleast⟩ := nearestConfiguration_least h
  have hc := hleast.fits hcount
  have hclose := hleast.close hs hc
  refine ⟨i, hleast.entry.1, hclose, fun j c' hj hc' => ?_⟩
  have hrate : rateDistance c raw = rateDistance c' raw :=
    Nat.le_antisymm (hclose.rateDistance_le hs hc'.toFits) (hc'.rateDistance_le hs hc)
  have hentry := mem_offering.mpr ⟨hj, hc'.offering⟩
  rcases FirstLeast.trichotomy (offering_ordered caps) hleast hentry with
    heq | ⟨hlt, hnot⟩ | ⟨hlt, hle⟩
  · obtain ⟨-, rfl⟩ := Prod.mk.inj heq
    by_cases hpreferred : j = caps.preferred
    · exact .inl hpreferred
    · exact .inr ⟨hpreferred, Nat.le_refl j⟩
  · -- an earlier one is not preferred, and the nearest one is
    rw [snapKey_le_iff hc'.toFits hc, hrate] at hnot
    refine .inl (Decidable.byContradiction fun hpreferred => ?_)
    have hj := Bool.toNat_le (j != caps.preferred)
    have hi : (i != caps.preferred).toNat = 1 := by rw [bne_iff_ne.mpr hpreferred]; rfl
    omega
  · rw [snapKey_le_iff hc hc'.toFits, hrate] at hle
    by_cases hpreferred : i = caps.preferred
    · exact .inl hpreferred
    refine .inr ⟨?_, Nat.le_of_lt hlt⟩
    rintro rfl
    have hi : (i != caps.preferred).toNat = 1 := by rw [bne_iff_ne.mpr hpreferred]; rfl
    rw [bne_self_eq_false, hi] at hle
    exact absurd hle (by simp)

/-- One configuration is selected. -/
theorem Selected.unique {c' : StreamConfiguration} (h : Selected caps raw c)
    (h' : Selected caps raw c') : c = c' := by
  obtain ⟨i, hi, hclose, hfirst⟩ := h
  obtain ⟨j, hj, hclose', hfirst'⟩ := h'
  have hij : i = j := by
    rcases hfirst j c' hj hclose' with hp | ⟨hp, hle⟩ <;>
      rcases hfirst' i c hi hclose with hp' | ⟨hp', hle'⟩
    · exact hp.trans hp'.symm
    · exact absurd hp hp'
    · exact absurd hp' hp
    · exact Nat.le_antisymm hle hle'
  subst hij
  exact Option.some.inj (hi.symm.trans hj)

/-! ## The snapped request -/

/-- A configuration takes its own layout. -/
theorem moved_admitted {layouts : List ChannelLayout} (hc : c ∈ caps.configurations)
    (hlayouts : c.channels = .discrete layouts) (hmem : layout ∈ layouts)
    (hmax : layout.channels.toNat ≤ 64)
    (hlength : ∀ positions, layout.positions = some positions →
      positions.length = layout.channels.toNat)
    (hformat : raw.format ∈ c.formats) (hchannels : raw.channels = layout.channels)
    {position : Vector UInt32 64}
    (hposition : raw.position = writePositions position layout.positionsOrAux)
    (hrate : c.rates.admits raw.rate c.rateTolerance = true) : raw.admitted caps = true := by
  have haux : layout.positions = none → layout.channels.toNat ≤ 2 ^ 32 - 0x1000 :=
    fun _ => Nat.le_trans hmax (by decide)
  have hlen := positionsOrAux_length hlength
  have hmap : raw.channelMap = layout.positionsOrAux := by
    unfold RawFormat.channelMap
    rw [hchannels, hposition, ← hlen]
    exact writePositions_take (by omega)
  refine StreamCaps.admits_of_mem hc hformat ?_ hrate
  rw [hlayouts, hchannels]
  unfold RawFormat.positions
  rw [hmap]
  split
  · exact ChannelSet.admits_of_mem hmem (ChannelLayout.admits_own haux)
  · exact ChannelSet.admits_of_mem hmem ChannelLayout.admits_unpositioned

/-- Positions that a kept count keeps: some configuration has to take them, with what the
selected one replaces. -/
theorem kept_admitted (hs : Snappable caps) (hn : nearestConfiguration caps raw = some c)
    (hcount : ∃ layout ∈ c.channels.layouts, layout.channels = raw.channels)
    (hpositioned : raw.positioned = true) :
    caps.admits (snapFormat c raw).1 raw.channels (some raw.channelMap) (nearestRate c raw) = true ↔
      SnapsInto caps raw := by
  obtain ⟨hc, hf⟩ := nearestConfiguration_mem hn
  have hselected := nearestConfiguration_selected hs hn hcount
  have hformat : Replacement c raw (snapFormat c raw).1 := snapFormat_replacement hf
  have hrate := nearestRate_nearest (hs.rates c hc) raw
  constructor
  · intro hadmitted
    obtain ⟨c', hc', hformat', htakes, hrate'⟩ := admits_iff.mp hadmitted
    have hother : ∃ format ∈ c'.formats, Replacement c raw format := ⟨_, hformat', hformat⟩
    exact .inr (.inr ⟨c, hselected, .inr ⟨c', hc', htakes, hother, _, hrate, hrate'⟩⟩)
  · rintro (hun | hnone | ⟨c₁, hselected₁, htakes⟩)
    · rw [hpositioned] at hun
      cases hun
    · obtain ⟨i, hleast⟩ := nearestConfiguration_least hn
      exact absurd (hleast.fits hcount) (hnone c)
    · obtain rfl := hselected₁.unique hselected
      rcases htakes with htakes | ⟨c', hc', htakes, ⟨format, hoffers, hreplaces⟩, hrates⟩
      · have hadmits : c₁.rates.admits (nearestRate c₁ raw) c₁.rateTolerance = true :=
          nearestRate_admits (hs.rates c₁ hc)
        exact StreamCaps.admits_of_mem hc (snapFormat_mem hf) htakes hadmits
      · obtain ⟨rate, hnearest, hadmits⟩ := hrates
        rw [hformat.unique hreplaces, hrate.unique hnearest]
        exact StreamCaps.admits_of_mem hc' hoffers htakes hadmits

/-- The snap leads into the capabilities exactly where `SnapsInto` holds. -/
theorem snapRawToCaps_admitted (h : Snappable caps) (raw : RawFormat) :
    (snapRawToCaps caps raw).1.admitted caps = true ↔ SnapsInto caps raw := by
  obtain ⟨c, hn⟩ := h.nearest raw
  obtain ⟨hc, hf⟩ := nearestConfiguration_mem hn
  obtain ⟨layouts, hlayouts, hne, hcount⟩ := h.layouts c hc
  have hsome : ∃ layout, nearestLayout c raw = some layout := by
    unfold nearestLayout
    rw [hlayouts]
    exact Option.isSome_iff_exists.mp (List.isSome_minOn?_iff.mpr hne)
  obtain ⟨layout, hl⟩ := hsome
  have hmem : layout ∈ layouts := by
    have hmem := List.minOn?_mem hl
    rwa [hlayouts] at hmem
  obtain ⟨-, hmax, hlength⟩ := hcount layout hmem
  have hformat : (snapFormat c raw).1 ∈ c.formats := snapFormat_mem hf
  have hrate : c.rates.admits (nearestRate c raw) c.rateTolerance = true :=
    nearestRate_admits (h.rates c hc)
  rw [snapRawToCaps_eq hn hl]
  by_cases heq : layout.channels = raw.channels
  · rw [snapChannels_same hmax heq]
    have hkept : ∃ layout ∈ c.channels.layouts, layout.channels = raw.channels := by
      rw [hlayouts]
      exact ⟨layout, hmem, heq⟩
    by_cases hpos : raw.positioned = true
    · -- the positions stay as they were asked for
      have hpositions : ({ raw with format := (snapFormat c raw).1, rate := nearestRate c raw } :
          RawFormat).positions = some raw.channelMap := if_pos hpos
      rw [RawFormat.admitted, hpositions]
      exact kept_admitted h hn hkept hpos
    · refine iff_of_true ?_ (.inl (Bool.eq_false_iff.mpr hpos))
      have hpositions : ({ raw with format := (snapFormat c raw).1, rate := nearestRate c raw } :
          RawFormat).positions = none := if_neg hpos
      rw [RawFormat.admitted, hpositions, ← heq]
      refine StreamCaps.admits_of_mem hc hformat ?_ hrate
      rw [hlayouts]
      exact ChannelSet.admits_of_mem hmem ChannelLayout.admits_unpositioned
  · rw [snapChannels_moved hmax heq]
    refine iff_of_true ?_ (.inr (.inl fun c' hfits => ?_))
    · exact moved_admitted hc hlayouts hmem hmax hlength hformat rfl rfl hrate
    · obtain ⟨i, hleast⟩ := nearestConfiguration_least hn
      have hhas := hleast.count ⟨c', hfits⟩
      rw [hlayouts] at hhas
      exact heq (nearestLayout_channels hlayouts hl hhas)

/-- A nearest request that the capabilities do not take is snapped into them exactly
where `SnapsInto` holds, and then `set_format_param` does not reject it as outside
them; and a request that the snap does not report as changed is left as it was. -/
theorem snap_nearest_admitted (h : Snappable caps) (hout : raw.admitted caps = false) :
    ((snapRawToCaps caps raw).1.admitted caps = true ↔ SnapsInto caps raw) ∧
    (SnapsInto caps raw → ∀ validateConfig,
      setFormatParam validateConfig caps true raw ≠ .error .outOfCaps) ∧
    ((snapRawToCaps caps raw).2 = false → (snapRawToCaps caps raw).1 = raw) := by
  refine ⟨snapRawToCaps_admitted h raw, fun hinto validateConfig => ?_, snapRawToCaps_unchanged⟩
  have hadmitted := (snapRawToCaps_admitted h raw).mpr hinto
  unfold setFormatParam
  simp only [hout, Bool.and_false, Bool.not_false, Bool.and_self, if_true, hadmitted]
  split
  · next error herror =>
    intro hcaps
    cases hcaps
    exact parseConfig_ne validateConfig caps _ herror
  · exact nofun

/-- A stereo device at 48 kHz, without reordering. -/
def stereoCaps : StreamCaps where
  configurations := [⟨[0x103], .discrete [⟨2, some [3, 4]⟩], .discrete [48000], none, 0, .none, {}⟩]
  preferred := 0

theorem stereoCaps_snappable : Snappable stereoCaps where
  offering := ⟨_, List.mem_singleton.mpr rfl, List.cons_ne_nil _ _⟩
  layouts c hc := by
    rw [List.mem_singleton.mp hc]
    refine ⟨_, rfl, List.cons_ne_nil _ _, fun layout hl => ?_⟩
    rw [List.mem_singleton.mp hl]
    refine ⟨by decide, by decide, fun positions hp => ?_⟩
    cases hp
    rfl
  rates c hc := by
    rw [List.mem_singleton.mp hc]
    exact List.cons_ne_nil _ _

/-- A request of four channels at 44.1 kHz. -/
def quadRequest : RawFormat :=
  ⟨0x103, 0, 44100, 4, writePositions (Vector.replicate 64 0) [3, 4, 12, 13]⟩

/-- A stereo request for the rear speakers. -/
def rearRequest : RawFormat := ⟨0x103, 0, 48000, 2, writePositions (Vector.replicate 64 0) [12, 13]⟩

/-- The request of four channels becomes the stereo format of the device. -/
theorem snap_nearest_admitted_quad :
    (snapRawToCaps stereoCaps quadRequest).1.admitted stereoCaps = true := by
  have hinto : SnapsInto stereoCaps quadRequest := by
    refine .inr (.inl fun c hfits => ?_)
    obtain ⟨layout, hlayout, hcount⟩ := hfits.count
    rw [List.mem_singleton.mp hfits.mem] at hlayout
    rw [List.mem_singleton.mp hlayout] at hcount
    exact absurd hcount (by decide)
  exact (snap_nearest_admitted stereoCaps_snappable (by decide)).1.mpr hinto

/-- The count and the rate of the rear request are those of the device: it is left as
it is, and rejected. -/
theorem snap_nearest_rejected :
    Snappable stereoCaps ∧ rearRequest.admitted stereoCaps = false ∧
      snapRawToCaps stereoCaps rearRequest = (rearRequest, false) ∧
      (snapRawToCaps stereoCaps rearRequest).1.admitted stereoCaps = false ∧
      setFormatParam (fun _ _ => .ok ()) stereoCaps true rearRequest = .error .outOfCaps :=
  ⟨stereoCaps_snappable, by decide, by decide, by decide, by rfl⟩

end PwOss.Node
