import PwOss.Backend.Caps
import PwOss.Lib.Locate

/-
  The EnumFormat pods of a port: `build_enum_format_info` of `node/format.rs`.

  A pod is modelled as the object that `serialize_pod` is given. A host chooses one
  concrete format from it (`FormatPod.Offers`): one of the sample formats, one of
  the rates, and the channels and positions as they stand. The position array of a
  pod has its size in bytes in 32 bits.

  What is proved:
    1. `buildEnumFormatInfo_eq`: the index counts through the concatenation of the
       layout lists, the preferred configuration's first.
    2. `enum_formats_once`: every pair of an offering configuration and an entry of
       its layout list is visited exactly once, and what any of the pods offers is
       admitted.

  Correspondence (Rust ↔ Lean):
    `pod_int_range`, the choices of `libspa::utils`   ↔ `IntValue`, `IdValue`
    `build_enum_format_info`, the walk to the layout  ↔ `findLayout`
    its `format`, `rate` and `positions` values       ↔ `podFormat`, `podRate`, `positionsOrAux`
    `build_enum_format_info`                          ↔ `buildEnumFormatInfo`
-/

namespace PwOss.Node

open PwOss.Backend PwOss.Locate

/-! ## Pods -/

/-- An id, or a choice of ids. -/
inductive IdValue where
  | id (value : UInt32)
  | enum (default : UInt32) (alternatives : List UInt32)
  deriving DecidableEq, Repr

/-- An int, or a choice of ints. -/
inductive IntValue where
  | int (value : Int32)
  | enum (default : Int32) (alternatives : List Int32)
  | range (default min max : Int32)
  deriving DecidableEq, Repr

/-- An EnumFormat object of raw audio. -/
structure FormatPod where
  format : IdValue
  rate : IntValue
  channels : Int32
  position : List UInt32
  deriving DecidableEq, Repr

/-- A concrete format, as a host sets it. -/
structure ConcreteFormat where
  format : UInt32
  rate : UInt32
  channels : UInt32
  positions : List UInt32
  deriving DecidableEq, Repr

def IdValue.Offers : IdValue → UInt32 → Prop
  | .id value, chosen => chosen = value
  | .enum default alternatives, chosen => chosen = default ∨ chosen ∈ alternatives

def IntValue.Offers : IntValue → Int32 → Prop
  | .int value, chosen => chosen = value
  | .enum default alternatives, chosen => chosen = default ∨ chosen ∈ alternatives
  | .range default min max, chosen => chosen = default ∨ (min ≤ chosen ∧ chosen ≤ max)

/-- The concrete formats that can be read from a pod; an int holds the bits of a `u32`. -/
structure FormatPod.Offers (pod : FormatPod) (chosen : ConcreteFormat) : Prop where
  format : pod.format.Offers chosen.format
  rate : pod.rate.Offers chosen.rate.toInt32
  channels : pod.channels = chosen.channels.toInt32
  positions : pod.position = chosen.positions
  /-- The array's size in bytes fits its header. -/
  size : 4 * pod.position.length < 2 ^ 32

/-! ## The enumeration -/

/-- `u32::abs_diff`. -/
def absDiff (a b : UInt32) : Nat := (a.toNat - b.toNat) + (b.toNat - a.toNat)

/-- `u32::clamp`. -/
def clamp (value min max : UInt32) : UInt32 :=
  if value < min then min else if max < value then max else value

/-- Formats in the configuration's order of preference. -/
def podFormat : List UInt32 → Option IdValue
  | [] => none
  | [format] => some (.id format)
  | format :: formats => some (.enum format formats)

def podRate (configuration : StreamConfiguration) : Option IntValue :=
  let target := configuration.preferredRate.getD 48000
  match configuration.rates with
  | .discrete rates =>
    if 1 < rates.length then
      (rates.minOn? (absDiff · target)).map fun default =>
        .enum default.toInt32 (rates.map (·.toInt32))
    else rates.head?.map fun rate => .int rate.toInt32
  | .range min max =>
    if min = max then some (.int min.toInt32)
    else some (.range (clamp target min max).toInt32 min.toInt32 max.toInt32)

def formatPod (configuration : StreamConfiguration) (layout : ChannelLayout) :
    Option FormatPod := do
  let format ← podFormat configuration.formats
  let rate ← podRate configuration
  return ⟨format, rate, layout.channels.toInt32, layout.positionsOrAux⟩

/-- A configuration that offers no format is passed over. -/
def offers (configuration : StreamConfiguration) : Bool := !configuration.formats.isEmpty

def findLayout (caps : StreamCaps) (index : Nat) :
    Option (StreamConfiguration × ChannelLayout) :=
  locate (·.channels.layouts) (caps.configurationsInPreferenceOrder.filter offers) index

def buildEnumFormatInfo (caps : StreamCaps) (index : Nat) : Option FormatPod :=
  (findLayout caps index).bind fun (configuration, layout) => formatPod configuration layout

/-! ## One pod -/

/-- `as i32`: the upper half of the range turns negative. -/
theorem toInt_toInt32 (x : UInt32) :
    x.toInt32.toInt =
      if x.toNat < 2147483648 then (x.toNat : Int) else (x.toNat : Int) - 4294967296 := by
  have hlt := x.toNat_lt
  have hbits : x.toInt32.toInt = (x.toNat : Int).bmod 4294967296 :=
    BitVec.toInt_eq_toNat_bmod x.toBitVec
  rw [hbits, Int.bmod_eq_emod]
  split <;> split <;> omega

theorem toInt32_inj {a b : UInt32} (h : a.toInt32 = b.toInt32) : a = b := by
  have hbits := congrArg Int32.toUInt32 h
  rwa [UInt32.toUInt32_toInt32, UInt32.toUInt32_toInt32] at hbits

/-- Read as ints, the bounds of a range keep what lies between them below 2^31. -/
theorem between_of_toInt32 {min max rate : UInt32} (hle : min ≤ max) (hlt : rate.toNat < 2 ^ 31)
    (hmin : min.toInt32 ≤ rate.toInt32) (hmax : rate.toInt32 ≤ max.toInt32) :
    min ≤ rate ∧ rate ≤ max := by
  rw [Int32.le_iff_toInt_le, toInt_toInt32, toInt_toInt32] at hmin hmax
  rw [UInt32.le_iff_toNat_le] at hle ⊢
  rw [UInt32.le_iff_toNat_le]
  have h1 := min.toNat_lt
  have h2 := max.toNat_lt
  omega

theorem clamp_between (value : UInt32) {min max : UInt32} (h : min ≤ max) :
    min ≤ clamp value min max ∧ clamp value min max ≤ max := by
  unfold clamp
  split
  · exact ⟨UInt32.le_refl min, h⟩
  · next hmin =>
    split
    · exact ⟨h, UInt32.le_refl max⟩
    · next hmax => exact ⟨UInt32.not_lt.mp hmin, UInt32.not_lt.mp hmax⟩

theorem podFormat_offers {formats : List UInt32} {value : IdValue} {format : UInt32}
    (h : podFormat formats = some value) (ho : value.Offers format) : format ∈ formats := by
  unfold podFormat at h
  split at h
  · cases h
  · cases h
    exact List.mem_singleton.mpr ho
  · cases h
    exact List.mem_cons.mpr ho

theorem podFormat_isSome {formats : List UInt32} (h : formats ≠ []) :
    ∃ value, podFormat formats = some value := by
  match formats, h with
  | [format], _ => exact ⟨_, rfl⟩
  | _ :: _ :: _, _ => exact ⟨_, rfl⟩

theorem podRate_isSome {c : StreamConfiguration} (h : c.rates.Usable) :
    ∃ value, podRate c = some value := by
  unfold podRate
  cases hr : c.rates with
  | discrete rates =>
    rw [hr] at h
    dsimp only
    split
    · obtain ⟨default, hd⟩ := Option.isSome_iff_exists.mp
        (List.isSome_minOn?_iff (f := (absDiff · (c.preferredRate.getD 48000))).mpr h)
      rw [hd]
      exact ⟨_, rfl⟩
    · rw [List.head?_eq_some_head h]
      exact ⟨_, rfl⟩
  | range min max =>
    dsimp only
    split
    · exact ⟨_, rfl⟩
    · exact ⟨_, rfl⟩

/-- A rate that the pod offers is one that the configuration admits. -/
theorem podRate_offers {c : StreamConfiguration} {value : IntValue} {rate : UInt32}
    (hu : c.rates.Usable) (h : podRate c = some value) (ho : value.Offers rate.toInt32)
    (hlt : rate.toNat < 2 ^ 31) : c.rates.admits rate c.rateTolerance = true := by
  unfold podRate at h
  cases hr : c.rates with
  | discrete rates =>
    rw [hr] at h
    refine RateSet.admits_of_mem ?_ _
    dsimp only at h
    split at h
    · obtain ⟨default, hd, rfl⟩ := Option.map_eq_some_iff.mp h
      rcases ho with ho | ho
      · rw [toInt32_inj ho]
        exact List.minOn?_mem hd
      · obtain ⟨r, hr, heq⟩ := List.mem_map.mp ho
        rw [← toInt32_inj heq]
        exact hr
    · obtain ⟨r, hr, rfl⟩ := Option.map_eq_some_iff.mp h
      rw [toInt32_inj ho]
      exact List.mem_of_head? hr
  | range min max =>
    rw [hr] at h hu
    dsimp only at h
    split at h
    · next heq =>
      cases h
      rw [toInt32_inj ho, ← heq]
      exact RateSet.admits_of_between (UInt32.le_refl min) (UInt32.le_refl min) _
    · cases h
      have hbetween : min ≤ rate ∧ rate ≤ max := by
        rcases ho with ho | ⟨hmin, hmax⟩
        · rw [toInt32_inj ho]
          exact clamp_between _ hu
        · exact between_of_toInt32 hu hlt hmin hmax
      exact RateSet.admits_of_between hbetween.1 hbetween.2 _

/-- What the pod of a layout offers, its configuration admits. -/
theorem formatPod_admits {c : StreamConfiguration} {layouts : List ChannelLayout}
    {layout : ChannelLayout} {pod : FormatPod} {chosen : ConcreteFormat}
    (hc : c.channels = .discrete layouts) (hl : layout ∈ layouts) (hu : c.rates.Usable)
    (h : formatPod c layout = some pod) (ho : pod.Offers chosen)
    (hlt : chosen.rate.toNat < 2 ^ 31) :
    chosen.format ∈ c.formats ∧
      c.channels.admits chosen.channels (some chosen.positions) c.flags = true ∧
      c.rates.admits chosen.rate c.rateTolerance = true := by
  unfold formatPod at h
  obtain ⟨format, hformat, h⟩ := Option.bind_eq_some_iff.mp h
  obtain ⟨rate, hrate, h⟩ := Option.bind_eq_some_iff.mp h
  cases h
  obtain ⟨hof, hor, hoc, hop, hsize⟩ := ho
  dsimp only at hof hor hoc hop hsize
  refine ⟨podFormat_offers hformat hof, ?_, podRate_offers hu hrate hor hlt⟩
  rw [hc, ← toInt32_inj hoc, ← hop]
  refine ChannelSet.admits_of_mem hl (ChannelLayout.admits_own fun hnone => ?_)
  -- the AUX slots of a pod do not wrap, as its array is short enough
  rw [ChannelLayout.positionsOrAux, hnone, Option.getD_none, List.length_map,
    List.length_range] at hsize
  omega

/-! ## All pods -/

/-- The configurations in preference order, each with its index. -/
def indexed (caps : StreamCaps) : List (StreamConfiguration × Nat) :=
  caps.preferredConfiguration.toList.map (·, caps.preferredIndex) ++
    caps.configurations.zipIdx.filter fun p => p.2 != caps.preferredIndex

theorem indexed_fst (caps : StreamCaps) :
    (indexed caps).map (·.1) = caps.configurationsInPreferenceOrder := by
  unfold indexed StreamCaps.configurationsInPreferenceOrder
  rw [List.map_append, List.map_map]
  congr 1
  exact List.map_id' _

theorem mem_indexed {caps : StreamCaps} {c : StreamConfiguration} {i : Nat} :
    (c, i) ∈ indexed caps ↔ caps.configurations[i]? = some c := by
  unfold indexed StreamCaps.preferredConfiguration
  rw [List.mem_append, List.mem_map, List.mem_filter, List.mk_mem_zipIdx_iff_getElem?]
  constructor
  · rintro (⟨c', hc', heq⟩ | ⟨hc, -⟩)
    · cases heq
      exact Option.mem_toList.mp hc'
    · exact hc
  · intro hc
    by_cases hi : i = caps.preferredIndex
    · exact .inl ⟨c, Option.mem_toList.mpr (hi ▸ hc), by rw [hi]⟩
    · exact .inr ⟨hc, bne_iff_ne.mpr hi⟩

/-- No index comes twice, and the preferred one comes first. -/
theorem indexed_pairwise (caps : StreamCaps) :
    (indexed caps).Pairwise fun a b => a.2 ≠ b.2 ∧ b.2 ≠ caps.preferredIndex := by
  unfold indexed
  rw [List.pairwise_append]
  refine ⟨?_, ?_, ?_⟩
  · cases caps.preferredConfiguration with
    | none => exact .nil
    | some c => exact List.pairwise_singleton _ _
  · have hnodup : (caps.configurations.zipIdx.map Prod.snd).Nodup := by
      rw [List.zipIdx_map_snd]
      exact List.nodup_range'
    have hpair := (List.pairwise_map.mp hnodup).filter fun p => p.2 != caps.preferredIndex
    refine hpair.imp_of_mem fun {a b} _ hb hne => ⟨hne, ?_⟩
    exact bne_iff_ne.mp (List.mem_filter.mp hb).2
  · intro a ha b hb
    obtain ⟨c, -, rfl⟩ := List.mem_map.mp ha
    have hne := bne_iff_ne.mp (List.mem_filter.mp hb).2
    exact ⟨fun h => hne h.symm, hne⟩

/-- The entries that the index counts through, with the indices they have. -/
def entries (caps : StreamCaps) : List ((StreamConfiguration × Nat) × (ChannelLayout × Nat)) :=
  flatten (·.1.channels.layouts.zipIdx) ((indexed caps).filter fun p => offers p.1)

theorem findLayout_eq (caps : StreamCaps) (index : Nat) :
    findLayout caps index = (entries caps)[index]?.map fun p => (p.1.1, p.2.1) := by
  unfold findLayout entries
  rw [locate_eq, ← List.getElem?_map, ← indexed_fst, List.filter_map]
  have hlabels := flatten_map (fun c : StreamConfiguration => c.channels.layouts)
    (Prod.fst : StreamConfiguration × Nat → _) (fun p => p.1.channels.layouts.zipIdx) Prod.fst
    (fun p => List.zipIdx_map_fst 0 _) ((indexed caps).filter fun p => offers p.1)
  exact congrArg (·[index]?) hlabels.symm

theorem mem_entries {caps : StreamCaps} {c : StreamConfiguration} {layout : ChannelLayout}
    {i j : Nat} : ((c, i), (layout, j)) ∈ entries caps ↔
      caps.configurations[i]? = some c ∧ c.formats ≠ [] ∧
        c.channels.layouts[j]? = some layout := by
  unfold entries
  rw [mem_flatten, List.mem_filter, mem_indexed, List.mk_mem_zipIdx_iff_getElem?, and_assoc]
  simp only [offers, Bool.not_eq_true', List.isEmpty_eq_false_iff]

/-- `visits` lists the pairs of an offering configuration and an entry of its layout
list by their indices, each once, and those of the preferred configuration first. -/
structure Visits (caps : StreamCaps) (visits : List (Nat × Nat)) : Prop where
  nodup : visits.Nodup
  mem_iff : ∀ i j, (i, j) ∈ visits ↔ ∃ c, caps.configurations[i]? = some c ∧ c.formats ≠ [] ∧
    j < c.channels.layouts.length
  preferred_first : visits.Pairwise fun a b =>
    b.1 = caps.preferredIndex → a.1 = caps.preferredIndex

theorem entries_visits (caps : StreamCaps) :
    Visits caps ((entries caps).map fun p => (p.1.2, p.2.2)) where
  nodup := by
    refine List.pairwise_map.mpr (pairwise_flatten ?_ ?_)
    · intro p _
      have hnodup : (p.1.channels.layouts.zipIdx.map Prod.snd).Nodup := by
        rw [List.zipIdx_map_snd]
        exact List.nodup_range'
      exact (List.pairwise_map.mp hnodup).imp fun hne heq => hne (Prod.mk.inj heq).2
    · refine ((indexed_pairwise caps).filter _).imp fun {p q} hne a _ b _ heq => ?_
      exact hne.1 (Prod.mk.inj heq).1
  mem_iff i j := by
    rw [List.mem_map]
    constructor
    · rintro ⟨⟨⟨c, i'⟩, ⟨layout, j'⟩⟩, hmem, heq⟩
      cases heq
      obtain ⟨hc, hf, hl⟩ := mem_entries.mp hmem
      obtain ⟨hj, -⟩ := List.getElem?_eq_some_iff.mp hl
      exact ⟨c, hc, hf, hj⟩
    · rintro ⟨c, hc, hf, hj⟩
      exact ⟨((c, i), (c.channels.layouts[j], j)),
        mem_entries.mpr ⟨hc, hf, List.getElem?_eq_getElem hj⟩, rfl⟩
  preferred_first := by
    refine List.pairwise_map.mpr (pairwise_flatten ?_ ?_)
    · intro p _
      exact List.pairwise_of_forall fun _ _ h => h
    · refine ((indexed_pairwise caps).filter _).imp fun {p q} hne a _ b _ heq => ?_
      exact absurd heq hne.2

/-- The capabilities that are enumerated: layouts are listed, and there are rates. -/
def Enumerable (caps : StreamCaps) : Prop :=
  ∀ c ∈ caps.configurations,
    (∃ layouts, c.channels = .discrete layouts ∧
      ∀ layout ∈ layouts, ∀ positions, layout.positions = some positions →
        positions.length = layout.channels.toNat) ∧
    c.rates.Usable

/-- Counting the index up from 0 visits every pair of a configuration that offers a
format and an entry of its layout list exactly once, the preferred configuration's
first, and ends there; and every concrete format that one of the pods offers, with a
rate below 2^31, is admitted. -/
theorem enum_formats_once {caps : StreamCaps} (h : Enumerable caps) :
    (∃ visits, Visits caps visits ∧
      (∀ k i j, visits[k]? = some (i, j) → ∃ c layout pod, caps.configurations[i]? = some c ∧
        c.channels.layouts[j]? = some layout ∧ formatPod c layout = some pod ∧
        buildEnumFormatInfo caps k = some pod) ∧
      ∀ k, visits.length ≤ k → buildEnumFormatInfo caps k = none) ∧
    ∀ k pod chosen, buildEnumFormatInfo caps k = some pod → pod.Offers chosen →
      chosen.rate.toNat < 2 ^ 31 →
      caps.admits chosen.format chosen.channels (some chosen.positions) chosen.rate = true := by
  refine ⟨⟨_, entries_visits caps, ?_, ?_⟩, ?_⟩
  · intro k i j hk
    rw [List.getElem?_map] at hk
    obtain ⟨⟨⟨c, i'⟩, ⟨layout, j'⟩⟩, hentry, heq⟩ := Option.map_eq_some_iff.mp hk
    cases heq
    obtain ⟨hc, hf, hl⟩ := mem_entries.mp (List.mem_of_getElem? hentry)
    obtain ⟨format, hformat⟩ := podFormat_isSome hf
    obtain ⟨rate, hrate⟩ := podRate_isSome (h c (List.mem_of_getElem? hc)).2
    have hpod : formatPod c layout =
        some ⟨format, rate, layout.channels.toInt32, layout.positionsOrAux⟩ := by
      rw [formatPod, hformat, hrate]
      rfl
    refine ⟨c, layout, _, hc, hl, hpod, ?_⟩
    rw [buildEnumFormatInfo, findLayout_eq, hentry]
    exact hpod
  · intro k hk
    rw [List.length_map] at hk
    rw [buildEnumFormatInfo, findLayout_eq, List.getElem?_eq_none hk]
    rfl
  · intro k pod chosen hpod ho hlt
    obtain ⟨⟨c, layout⟩, hfind, hpod⟩ := Option.bind_eq_some_iff.mp hpod
    rw [findLayout_eq] at hfind
    obtain ⟨⟨⟨c', i⟩, ⟨layout', j⟩⟩, hentry, heq⟩ := Option.map_eq_some_iff.mp hfind
    obtain ⟨rfl, rfl⟩ := Prod.mk.inj heq
    obtain ⟨hc, -, hl⟩ := mem_entries.mp (List.mem_of_getElem? hentry)
    have hmem := List.mem_of_getElem? hc
    obtain ⟨⟨layouts, hlayouts, -⟩, hu⟩ := h _ hmem
    rw [hlayouts] at hl
    obtain ⟨hf, hch, hr⟩ :=
      formatPod_admits hlayouts (List.mem_of_getElem? hl) hu hpod ho hlt
    exact StreamCaps.admits_of_mem hmem hf hch hr

/-- 8-bit mono at 44.1 kHz and 16-bit stereo at 48 kHz, of which stereo is preferred. -/
def twoConfigurations : StreamCaps where
  configurations :=
    [⟨[0x102], .discrete [⟨1, none⟩], .discrete [44100], none, 0, .none, {}⟩,
      ⟨[0x103], .discrete [⟨2, none⟩], .discrete [48000], none, 0, .none, {}⟩]
  preferred := 1

theorem twoConfigurations_enumerable : Enumerable twoConfigurations := by
  intro c hc
  rcases List.mem_cons.mp hc with rfl | hc
  · refine ⟨⟨_, rfl, fun layout hl positions hp => ?_⟩, List.cons_ne_nil _ _⟩
    rw [List.mem_singleton.mp hl] at hp
    cases hp
  · rw [List.mem_singleton.mp hc]
    refine ⟨⟨_, rfl, fun layout hl positions hp => ?_⟩, List.cons_ne_nil _ _⟩
    rw [List.mem_singleton.mp hl] at hp
    cases hp

/-- The first pod is the stereo one. -/
theorem enum_formats_once_stereo :
    buildEnumFormatInfo twoConfigurations 0 =
      some ⟨.id 0x103, .int 48000, 2, [0x1000, 0x1001]⟩ ∧
    twoConfigurations.admits 0x103 2 (some [0x1000, 0x1001]) 48000 = true := by
  have hpod : buildEnumFormatInfo twoConfigurations 0 =
      some ⟨.id 0x103, .int 48000, 2, [0x1000, 0x1001]⟩ := by decide
  exact ⟨hpod, (enum_formats_once twoConfigurations_enumerable).2 0 _
    ⟨0x103, 48000, 2, [0x1000, 0x1001]⟩ hpod ⟨rfl, rfl, rfl, rfl, by decide⟩ (by decide)⟩

end PwOss.Node
