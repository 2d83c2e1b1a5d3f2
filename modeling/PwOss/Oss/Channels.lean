import Mathlib.Data.List.Perm.Subperm
import PwOss.Backend.Caps
import PwOss.Lib.Nibbles

/-
  Channel maps of the OSS backend, from `freebsd_oss/backend.rs`: the layouts it
  offers, and the native order that a requested list of positions is set by.

  A native order holds four bits a channel, at most eight channels: a `u64` is a
  `Nat` here, and the sets of native ids are `u16` masks.

  What is proved:
    1. `nativeChannelOrder_named`: an accepted list that names a speaker is an
       arrangement of the default ids of its length, and the order packs their ids.
    2. `channel_orders_agree`: an admitted list is accepted, without an order where
       the configuration does not allow one, and two admitted lists of one count
       that name speakers have the same order only if they are the same list.

  Correspondence (Rust ↔ Lean):
    `channel_positions`, `channel_layouts`    ↔ the same names
    `default_channel_order`                   ↔ `defaultChannelOrder`
    `native_channel_order`: `channel_id`      ↔ `channelId`
      its loop, its `default_set`             ↔ `orderLoop`, `defaultSet`
    `native_channel_order`                    ↔ `nativeChannelOrder`
    `set_format`: `positions`                 ↔ `requestedPositions`
    `validate_config`                         ↔ `validateConfig`
    `fallback_caps`, `caps_from_sndstat`,
      `probe_caps`                            ↔ `backendCaps`, of their own formats and rates
-/

namespace PwOss.Oss

open PwOss.Backend PwOss.Nibbles

/-! ## Tables -/

def channelMono : UInt32 := 2
def channelFl : UInt32 := 3
def channelFr : UInt32 := 4
def channelFc : UInt32 := 5
def channelLfe : UInt32 := 6
def channelSl : UInt32 := 7
def channelSr : UInt32 := 8
def channelRl : UInt32 := 12
def channelRr : UInt32 := 13

/-- The application-side order of the kernel's matrices. -/
def channelPositions (channels : UInt32) : Option (List UInt32) :=
  if channels = 1 then some [channelMono]
  else if channels = 2 then some [channelFl, channelFr]
  else if channels = 4 then some [channelFl, channelFr, channelRl, channelRr]
  else if channels = 6 then
    some [channelFl, channelFr, channelRl, channelRr, channelFc, channelLfe]
  else if channels = 8 then
    some [channelFl, channelFr, channelRl, channelRr, channelFc, channelLfe, channelSl, channelSr]
  else none

/-- The counts of a range: stereo first and last, then the other tables and the maximum. -/
def channelCounts (minChannels maxChannels : UInt32) : List UInt32 :=
  let counts := [2, 4, 6, 8, 1].filter fun c => minChannels ≤ c && c ≤ maxChannels
  let counts := if counts.contains maxChannels then counts else counts ++ [maxChannels]
  if minChannels ≤ 2 && 2 ≤ maxChannels then
    let counts := 2 :: counts.filter (· != 2)
    if counts.getLast? = some 2 then counts else counts ++ [2]
  else counts

def channelLayouts (minChannels maxChannels : UInt32) : ChannelSet :=
  .discrete ((channelCounts minChannels maxChannels).map fun channels =>
    ⟨channels, channelPositions channels⟩)

def defaultChannelOrder : Nat → Option Nat
  | 1 => some 0x1
  | 2 => some 0x21
  | 4 => some 0x8721
  | 5 => some 0x38721
  | 6 => some 0x438721
  | 8 => some 0x65438721
  | _ => none

/-- The native id of a speaker. -/
def channelId (position : UInt32) : Option Nat :=
  if position = channelMono ∨ position = channelFl then some 1
  else if position = channelFr then some 2
  else if position = channelFc then some 3
  else if position = channelLfe then some 4
  else if position = channelSl then some 5
  else if position = channelSr then some 6
  else if position = channelRl then some 7
  else if position = channelRr then some 8
  else none

/-! ## The native order -/

/-- The ids of the positions from `index` on, over the order and the set so far. -/
def orderLoop : List UInt32 → Nat → Nat → Nat → Except ChannelMapError (Nat × Nat)
  | [], _, order, seen => .ok (order, seen)
  | position :: positions, index, order, seen =>
    match channelId position with
    | none => .error .unsupported
    | some id =>
      let bit := 1 <<< id
      if seen &&& bit ≠ 0 then .error .unsupported
      else orderLoop positions (index + 1) (order ||| id <<< (index * 4)) (seen ||| bit)

def defaultSet (channels default : Nat) : Nat :=
  (List.range channels).foldl (fun set index => set ||| 1 <<< nibble default index) 0

/-- Some position names a speaker. -/
def namesSpeaker (positions : List UInt32) : Bool := positions.any fun p => (channelId p).isSome

/-- `SPA_AUDIO_FLAG_UNPOSITIONED`. -/
def unpositioned (flags : UInt32) : Bool := flags &&& 1 != 0

/-- The positions that a format with these flags is admitted by. -/
def requestedPositions (flags : UInt32) (positions : List UInt32) : Option (List UInt32) :=
  if unpositioned flags then none else some positions

def nativeChannelOrder (flags : UInt32) (positions : List UInt32) :
    Except ChannelMapError (Option Nat) :=
  if unpositioned flags then .ok none
  else if !namesSpeaker positions then
    if positions.all opaquePosition then .ok none else .error .unsupported
  else if 8 < positions.length then .error .unsupported
  else
    match orderLoop positions 0 0 0 with
    | .error error => .error error
    | .ok (order, seen) =>
      match defaultChannelOrder positions.length with
      | none => .error .unsupported
      | some default =>
        if seen ≠ defaultSet positions.length default then .error .unsupported
        else .ok (if order ≠ default then some order else none)

def validateConfig (caps : StreamCaps) (config : StreamConfig) : Except ChannelMapError Unit :=
  match nativeChannelOrder config.flags config.positions with
  | .error error => .error error
  | .ok order =>
    if caps.conversionFor config.format config.channels config.rate = some .none ∧ order.isSome then
      .error .convertlessReorder
    else .ok ()

/-- The capabilities of a device: one configuration, without conversion and without
reordering where the device is bitperfect. -/
def backendCaps (formats : List UInt32) (minChannels maxChannels : UInt32) (rates : RateSet)
    (preferredRate : Option UInt32) (rateTolerance : UInt32) (bitperfect : Bool) : StreamCaps where
  configurations :=
    [{ formats := formats
       channels := channelLayouts minChannels maxChannels
       rates := rates
       preferredRate := preferredRate
       rateTolerance := rateTolerance
       conversion := if bitperfect then .none else .kernel
       flags := ⟨!bitperfect, true⟩ }]
  preferred := 0

/-! ## What an order packs -/

/-- The native ids that a default order lists. -/
def defaultIds (channels default : Nat) : List Nat := (List.range channels).map (nibble default)

variable {position flags : UInt32} {positions : List UInt32} {result : Option Nat}

/-- The speakers that have a native id, with their ids. -/
def speakers : List (UInt32 × Nat) :=
  [(channelMono, 1), (channelFl, 1), (channelFr, 2), (channelFc, 3), (channelLfe, 4),
    (channelSl, 5), (channelSr, 6), (channelRl, 7), (channelRr, 8)]

theorem mem_speakers {id : Nat} (h : channelId position = some id) : (position, id) ∈ speakers := by
  unfold channelId at h
  repeat' split at h
  case isTrue hp =>
    cases h
    rcases hp with rfl | rfl <;> decide
  all_goals cases h
  all_goals
    subst_vars
    decide

theorem channelId_lt {id : Nat} (h : channelId position = some id) : id < 16 := by
  have hall : ∀ speaker ∈ speakers, speaker.2 < 16 := by decide
  exact hall _ (mem_speakers h)

/-- A speaker is not an opaque position. -/
theorem not_opaque_of_channelId {id : Nat} (h : channelId position = some id) :
    opaquePosition position = false := by
  have hall : ∀ speaker ∈ speakers, opaquePosition speaker.1 = false := by decide
  exact hall _ (mem_speakers h)

theorem ids_lt : ∀ id ∈ positions.filterMap channelId, id < 16 := by
  intro id hid
  obtain ⟨position, _, hp⟩ := List.mem_filterMap.mp hid
  exact channelId_lt hp

/-- The loop takes exactly the lists of speakers with distinct ids, and packs the ids. -/
theorem orderLoop_ok_iff {done : List Nat} {order seen : Nat} (hlt : ∀ d ∈ done, d < 16)
    (hnd : done.Nodup) :
    orderLoop positions done.length (pack done) (bits done) = .ok (order, seen) ↔
      (∀ p ∈ positions, (channelId p).isSome) ∧
        (done ++ positions.filterMap channelId).Nodup ∧
        order = pack (done ++ positions.filterMap channelId) ∧
        seen = bits (done ++ positions.filterMap channelId) := by
  induction positions generalizing done with
  | nil =>
    rw [orderLoop, List.filterMap_nil, List.append_nil, Except.ok.injEq, Prod.mk.injEq]
    constructor
    · rintro ⟨ho, hs⟩
      exact ⟨fun p hp => absurd hp List.not_mem_nil, hnd, ho.symm, hs.symm⟩
    · rintro ⟨-, -, ho, hs⟩
      exact ⟨ho.symm, hs.symm⟩
  | cons p ps ih =>
    rw [orderLoop]
    cases hp : channelId p with
    | none =>
      constructor
      · intro h
        exact absurd h (by simp)
      · rintro ⟨hall, -⟩
        have := hall p (List.mem_cons_self ..)
        rw [hp] at this
        exact absurd this (by decide)
    | some id =>
      have happ : done ++ (p :: ps).filterMap channelId =
          (done ++ [id]) ++ ps.filterMap channelId := by
        rw [List.filterMap_cons_some hp, List.append_assoc, List.singleton_append]
      have hall : (∀ q ∈ p :: ps, (channelId q).isSome) ↔ ∀ q ∈ ps, (channelId q).isSome := by
        rw [List.forall_mem_cons, hp, Option.isSome_some]
        simp only [true_and]
      rw [happ, hall]
      dsimp only
      by_cases hid : id ∈ done
      · have hbit : bits done &&& 1 <<< id ≠ 0 := fun h => bits_and_eq_zero.mp h hid
        rw [if_pos hbit]
        constructor
        · intro h
          exact absurd h (by simp)
        · rintro ⟨-, hnd', -⟩
          have hpre := (List.nodup_append.mp hnd').1
          have := (List.nodup_append.mp hpre).2.2 id hid id (List.mem_singleton_self id)
          exact absurd rfl this
      · have hbit : ¬(bits done &&& 1 <<< id ≠ 0) := not_not_intro (bits_and_eq_zero.mpr hid)
        rw [if_neg hbit, pack_or hlt, ← bits_concat]
        have hlen : done.length + 1 = (done ++ [id]).length := by
          rw [List.length_append, List.length_singleton]
        rw [hlen]
        refine ih ?_ ?_
        · intro d hd
          rcases List.mem_append.mp hd with hd | hd
          · exact hlt d hd
          · rw [List.mem_singleton.mp hd]
            exact channelId_lt hp
        · refine List.nodup_append.mpr ⟨hnd, List.pairwise_singleton _ _, ?_⟩
          intro d hd e he heq
          rw [List.mem_singleton] at he
          exact hid (he ▸ heq ▸ hd)

theorem defaultIds_spec {channels default : Nat} (h : defaultChannelOrder channels = some default) :
    channels ≤ 8 ∧ (defaultIds channels default).Nodup ∧
      (∀ id ∈ defaultIds channels default, id < 16) ∧
      pack (defaultIds channels default) = default := by
  unfold defaultChannelOrder at h
  split at h
  all_goals cases h
  all_goals decide

theorem defaultSet_eq (channels default : Nat) :
    defaultSet channels default = bits (defaultIds channels default) := by
  rw [defaultSet, bits, defaultIds, List.foldl_map]

/-- The order that configures the device: `none` leaves it in its default order. -/
def effectiveOrder (channels : Nat) (result : Option Nat) : Option Nat :=
  result <|> defaultChannelOrder channels

/-- `order` packs the native ids of `positions`, which arrange the default ids. -/
structure Arranges (positions : List UInt32) (order : Nat) : Prop where
  decodes : ∀ (index : Nat) (h : index < positions.length),
    channelId positions[index] = some (nibble order index)
  permutes : ∃ default, defaultChannelOrder positions.length = some default ∧
    (positions.filterMap channelId).Perm (defaultIds positions.length default)
  differs : defaultChannelOrder positions.length ≠ some order

/-- The ids of speakers stand position by position. -/
theorem map_channelId (h : ∀ p ∈ positions, (channelId p).isSome) :
    positions.map channelId = (positions.filterMap channelId).map some := by
  induction positions with
  | nil => rfl
  | cons p ps ih =>
    rw [List.forall_mem_cons] at h
    obtain ⟨id, hp⟩ := Option.isSome_iff_exists.mp h.1
    rw [List.filterMap_cons_some hp, List.map_cons, List.map_cons, hp, ih h.2]

theorem length_ids (h : ∀ p ∈ positions, (channelId p).isSome) :
    (positions.filterMap channelId).length = positions.length := by
  have hlen := congrArg List.length (map_channelId h)
  rw [List.length_map, List.length_map] at hlen
  exact hlen.symm

theorem pack_decodes (h : ∀ p ∈ positions, (channelId p).isSome) (index : Nat)
    (hi : index < positions.length) :
    channelId positions[index] = some (nibble (pack (positions.filterMap channelId)) index) := by
  have hids : index < (positions.filterMap channelId).length := (length_ids h).symm ▸ hi
  have hget := List.getElem_of_eq (map_channelId h)
    (by rw [List.length_map]; exact hi : index < (positions.map channelId).length)
  rw [List.getElem_map, List.getElem_map] at hget
  rw [hget, nibble_pack ids_lt index hids]

theorem perm_of_bits_eq {ids ids' : List Nat} (hnd : ids.Nodup) (hnd' : ids'.Nodup)
    (h : bits ids = bits ids') : ids.Perm ids' :=
  (List.perm_ext_iff_of_nodup hnd hnd').mpr fun id => mem_iff_of_bits_eq h id

/-- A list that names a speaker is accepted exactly if it arranges the default ids of its
length, and the result is the order where that is not the default one. -/
theorem nativeChannelOrder_named (hflags : unpositioned flags = false)
    (hnamed : namesSpeaker positions = true) :
    nativeChannelOrder flags positions = .ok result ↔
      ∃ default, defaultChannelOrder positions.length = some default ∧
        (∀ p ∈ positions, (channelId p).isSome) ∧
        (positions.filterMap channelId).Perm (defaultIds positions.length default) ∧
        result = if pack (positions.filterMap channelId) ≠ default then
            some (pack (positions.filterMap channelId)) else none := by
  unfold nativeChannelOrder
  rw [hflags, hnamed, if_neg Bool.false_ne_true]
  simp only [Bool.not_true, Bool.false_eq_true, if_false]
  have hloop (order seen : Nat) : orderLoop positions 0 0 0 = .ok (order, seen) ↔
      (∀ p ∈ positions, (channelId p).isSome) ∧ (positions.filterMap channelId).Nodup ∧
        order = pack (positions.filterMap channelId) ∧
          seen = bits (positions.filterMap channelId) :=
    @orderLoop_ok_iff positions [] order seen (fun _ hd => absurd hd List.not_mem_nil)
      List.nodup_nil
  constructor
  · intro h
    split at h
    · cases h
    · split at h
      · cases h
      · next order seen hl =>
        split at h
        · cases h
        · next default hd =>
          obtain ⟨hall, hnd, rfl, rfl⟩ := (hloop order seen).mp hl
          obtain ⟨-, hdnd, -, -⟩ := defaultIds_spec hd
          split at h
          · cases h
          · next hset =>
            rw [Decidable.not_not, defaultSet_eq] at hset
            cases h
            exact ⟨default, hd, hall, perm_of_bits_eq hnd hdnd hset, rfl⟩
  · rintro ⟨default, hd, hall, hperm, rfl⟩
    obtain ⟨hle, hdnd, -, -⟩ := defaultIds_spec hd
    have hnd := hperm.nodup_iff.mpr hdnd
    have hset : ¬bits (positions.filterMap channelId) ≠ defaultSet positions.length default := by
      rw [defaultSet_eq]
      exact not_not_intro (bits_eq_of_mem_iff fun id => hperm.mem_iff)
    rw [if_neg (Nat.not_lt.mpr hle), (hloop _ _).mpr ⟨hall, hnd, rfl, rfl⟩, hd]
    dsimp only
    rw [if_neg hset]

/-! ## What is admitted -/

theorem reorders_perm {requested advertised : List UInt32}
    (h : reorders requested advertised = true) : requested.Perm advertised := by
  rw [reorders, Bool.and_eq_true, beq_iff_eq, List.all_eq_true] at h
  obtain ⟨hlen, hall⟩ := h
  have hget : ∀ (index : Nat) (hi : index < requested.length),
      requested[index] ∉ requested.take index ∧ requested[index] ∈ advertised := by
    intro index hi
    have hmem : (requested[index], index) ∈ requested.zipIdx := by
      rw [List.mem_zipIdx_iff_getElem?]
      exact List.getElem?_eq_getElem hi
    have := hall _ hmem
    rw [Bool.and_eq_true, Bool.not_eq_true', List.contains_iff_mem] at this
    refine ⟨fun hm => ?_, this.2⟩
    rw [List.contains_iff_mem.mpr hm] at this
    exact absurd this.1 (by decide)
  have hnd : requested.Nodup := by
    rw [List.Nodup, List.pairwise_iff_getElem]
    intro i j hi hj hij heq
    apply (hget j hj).1
    rw [← heq, List.mem_take_iff_getElem]
    exact ⟨i, by omega, rfl⟩
  have hsub : requested ⊆ advertised := by
    intro p hp
    obtain ⟨index, hi, rfl⟩ := List.mem_iff_getElem.mp hp
    exact (hget index hi).2
  exact (List.subperm_of_subset hnd hsub).perm_of_length_le (by omega)

/-- A table lists speakers with distinct ids, in the default order. -/
theorem channelPositions_spec {channels : UInt32} {table : List UInt32}
    (h : channelPositions channels = some table) :
    (∀ p ∈ table, (channelId p).isSome) ∧
      (∀ p ∈ table, ∀ q ∈ table, channelId p = channelId q → p = q) ∧
      ∃ default, defaultChannelOrder table.length = some default ∧
        table.filterMap channelId = defaultIds table.length default := by
  -- the tables are small, and `UInt32` is not: the tests run over the table
  have hspeakers {table : List UInt32} (h : table.all (fun p => (channelId p).isSome) = true) :
      ∀ p ∈ table, (channelId p).isSome :=
    List.all_eq_true.mp h
  have hdistinct {table : List UInt32}
      (h : table.all (fun p => table.all fun q =>
        decide (channelId p = channelId q → p = q)) = true) :
      ∀ p ∈ table, ∀ q ∈ table, channelId p = channelId q → p = q := by
    intro p hp q hq
    exact of_decide_eq_true (List.all_eq_true.mp (List.all_eq_true.mp h p hp) q hq)
  unfold channelPositions at h
  repeat' split at h
  all_goals cases h
  all_goals exact ⟨hspeakers (by decide), hdistinct (by decide), _, rfl, by decide⟩

/-- Admitted positions are opaque, or arrange the table of their count. -/
theorem admits_channelLayouts {minChannels maxChannels channels : UInt32}
    {capFlags : ConfigurationFlags}
    (h : (channelLayouts minChannels maxChannels).admits channels (some positions) capFlags =
      true) :
    positions.all opaquePosition = true ∨
      ∃ table, channelPositions channels = some table ∧ positions.Perm table ∧
        (capFlags.layoutReorder = false → positions = table) := by
  obtain ⟨layout, hmem, ha⟩ := List.any_eq_true.mp h
  obtain ⟨count, -, rfl⟩ := List.mem_map.mp hmem
  unfold ChannelLayout.admits at ha
  rw [Bool.and_eq_true, beq_iff_eq] at ha
  obtain ⟨rfl, ha⟩ := ha
  dsimp only at ha
  cases htable : channelPositions count with
  | none =>
    rw [htable, Bool.and_eq_true] at ha
    exact .inl ha.2
  | some table =>
    rw [htable] at ha
    simp only [Bool.or_eq_true, Bool.and_eq_true, beq_iff_eq] at ha
    rcases ha with (ha | rfl) | ha
    · exact .inl ha.2
    · exact .inr ⟨positions, rfl, List.Perm.refl _, fun _ => rfl⟩
    · refine .inr ⟨table, rfl, reorders_perm ha.2, fun hr => ?_⟩
      rw [hr] at ha
      exact absurd ha.1 (by decide)

/-- Opaque positions name no speaker. -/
theorem namesSpeaker_of_opaquePositions (h : positions.all opaquePosition = true) :
    namesSpeaker positions = false := by
  rw [namesSpeaker, List.any_eq_false]
  intro p hp hid
  obtain ⟨id, hid⟩ := Option.isSome_iff_exists.mp hid
  have := List.all_eq_true.mp h p hp
  rw [not_opaque_of_channelId hid] at this
  exact absurd this (by decide)

theorem nativeChannelOrder_opaquePositions (h : positions.all opaquePosition = true) :
    nativeChannelOrder flags positions = .ok none := by
  unfold nativeChannelOrder
  rw [namesSpeaker_of_opaquePositions h, h]
  split <;> rfl

/-- An arrangement of a table is accepted. -/
theorem nativeChannelOrder_table {channels : UInt32} {table : List UInt32}
    (ht : channelPositions channels = some table) (hperm : positions.Perm table)
    (hflags : unpositioned flags = false) (hnamed : namesSpeaker positions = true) :
    ∃ default, defaultChannelOrder positions.length = some default ∧
      nativeChannelOrder flags positions =
        .ok (if pack (positions.filterMap channelId) ≠ default then
          some (pack (positions.filterMap channelId)) else none) ∧
      (∀ p ∈ positions, (channelId p).isSome) ∧
      (positions.filterMap channelId).Perm (defaultIds positions.length default) := by
  obtain ⟨hall, -, default, hd, hids⟩ := channelPositions_spec ht
  have hall' : ∀ p ∈ positions, (channelId p).isSome := fun p hp => hall p (hperm.mem_iff.mp hp)
  rw [← hperm.length_eq] at hd hids
  have hids' : (positions.filterMap channelId).Perm (defaultIds positions.length default) :=
    hids ▸ hperm.filterMap channelId
  exact ⟨default, hd, (nativeChannelOrder_named hflags hnamed).mpr ⟨default, hd, hall', hids', rfl⟩,
    hall', hids'⟩

variable {minChannels maxChannels channels : UInt32} {capFlags : ConfigurationFlags}

/-- An admitted list is accepted; an order reorders, and arranges the default ids. -/
theorem accepts_admitted
    (h : (channelLayouts minChannels maxChannels).admits channels
      (requestedPositions flags positions) capFlags = true) :
    ∃ result, nativeChannelOrder flags positions = .ok result ∧
      (capFlags.layoutReorder = false → result = none) ∧
      ∀ order, result = some order → Arranges positions order := by
  have hnone (hok : nativeChannelOrder flags positions = .ok none) :
      ∃ result, nativeChannelOrder flags positions = .ok result ∧
        (capFlags.layoutReorder = false → result = none) ∧
        ∀ order, result = some order → Arranges positions order :=
    ⟨none, hok, fun _ => rfl, fun order ho => absurd ho (by simp)⟩
  cases hflags : unpositioned flags with
  | true =>
    apply hnone
    rw [nativeChannelOrder, if_pos hflags]
  | false =>
    rw [requestedPositions, if_neg (by simp [hflags])] at h
    rcases admits_channelLayouts h with ho | ⟨table, ht, hperm, hsame⟩
    · exact hnone (nativeChannelOrder_opaquePositions ho)
    by_cases hnamed : namesSpeaker positions = true
    · obtain ⟨default, hd, hok, hall, hids⟩ := nativeChannelOrder_table ht hperm hflags hnamed
      refine ⟨_, hok, ?_, ?_⟩
      · intro hr
        -- The table itself is in the default order.
        obtain ⟨-, -, default', hd', hids'⟩ := channelPositions_spec ht
        rw [← hsame hr, hd, Option.some.injEq] at hd'
        rw [← hsame hr, ← hd'] at hids'
        rw [hids', (defaultIds_spec hd).2.2.2, if_neg (not_not_intro rfl)]
      · intro order ho
        split at ho
        · next hne =>
          cases ho
          refine ⟨pack_decodes hall, ⟨default, hd, hids⟩, fun heq => hne ?_⟩
          rw [hd, Option.some.injEq] at heq
          exact heq.symm
        · cases ho
    · -- A table lists speakers only, so this one is empty.
      obtain ⟨hall, -⟩ := channelPositions_spec ht
      cases positions with
      | nil => exact hnone (nativeChannelOrder_opaquePositions rfl)
      | cons p ps =>
        refine absurd (List.any_eq_true.mpr ⟨p, List.mem_cons_self .., ?_⟩) hnamed
        exact hall p (hperm.mem_iff.mp (List.mem_cons_self ..))

/-- The effective order of a positioned list packs its ids. -/
theorem effectiveOrder_named {table : List UInt32} (ht : channelPositions channels = some table)
    (hperm : positions.Perm table) (hflags : unpositioned flags = false)
    (hnamed : namesSpeaker positions = true)
    (hok : nativeChannelOrder flags positions = .ok result) :
    effectiveOrder positions.length result = some (pack (positions.filterMap channelId)) := by
  obtain ⟨default, hd, hok', -, -⟩ := nativeChannelOrder_table ht hperm hflags hnamed
  rw [hok, Except.ok.injEq] at hok'
  subst hok'
  rw [effectiveOrder, hd]
  by_cases heq : pack (positions.filterMap channelId) = default
  · rw [if_neg (not_not_intro heq), heq]
    rfl
  · rw [if_pos heq]
    rfl

/-- Admitted positioned lists of one count with the same effective order are the same. -/
theorem admitted_eq_of_effectiveOrder {flags' : UInt32} {positions' : List UInt32}
    {result' : Option Nat} {capFlags' : ConfigurationFlags} {min' max' : UInt32}
    (h : (channelLayouts minChannels maxChannels).admits channels (some positions) capFlags = true)
    (h' : (channelLayouts min' max').admits channels (some positions') capFlags' = true)
    (hflags : unpositioned flags = false) (hflags' : unpositioned flags' = false)
    (hnamed : namesSpeaker positions = true) (hnamed' : namesSpeaker positions' = true)
    (hok : nativeChannelOrder flags positions = .ok result)
    (hok' : nativeChannelOrder flags' positions' = .ok result')
    (heq : effectiveOrder positions.length result = effectiveOrder positions'.length result') :
    positions = positions' := by
  rcases admits_channelLayouts h with ho | ⟨table, ht, hperm, -⟩
  · rw [namesSpeaker_of_opaquePositions ho] at hnamed
    exact absurd hnamed (by decide)
  rcases admits_channelLayouts h' with ho | ⟨table', ht', hperm', -⟩
  · rw [namesSpeaker_of_opaquePositions ho] at hnamed'
    exact absurd hnamed' (by decide)
  rw [effectiveOrder_named ht hperm hflags hnamed hok,
    effectiveOrder_named ht' hperm' hflags' hnamed' hok', Option.some.injEq] at heq
  rw [ht, Option.some.injEq] at ht'
  subst ht'
  obtain ⟨hall, hinj, -⟩ := channelPositions_spec ht
  have hsub : ∀ p ∈ positions, p ∈ table := fun p hp => hperm.mem_iff.mp hp
  have hsub' : ∀ p ∈ positions', p ∈ table := fun p hp => hperm'.mem_iff.mp hp
  have hlen : positions.length = positions'.length := hperm.length_eq.trans hperm'.length_eq.symm
  have hids := length_ids fun p hp => hall p (hsub p hp)
  have hids' := length_ids fun p hp => hall p (hsub' p hp)
  have hpack := pack_inj ids_lt ids_lt (by omega) heq
  refine List.ext_getElem hlen fun index hi hi' => ?_
  apply hinj _ (hsub _ (List.getElem_mem hi)) _ (hsub' _ (List.getElem_mem hi'))
  rw [pack_decodes (fun p hp => hall p (hsub p hp)) index hi,
    pack_decodes (fun p hp => hall p (hsub' p hp)) index hi', hpack]

/-- A format that the capabilities admit passes the check. -/
theorem validateConfig_ok {formats : List UInt32} {rates : RateSet} {preferredRate : Option UInt32}
    {rateTolerance : UInt32} {bitperfect : Bool} {config : StreamConfig}
    (h : (backendCaps formats minChannels maxChannels rates preferredRate rateTolerance
      bitperfect).admits config.format config.channels
        (requestedPositions config.flags config.positions) config.rate = true) :
    validateConfig (backendCaps formats minChannels maxChannels rates preferredRate rateTolerance
      bitperfect) config = .ok () := by
  obtain ⟨configuration, hmem, ha⟩ := List.any_eq_true.mp h
  rw [List.mem_singleton.mp hmem, StreamConfiguration.admits, Bool.and_eq_true,
    Bool.and_eq_true] at ha
  obtain ⟨result, hok, hreorder, -⟩ := accepts_admitted ha.1.2
  rw [validateConfig, hok]
  dsimp only
  refine if_neg ?_
  rintro ⟨hconv, hsome⟩
  -- Without conversion the device is bitperfect, and its flags allow no reordering.
  have hbit : bitperfect = true := by
    rw [StreamCaps.conversionFor, Option.map_eq_some_iff] at hconv
    obtain ⟨found, hfound, hnone⟩ := hconv
    rw [List.mem_singleton.mp (List.mem_of_find?_eq_some hfound)] at hnone
    cases bitperfect with
    | true => rfl
    | false => cases hnone
  rw [hreorder (by rw [hbit]; rfl)] at hsome
  exact absurd hsome (by decide)

/-- **Channel orders agree.**  What the layouts of a range of counts admit, the native
order accepts; without reordering there is no order, so a format that the device admits is
never rejected; an order decodes to the requested speakers, which arrange the default
ones; and two admitted lists of one count that name speakers share their effective order
only if they are the same. -/
theorem channel_orders_agree (minChannels maxChannels : UInt32) :
    (∀ (capFlags : ConfigurationFlags) (channels flags : UInt32) (positions : List UInt32),
      (channelLayouts minChannels maxChannels).admits channels
          (requestedPositions flags positions) capFlags = true →
        ∃ result, nativeChannelOrder flags positions = .ok result ∧
          (capFlags.layoutReorder = false → result = none) ∧
          ∀ order, result = some order → Arranges positions order) ∧
    (∀ (formats : List UInt32) (rates : RateSet) (preferredRate : Option UInt32)
        (rateTolerance : UInt32) (bitperfect : Bool) (config : StreamConfig),
      (backendCaps formats minChannels maxChannels rates preferredRate rateTolerance
          bitperfect).admits config.format config.channels
            (requestedPositions config.flags config.positions) config.rate = true →
        validateConfig (backendCaps formats minChannels maxChannels rates preferredRate
          rateTolerance bitperfect) config = .ok ()) ∧
    ∀ (capFlags : ConfigurationFlags) (channels flags flags' : UInt32)
      (positions positions' : List UInt32) (result result' : Option Nat),
      (channelLayouts minChannels maxChannels).admits channels (some positions) capFlags = true →
      (channelLayouts minChannels maxChannels).admits channels (some positions') capFlags = true →
      unpositioned flags = false → unpositioned flags' = false →
      namesSpeaker positions = true → namesSpeaker positions' = true →
      nativeChannelOrder flags positions = .ok result →
      nativeChannelOrder flags' positions' = .ok result' → positions ≠ positions' →
      effectiveOrder positions.length result ≠ effectiveOrder positions'.length result' := by
  refine ⟨?_, ?_, ?_⟩
  · intro capFlags channels flags positions h
    exact accepts_admitted h
  · intro formats rates preferredRate rateTolerance bitperfect config h
    exact validateConfig_ok h
  · intro capFlags channels flags flags' positions positions' result result' h h' hflags hflags'
      hnamed hnamed' hok hok' hne heq
    exact hne (admitted_eq_of_effectiveOrder h h' hflags hflags' hnamed hnamed' hok hok' heq)

/-- Swapped stereo is set by the order `0x12`, which is not that of plain stereo. -/
theorem channel_orders_agree_stereo :
    (∃ result, nativeChannelOrder 0 [channelFr, channelFl] = .ok result ∧
      ((⟨true, true⟩ : ConfigurationFlags).layoutReorder = false → result = none) ∧
      ∀ order, result = some order → Arranges [channelFr, channelFl] order) ∧
    validateConfig (backendCaps [16] 2 2 (.discrete [48000]) none 0 true)
      ⟨16, 48000, 2, [channelFl, channelFr], 0, 8⟩ = .ok () ∧
    effectiveOrder 2 none ≠ effectiveOrder 2 (some 0x12) :=
  ⟨(channel_orders_agree 2 2).1 ⟨true, true⟩ 2 0 _ (by decide),
    (channel_orders_agree 2 2).2.1 [16] (.discrete [48000]) none 0 true _ (by decide),
    (channel_orders_agree 2 2).2.2 ⟨true, true⟩ 2 0 0 [channelFl, channelFr]
      [channelFr, channelFl] none (some 0x12) (by decide) (by decide) (by decide) (by decide)
      (by decide) (by decide) (by decide) (by decide) (by decide)⟩

end PwOss.Oss
