import Mathlib.Data.List.Basic

/-
  The infos of `spa/info.rs`: what a device, a node or a port tells of itself.

  An info lists the params of its object with their flags. One of the flags is a
  serial that means nothing but that it is not what it was: a consumer reads a param
  again when its flags are others than before. `bumpParam` is the flip, and `tag` is
  what an info says of a param: its flags, when the change mask has the params.

  Correspondence (Rust ↔ Lean):
    `spa_param_info`                               ↔ `ParamInfo`
    `Dictionary::add_item`                         ↔ `Dictionary.addItem`
    `DeviceInfo`, `NodeInfo`, `PortInfo`           ↔ `Info`, over their `ChangeBits`
    `add_prop`, `add_param`, `bump_param`,
    `set_param_flags`, `replace_change_mask`       ↔ the same names
  A snapshot is a copy whose pointers lead into itself, so it is the value.
-/

namespace PwOss.Spa

/-! ## Params and their flags -/

/-- The flags of a param. -/
abbrev ParamFlags := BitVec 32

def spaParamInfoSerial : ParamFlags := 1#32
def spaParamInfoRead : ParamFlags := 2#32
def spaParamInfoWrite : ParamFlags := 4#32
def spaParamInfoReadwrite : ParamFlags := spaParamInfoRead ||| spaParamInfoWrite

/-- `spa_param_info`; its other fields are always zero. -/
structure ParamInfo (ι : Type) where
  id : ι
  flags : ParamFlags
  deriving DecidableEq, Repr

namespace ParamInfo
variable {ι : Type} [DecidableEq ι]

/-- The flags of the first param with an id. -/
def flagsOf (params : List (ParamInfo ι)) (id : ι) : Option ParamFlags :=
  (params.find? fun p => p.id = id).map (·.flags)

/-- The flags of the first param with an id are changed. -/
def change (id : ι) (f : ParamFlags → ParamFlags) : List (ParamInfo ι) → List (ParamInfo ι)
  | [] => []
  | p :: params =>
    if p.id = id then { p with flags := f p.flags } :: params else p :: change id f params

variable {id : ι} {f : ParamFlags → ParamFlags}

@[simp] theorem length_change : ∀ params : List (ParamInfo ι),
    (change id f params).length = params.length
  | [] => rfl
  | p :: params => by
    rw [change]
    split
    · rfl
    · rw [List.length_cons, List.length_cons, length_change params]

theorem flagsOf_change_self : ∀ params : List (ParamInfo ι),
    flagsOf (change id f params) id = (flagsOf params id).map f
  | [] => rfl
  | p :: params => by
    have ih := flagsOf_change_self params
    unfold flagsOf at ih ⊢
    rw [change]
    by_cases h : p.id = id
    · simp [h]
    · simp only [h, if_false, List.find?_cons, decide_false]
      exact ih

theorem flagsOf_change_ne {id' : ι} (hne : id' ≠ id) : ∀ params : List (ParamInfo ι),
    flagsOf (change id f params) id' = flagsOf params id'
  | [] => rfl
  | p :: params => by
    have ih := flagsOf_change_ne hne params
    unfold flagsOf at ih ⊢
    rw [change]
    by_cases h : p.id = id
    · simp [h, Ne.symm hne]
    · simp only [h, if_false, List.find?_cons]
      split
      · rfl
      · exact ih

end ParamInfo

/-- A flipped serial is another one. -/
theorem xor_serial_ne (flags : ParamFlags) : flags ^^^ spaParamInfoSerial ≠ flags := by
  intro h
  have hzero : spaParamInfoSerial = 0#32 := by
    rw [← BitVec.xor_right_inj flags, h, BitVec.xor_zero]
  exact absurd hzero (by decide)

/-! ## Infos -/

/-- `MAX_ITEMS` of a dictionary. -/
def maxItems : Nat := 1024

/-- `MAX_PARAMS` of an info. -/
def maxParams : Nat := 16

/-- `Dictionary`: its items in order. -/
abbrev Dictionary := List (String × String)

/-- `DictionaryString::from`: no string has a NUL inside. -/
def dictionaryString (s : String) : String := s.map fun c => if c = '\x00' then ' ' else c

/-- `Dictionary::add_item`, which asserts that there is room. -/
def Dictionary.addItem (dict : Dictionary) (key value : String) : Option Dictionary :=
  if dict.length < maxItems then
    some (dict ++ [(dictionaryString key, dictionaryString value)])
  else none

/-- The bits of a change mask. -/
abbrev ChangeMask := BitVec 64

/-- The change bits of one kind of info. -/
structure ChangeBits where
  flags : ChangeMask
  props : ChangeMask
  params : ChangeMask
  /-- `SPA_*_CHANGE_MASK_ALL`. -/
  all : ChangeMask

/-- `SPA_DEVICE_CHANGE_MASK_*`. -/
def deviceChangeBits : ChangeBits := ⟨1#64, 2#64, 4#64, 7#64⟩

/-- An info: what it says of its object, and the mask of what changed. -/
structure Info (ι : Type) where
  changeMask : ChangeMask
  flags : BitVec 64
  props : Dictionary
  params : List (ParamInfo ι)
  few : params.length ≤ maxParams

namespace Info
variable {ι : Type}

/-- `DeviceInfo::new`, `NodeInfo::new`, `PortInfo::new`. -/
def new : Info ι := ⟨0#64, 0#64, [], [], Nat.zero_le _⟩

/-- `replace_change_mask`, whose result nobody uses. -/
def replaceChangeMask (info : Info ι) (mask : ChangeMask) : Info ι :=
  { info with changeMask := mask }

section
variable (bits : ChangeBits) (info : Info ι)

/-- `add_prop`. -/
def addProp (key value : String) : Option (Info ι) :=
  (Dictionary.addItem info.props key value).map fun props =>
    { info with props, changeMask := info.changeMask ||| bits.props }

/-- `add_param`, which asserts that there is room. -/
def addParam (id : ι) (flags : ParamFlags) : Option (Info ι) :=
  if h : info.params.length < maxParams then
    some
      { info with
        params := info.params ++ [⟨id, flags⟩]
        changeMask := info.changeMask ||| bits.params
        few := by rw [List.length_append]; exact h }
  else none

variable [DecidableEq ι]

/-- The flags of the first param with an id are changed, if there is one. -/
def changeParam (id : ι) (f : ParamFlags → ParamFlags) : Info ι :=
  if info.params.any (·.id = id) then
    { info with
      params := ParamInfo.change id f info.params
      changeMask := info.changeMask ||| bits.params
      few := by rw [ParamInfo.length_change]; exact info.few }
  else info

/-- `bump_param`. -/
def bumpParam (id : ι) : Info ι := info.changeParam bits id (· ^^^ spaParamInfoSerial)

/-- The info with the serials of some params flipped, and nothing else marked as changed. -/
def bumped (ids : List ι) : Info ι :=
  ids.foldl (fun info id => info.bumpParam bits id) (info.replaceChangeMask 0#64)

/-- `set_param_flags`. -/
def setParamFlags (id : ι) (flags : ParamFlags) : Info ι := info.changeParam bits id fun _ => flags

/-- The flags of a param. -/
def flagsOf (id : ι) : Option ParamFlags := ParamInfo.flagsOf info.params id

/-- What a consumer is told of a param: its flags, if the params changed. -/
def tag (id : ι) : Option ParamFlags :=
  if info.changeMask &&& bits.params = 0#64 then none else info.flagsOf id

end

section
variable [DecidableEq ι] {bits : ChangeBits} {info : Info ι} {id id' : ι}

@[simp] theorem flagsOf_replaceChangeMask (mask : ChangeMask) :
    (info.replaceChangeMask mask).flagsOf id = info.flagsOf id := rfl

/-- A param that is not listed has no flags. -/
theorem flagsOf_eq_none (h : ¬ info.params.any (·.id = id)) : info.flagsOf id = none := by
  rw [flagsOf, ParamInfo.flagsOf, Option.map_eq_none_iff, List.find?_eq_none]
  intro p hp hid
  exact h (List.any_eq_true.mpr ⟨p, hp, hid⟩)

theorem flagsOf_bumpParam_self :
    (info.bumpParam bits id).flagsOf id = (info.flagsOf id).map (· ^^^ spaParamInfoSerial) := by
  unfold bumpParam changeParam
  split
  · exact ParamInfo.flagsOf_change_self info.params
  · next h => rw [flagsOf_eq_none h, Option.map_none]

theorem flagsOf_changeParam_ne {f : ParamFlags → ParamFlags} (hne : id' ≠ id) :
    (info.changeParam bits id f).flagsOf id' = info.flagsOf id' := by
  unfold changeParam
  split
  · exact ParamInfo.flagsOf_change_ne hne info.params
  · rfl

theorem flagsOf_bumpParam_ne (hne : id' ≠ id) :
    (info.bumpParam bits id).flagsOf id' = info.flagsOf id' := flagsOf_changeParam_ne hne

theorem flagsOf_setParamFlags_ne {flags : ParamFlags} (hne : id' ≠ id) :
    (info.setParamFlags bits id flags).flagsOf id' = info.flagsOf id' := flagsOf_changeParam_ne hne

/-- What is told of a param are its flags, or nothing. -/
theorem tag_eq_or (bits : ChangeBits) (info : Info ι) (id : ι) :
    info.tag bits id = none ∨ info.tag bits id = info.flagsOf id := by
  unfold tag
  split
  · exact .inl rfl
  · exact .inr rfl

/-- A listed param is told with its new serial, whatever changed before. -/
theorem changeMask_bumpParam (h : (info.flagsOf id).isSome) :
    (info.bumpParam bits id).changeMask = info.changeMask ||| bits.params := by
  unfold bumpParam changeParam
  split
  · rfl
  · next hnone =>
    rw [flagsOf_eq_none hnone] at h
    cases h

/-- Flipping the serials of some params changes those flags and no others. -/
theorem flagsOf_foldl_bumpParam (id : ι) : ∀ (ids : List ι) (info : Info ι), ids.Nodup →
    (ids.foldl (fun info id => info.bumpParam bits id) info).flagsOf id =
      if id ∈ ids then (info.flagsOf id).map (· ^^^ spaParamInfoSerial) else info.flagsOf id
  | [], _, _ => rfl
  | i :: ids, info, hnodup => by
    obtain ⟨hnot, hrest⟩ := List.nodup_cons.mp hnodup
    rw [List.foldl_cons, flagsOf_foldl_bumpParam id ids _ hrest]
    by_cases hi : id = i
    · subst hi
      rw [if_neg hnot, if_pos List.mem_cons_self, flagsOf_bumpParam_self]
    · rw [flagsOf_bumpParam_ne hi]
      simp only [List.mem_cons, hi, false_or]

/-- Listed params are marked as changed. -/
theorem changeMask_foldl_bumpParam : ∀ (ids : List ι) (info : Info ι),
    ids ≠ [] → ids.Nodup → (∀ id ∈ ids, (info.flagsOf id).isSome) →
      (ids.foldl (fun info id => info.bumpParam bits id) info).changeMask =
        info.changeMask ||| bits.params
  | [], _, hne, _, _ => absurd rfl hne
  | [i], info, _, _, hlisted => changeMask_bumpParam (hlisted i List.mem_cons_self)
  | i :: j :: ids, info, _, hnodup, hlisted => by
    obtain ⟨hnot, hrest⟩ := List.nodup_cons.mp hnodup
    have hkept : ∀ id ∈ j :: ids, ((info.bumpParam bits i).flagsOf id).isSome := by
      intro id hid
      have hne : id ≠ i := fun heq => hnot (heq ▸ hid)
      rw [flagsOf_bumpParam_ne hne]
      exact hlisted id (List.mem_cons_of_mem i hid)
    rw [List.foldl_cons,
      changeMask_foldl_bumpParam (j :: ids) _ (List.cons_ne_nil j ids) hrest hkept,
      changeMask_bumpParam (hlisted i List.mem_cons_self), BitVec.or_assoc, BitVec.or_self]

section
variable {ids : List ι}

theorem flagsOf_bumped (hnodup : ids.Nodup) (id : ι) : (info.bumped bits ids).flagsOf id =
    if id ∈ ids then (info.flagsOf id).map (· ^^^ spaParamInfoSerial) else info.flagsOf id :=
  flagsOf_foldl_bumpParam id ids _ hnodup

/-- The flags that are listed stay so, and the flipped ones are others. -/
theorem flagsOf_bumped_isSome (hnodup : ids.Nodup) :
    ((info.bumped bits ids).flagsOf id).isSome = (info.flagsOf id).isSome := by
  rw [flagsOf_bumped hnodup]
  split
  · rw [Option.isSome_map]
  · rfl

theorem flagsOf_bumped_ne (hnodup : ids.Nodup) (hid : id ∈ ids) (h : (info.flagsOf id).isSome) :
    (info.bumped bits ids).flagsOf id ≠ info.flagsOf id := by
  obtain ⟨flags, hflags⟩ := Option.isSome_iff_exists.mp h
  rw [flagsOf_bumped hnodup, if_pos hid, hflags, Option.map_some]
  exact fun heq => xor_serial_ne flags (Option.some.inj heq)

/-- The dictionary has no part in it. -/
@[simp] theorem props_bumped : (info.bumped bits ids).props = info.props := by
  have hbump : ∀ (info : Info ι) (id : ι), (info.bumpParam bits id).props = info.props := by
    intro info id
    unfold bumpParam changeParam
    split <;> rfl
  have hfold : ∀ (ids : List ι) (info : Info ι),
      (ids.foldl (fun info id => info.bumpParam bits id) info).props = info.props := by
    intro ids
    induction ids with
    | nil => exact fun _ => rfl
    | cons id ids ih => exact fun info => (ih _).trans (hbump info id)
  exact hfold ids _

/-- An info with flipped serials tells all flags. -/
theorem tag_bumped (hbits : bits.params ≠ 0#64) (hne : ids ≠ []) (hnodup : ids.Nodup)
    (hlisted : ∀ id ∈ ids, (info.flagsOf id).isSome) (id : ι) :
    (info.bumped bits ids).tag bits id = (info.bumped bits ids).flagsOf id := by
  have hmask : (info.bumped bits ids).changeMask = 0#64 ||| bits.params :=
    changeMask_foldl_bumpParam ids (info.replaceChangeMask 0#64) hne hnodup hlisted
  rw [tag, hmask, BitVec.zero_or, BitVec.and_self, if_neg hbits]

end

end

/-! ### Filling an info -/

section
variable {bits : ChangeBits} {info info' : Info ι}

theorem params_addProp {key value : String} (h : info.addProp bits key value = some info') :
    info'.params = info.params := by
  obtain ⟨props, -, rfl⟩ := Option.map_eq_some_iff.mp h
  rfl

theorem params_addParam {id : ι} {flags : ParamFlags}
    (h : info.addParam bits id flags = some info') :
    info'.params = info.params ++ [⟨id, flags⟩] := by
  unfold addParam at h
  split at h
  · cases h
    rfl
  · cases h

/-- A property goes into a dictionary with room, and is all that changes. -/
theorem addProp_of_room (bits : ChangeBits) (key value : String)
    (h : info.props.length < maxItems) :
    ∃ info', info.addProp bits key value = some info' ∧
      info'.props.length = info.props.length + 1 ∧
      info'.changeMask = info.changeMask ||| bits.props := by
  have hadd : info.addProp bits key value = some
      { info with
        props := info.props ++ [(dictionaryString key, dictionaryString value)]
        changeMask := info.changeMask ||| bits.props } := by
    rw [addProp, Dictionary.addItem, if_pos h]
    rfl
  exact ⟨_, hadd, by rw [List.length_append, List.length_singleton], rfl⟩

end

end Info

/-- `DeviceInfo`, with the params of a device. -/
abbrev DeviceInfo (ι : Type) := Info ι

end PwOss.Spa
