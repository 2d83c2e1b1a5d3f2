import Mathlib.Data.List.DropRight
import Mathlib.Data.String.Basic
import PwOss.Device.Control
import PwOss.Oss.Devices
import PwOss.Oss.Names

/-
  The PCM units of a device, from `freebsd_oss/devices.rs` and `identity.rs`: the
  dictionary that names them, and the endpoints that the kernel's description of them
  makes.

  A group is announced with the numbers of its units as a text, and a device is made from
  a dictionary that a session manager passes on. It may add items of its own, in any
  order; what the group wrote is read back as it was (`parseDeviceDict_carried`).

  Correspondence (Rust ↔ Lean):
    `OssDeviceInit`, `parse`, `is_complete`,
    `parse_device_dict`                         ↔ the same names
    `group_pcm_devices_by_parent`               ↔ `groupByParent`
    `list_audio_devices`, `common_description`,
    `device_snapshot`                           ↔ the same names
  What sysctl and sndstat tell of a unit is a parameter, `Kernel`.
-/

namespace PwOss.Oss

open PwOss.Backend PwOss.Device PwOss.OrdMap

/-! ## The dictionary of a device -/

/-- `OssDeviceInit`. -/
structure OssDeviceInit where
  parentName : Option String
  units : List Nat
  deriving DecidableEq, Repr

namespace OssDeviceInit

/-- The numbers among the parts of a text. -/
def parseUnits (value : String) : List Nat := (value.toList.splitOn ',').filterMap parseU32

/-- `parse`: one item. -/
def parse (init : OssDeviceInit) (key value : String) : OssDeviceInit :=
  if key = parentDevice then { init with parentName := some value }
  else if key = deviceIndexes then { init with units := init.units ++ parseUnits value }
  else init

/-- `is_complete`. -/
def isComplete (init : OssDeviceInit) : Bool := !init.units.isEmpty

end OssDeviceInit

/-- `parse_device_dict`. -/
def parseDeviceDict (items : List (String × String)) : OssDeviceInit :=
  items.foldl (fun init item => init.parse item.1 item.2) ⟨none, []⟩

/-- The items under a key. -/
def under (key : String) (items : List (String × String)) : List (String × String) :=
  items.filter fun item => item.1 = key

/-- A dictionary that has just some properties under their keys, among other items. -/
def Carries (items properties : List (String × String)) : Prop :=
  ∀ property ∈ properties, under property.1 items = under property.1 properties

/-! ## The kernel's description -/

/-- What is read of the units. -/
structure Kernel where
  /-- `read_pcm_device_description`. -/
  description : Nat → Option String
  location : Nat → Option String
  /-- `sndstat_pcm_devices`: the units, and whether they play and record. -/
  sndstat : Option (List (Nat × Bool × Bool))
  mode : Nat → Option Nat

/-- `PcmDevice`. -/
structure PcmDevice where
  index : Nat
  desc : String
  location : String
  play : Bool
  record : Bool

namespace Kernel
variable (kernel : Kernel)

/-- The directions of a unit, from its channels or else from its mode. -/
def directions (index : Nat) : Bool × Bool :=
  match kernel.sndstat.bind fun chans => (chans.find? fun c => c.1 = index).map (·.2) with
  | some dirs => dirs
  | none =>
    match kernel.mode index with
    | some mode => (mode.testBit 1, mode.testBit 2)
    | none => (false, false)

/-- A unit, if it is there. -/
def device (index : Nat) : Option PcmDevice :=
  (kernel.description index).bind fun desc => (kernel.location index).map fun location =>
    { index, desc, location, play := (kernel.directions index).1,
      record := (kernel.directions index).2 }

/-- `list_audio_devices`. -/
def listAudioDevices (indexes : List Nat) : List PcmDevice := indexes.filterMap kernel.device

end Kernel

/-! ## The endpoints of the units -/

/-- What two texts have in common at the start. -/
def commonPrefix (a b : List Char) : List Char :=
  ((a.zip b).takeWhile fun p => p.1 = p.2).map (·.1)

/-- `common_description`. -/
def commonDescription (device : PcmDevice) (devices : List PcmDevice) : String :=
  String.ofList
    ((devices.foldl (fun text d => commonPrefix text d.desc.toList) device.desc.toList).rdropWhile
      fun c => c = ' ' || c = '(')

/-- `stream_path`. -/
def streamPath (index : Nat) : String := "/dev/dsp" ++ toString index

/-- The end of an endpoint's name. -/
def suffix : StreamDirection → String
  | .playback => "play"
  | .capture => "rec"

namespace PcmDevice
variable (device : PcmDevice)

/-- Whether the unit has channels of a direction. -/
def enabled : StreamDirection → Bool
  | .playback => device.play
  | .capture => device.record

/-- The endpoint of one direction of a unit of a device with the given description. -/
def endpoint (description : String) (direction : StreamDirection) : Endpoint where
  objectId := nodeOf device.index direction % (u32Max + 1)
  direction
  name := "pcm" ++ toString device.index ++ "." ++ suffix direction
  description :=
    if device.desc = description ∧ device.location ≠ "" then device.desc ++ " @ " ++ device.location
    else device.desc
  locator := streamPath device.index

/-- The endpoints of a unit. -/
def endpoints (description : String) : List Endpoint :=
  ([.playback, .capture].filter device.enabled).map (device.endpoint description)

end PcmDevice

/-- `device_snapshot`. -/
def deviceSnapshot (kernel : Kernel) (indexes : List Nat) : Option DeviceCard :=
  match kernel.listAudioDevices indexes with
  | [] => none
  | device :: devices =>
    let description := commonDescription device devices
    some { description, endpoints := (device :: devices).flatMap (·.endpoints description) }

/-- The groups with one more unit, if its parent is known. -/
def addUnit (parent : Nat → Option String) (groups : Groups) (index : Nat) : Groups :=
  match parent index with
  | some name => groups.alter name fun units => units.getD [] ++ [index]
  | none => groups

/-- `group_pcm_devices_by_parent`. -/
def groupByParent (parent : Nat → Option String) (indexes : List Nat) : Groups :=
  indexes.foldl (addUnit parent) .empty

/-! ## Numbers and lists of them, read back -/

theorem toList_toString (n : Nat) : (toString n).toList = Nat.toDigits 10 n := Nat.toList_repr

theorem isDigit_of_mem {n : Nat} {c : Char} (hc : c ∈ (toString n).toList) : c.isDigit = true :=
  Nat.isDigit_of_mem_toDigits (by decide) (by decide) (toList_toString n ▸ hc)

theorem parseU32_toString {n : Nat} (h : n ≤ u32Max) : parseU32 (toString n).toList = some n := by
  have hdigits : ∀ c ∈ (toString n).toList, c.isDigit = true := fun c hc => isDigit_of_mem hc
  have hne : (toString n).toList ≠ [] := by
    rw [toList_toString]
    exact Nat.toDigits_ne_nil
  have hvalue : (toString n).toList.foldl (fun value c => value * 10 + (c.toNat - '0'.toNat)) 0 =
      n := by
    rw [toList_toString]
    calc (Nat.toDigits 10 n).foldl (fun value c => value * 10 + (c.toNat - '0'.toNat)) 0
      _ = Nat.ofDigitChars 10 (Nat.toDigits 10 n) 0 := by
        rw [Nat.ofDigitChars_eq_foldl]
        simp only [Nat.mul_comm]
      _ = n := Nat.ofDigitChars_ten_toDigits
  have hsigned : ∀ rest, (toString n).toList ≠ '+' :: rest := by
    intro rest heq
    have hplus := hdigits '+' (heq ▸ List.mem_cons_self)
    exact absurd hplus (by decide)
  unfold parseU32
  split
  · next rest heq => exact absurd heq (hsigned rest)
  · rw [if_pos ⟨hne, List.all_eq_true.mpr hdigits, hvalue.symm ▸ h⟩, hvalue]

namespace OssDeviceInit

/-- The units that a group writes are those that its device reads. -/
theorem parseUnits_intercalate {units : List Nat} (hne : units ≠ [])
    (h : ∀ unit ∈ units, unit ≤ u32Max) :
    parseUnits (",".intercalate (units.map toString)) = units := by
  have hcomma : ∀ text ∈ (units.map toString).map String.toList, ',' ∉ text := by
    intro text htext hin
    rw [List.map_map] at htext
    obtain ⟨unit, -, rfl⟩ := List.mem_map.mp htext
    exact absurd (isDigit_of_mem hin) (by decide)
  have hparts : (",".intercalate (units.map toString)).toList.splitOn ',' =
      (units.map toString).map String.toList := by
    rw [String.toList_intercalate]
    refine List.splitOn_intercalate ',' hcomma ?_
    simpa using hne
  rw [parseUnits, hparts, List.map_map, List.filterMap_map]
  refine (List.filterMap_congr fun unit hunit => ?_).trans List.filterMap_some
  exact parseU32_toString (h unit hunit)

end OssDeviceInit

/-- The name is the last one given, and the units are all those given. -/
theorem parseDeviceDict_eq (items : List (String × String)) :
    parseDeviceDict items =
      ⟨((under parentDevice items).getLast?).map (·.2),
        (under deviceIndexes items).flatMap fun item => OssDeviceInit.parseUnits item.2⟩ := by
  induction items using List.reverseRecOn with
  | nil => rfl
  | append_singleton items item ih =>
    obtain ⟨key, value⟩ := item
    have hfold : parseDeviceDict (items ++ [(key, value)]) =
        (parseDeviceDict items).parse key value := by
      rw [parseDeviceDict, List.foldl_append]
      rfl
    have hunder : ∀ k, under k (items ++ [(key, value)]) =
        under k items ++ if key = k then [(key, value)] else [] := by
      intro k
      by_cases hkey : key = k <;> simp [under, List.filter_append, hkey]
    rw [hfold, ih, hunder, hunder]
    by_cases hparent : key = parentDevice
    · subst hparent
      have hother : parentDevice ≠ deviceIndexes := by decide
      simp [OssDeviceInit.parse, hother]
    · by_cases hindexes : key = deviceIndexes
      · subst hindexes
        simp [OssDeviceInit.parse, hparent]
      · simp [OssDeviceInit.parse, hparent, hindexes]

/-- Whatever a session manager adds, a device is given its group's name and units. -/
theorem parseDeviceDict_carried {key : String} {units : List Nat} {group : CatalogGroupSnapshot}
    (hgroup : groupSnapshot key units = some group) (h : ∀ unit ∈ units, unit ≤ u32Max)
    {items : List (String × String)} (hitems : Carries items group.properties) :
    parseDeviceDict items = ⟨some key, units⟩ := by
  have hne : units ≠ [] := by
    rintro rfl
    cases hgroup
  obtain ⟨id, -, rfl⟩ := Option.map_eq_some_iff.mp hgroup
  have hparent := hitems (parentDevice, key) List.mem_cons_self
  have hindexes := hitems (deviceIndexes, ",".intercalate (units.map toString))
    (List.mem_cons_of_mem _ (List.mem_singleton_self _))
  have hother : parentDevice ≠ deviceIndexes := by decide
  rw [parseDeviceDict_eq, hparent, hindexes]
  simp [under, hother, hother.symm, OssDeviceInit.parseUnits_intercalate hne h]

/-! ## Groups of units -/

theorem get_groupByParent (parent : Nat → Option String) (indexes : List Nat) (name : String) :
    (groupByParent parent indexes).get name =
      if indexes.filter (parent · = some name) = [] then none
      else some (indexes.filter (parent · = some name)) := by
  induction indexes using List.reverseRecOn with
  | nil => rfl
  | append_singleton indexes index ih =>
    have hfold : groupByParent parent (indexes ++ [index]) =
        addUnit parent (groupByParent parent indexes) index := by
      rw [groupByParent, List.foldl_append]
      rfl
    rw [hfold, addUnit, List.filter_append]
    cases hparent : parent index with
    | none => simpa [hparent] using ih
    | some other =>
      by_cases hname : name = other
      · subst hname
        simp only [OrdMap.get_alter, if_true, ih]
        split <;> simp_all
      · have hne : other ≠ name := Ne.symm hname
        simp [OrdMap.get_alter, hname, hne, hparent, ih]

/-- Each unit with a parent is in the group of its parent, in the order of sndstat. -/
theorem mem_groupByParent {parent : Nat → Option String} {indexes : List Nat} {name : String}
    {units : List Nat} : (name, units) ∈ (groupByParent parent indexes).entries ↔
      units ≠ [] ∧ units = indexes.filter (parent · = some name) := by
  rw [← OrdMap.get_eq_some, get_groupByParent]
  split
  · next hnil =>
    rw [hnil]
    simp
  · next hne =>
    constructor
    · rintro heq
      cases heq
      exact ⟨hne, rfl⟩
    · rintro ⟨-, rfl⟩
      rfl

/-- The groups of units that sndstat lists once are well formed. -/
theorem groupByParent_wellFormed (parent : Nat → Option String) (indexes : List Nat) :
    WellFormed (groupByParent parent indexes) where
  nonempty e he := (mem_groupByParent.mp he).1
  disjoint e he e' he' unit hunit hunit' := by
    obtain ⟨name, units⟩ := e
    obtain ⟨name', units'⟩ := e'
    obtain ⟨-, rfl⟩ := mem_groupByParent.mp he
    obtain ⟨-, rfl⟩ := mem_groupByParent.mp he'
    have hname := of_decide_eq_true (List.mem_filter.mp hunit).2
    have hname' := of_decide_eq_true (List.mem_filter.mp hunit').2
    rw [hname] at hname'
    cases hname'
    rfl

/-! ## The endpoints of a device -/

theorem commonPrefix_prefix : ∀ a b : List Char, commonPrefix a b <+: a ∧ commonPrefix a b <+: b
  | [], _ => ⟨List.nil_prefix, List.nil_prefix⟩
  | _ :: _, [] => ⟨List.nil_prefix, List.nil_prefix⟩
  | x :: a, y :: b => by
    obtain ⟨ha, hb⟩ := commonPrefix_prefix a b
    by_cases hxy : x = y
    · subst hxy
      have hcons : commonPrefix (x :: a) (x :: b) = x :: commonPrefix a b := by
        simp [commonPrefix]
      rw [hcons]
      exact ⟨List.cons_prefix_cons.mpr ⟨rfl, ha⟩, List.cons_prefix_cons.mpr ⟨rfl, hb⟩⟩
    · have hnil : commonPrefix (x :: a) (y :: b) = [] := by simp [commonPrefix, hxy]
      rw [hnil]
      exact ⟨List.nil_prefix, List.nil_prefix⟩

/-- What a unit and the later ones have in common begins the text of each. -/
theorem foldl_commonPrefix : ∀ (devices : List PcmDevice) (text : List Char),
    let shared := devices.foldl (fun text d => commonPrefix text d.desc.toList) text
    shared <+: text ∧ ∀ d ∈ devices, shared <+: d.desc.toList
  | [], text => ⟨List.prefix_refl text, nofun⟩
  | device :: devices, text => by
    obtain ⟨htext, hrest⟩ := foldl_commonPrefix devices (commonPrefix text device.desc.toList)
    obtain ⟨hfirst, hdevice⟩ := commonPrefix_prefix text device.desc.toList
    refine ⟨htext.trans hfirst, fun d hd => ?_⟩
    rcases List.mem_cons.mp hd with rfl | hd
    · exact htext.trans hdevice
    · exact hrest d hd

/-- The description of a device begins that of each of its units. -/
theorem commonDescription_prefix (device : PcmDevice) (devices : List PcmDevice) :
    ∀ d ∈ device :: devices, (commonDescription device devices).toList <+: d.desc.toList := by
  obtain ⟨hfirst, hrest⟩ := foldl_commonPrefix devices device.desc.toList
  intro d hd
  rw [commonDescription, String.toList_ofList]
  refine (List.rdropWhile_prefix _ _).trans ?_
  rcases List.mem_cons.mp hd with rfl | hd
  · exact hfirst
  · exact hrest d hd

namespace PcmDevice

theorem mem_endpoints {device : PcmDevice} {description : String} {e : Endpoint} :
    e ∈ device.endpoints description ↔
      ∃ direction, device.enabled direction = true ∧ e = device.endpoint description direction := by
  rw [endpoints, List.mem_map]
  constructor
  · rintro ⟨direction, hdirection, rfl⟩
    exact ⟨direction, (List.mem_filter.mp hdirection).2, rfl⟩
  · rintro ⟨direction, henabled, rfl⟩
    refine ⟨direction, List.mem_filter.mpr ⟨?_, henabled⟩, rfl⟩
    cases direction <;> simp

/-- An endpoint's description begins with that of its device. -/
theorem endpoint_description (device : PcmDevice) {description : String}
    (h : description.toList <+: device.desc.toList) (direction : StreamDirection) :
    description.toList <+: (device.endpoint description direction).description.toList := by
  unfold endpoint
  dsimp only
  split
  · rw [String.toList_append, String.toList_append, List.append_assoc]
    exact h.trans (List.prefix_append _ _)
  · exact h

end PcmDevice

theorem Kernel.mem_listAudioDevices {kernel : Kernel} {indexes : List Nat} {device : PcmDevice} :
    device ∈ kernel.listAudioDevices indexes ↔
      ∃ index ∈ indexes, kernel.device index = some device :=
  List.mem_filterMap

theorem Kernel.device_index {kernel : Kernel} {index : Nat} {device : PcmDevice}
    (h : kernel.device index = some device) : device.index = index := by
  obtain ⟨desc, -, h⟩ := Option.bind_eq_some_iff.mp h
  obtain ⟨location, -, rfl⟩ := Option.map_eq_some_iff.mp h
  rfl

theorem deviceSnapshot_eq_none {kernel : Kernel} {indexes : List Nat} :
    deviceSnapshot kernel indexes = none ↔ ∀ index ∈ indexes, kernel.device index = none := by
  have hdevices : kernel.listAudioDevices indexes = [] ↔
      ∀ index ∈ indexes, kernel.device index = none :=
    List.filterMap_eq_nil_iff
  rw [← hdevices]
  unfold deviceSnapshot
  cases kernel.listAudioDevices indexes <;> simp

/-- A device is made of the units that are described. -/
theorem deviceSnapshot_some {kernel : Kernel} {indexes : List Nat} {card : DeviceCard}
    (h : deviceSnapshot kernel indexes = some card) :
    ∃ device devices, kernel.listAudioDevices indexes = device :: devices ∧
      card.description = commonDescription device devices ∧
      card.endpoints = (device :: devices).flatMap (·.endpoints card.description) := by
  unfold deviceSnapshot at h
  cases hdevices : kernel.listAudioDevices indexes with
  | nil =>
    rw [hdevices] at h
    cases h
  | cons device devices =>
    rw [hdevices] at h
    cases h
    exact ⟨device, devices, rfl, rfl, rfl⟩

/-- A device has an endpoint for each direction of each described unit, and no others. -/
theorem deviceSnapshot_endpoints {kernel : Kernel} {indexes : List Nat} {card : DeviceCard}
    (h : deviceSnapshot kernel indexes = some card) (e : Endpoint) :
    e ∈ card.endpoints ↔ ∃ index ∈ indexes, ∃ device, kernel.device index = some device ∧
      ∃ direction, device.enabled direction = true ∧
        e = device.endpoint card.description direction := by
  obtain ⟨device, devices, hdevices, -, hcard⟩ := deviceSnapshot_some h
  rw [hcard, ← hdevices, List.mem_flatMap]
  simp only [Kernel.mem_listAudioDevices, PcmDevice.mem_endpoints]
  constructor
  · rintro ⟨device, ⟨index, hindex, hdevice⟩, direction, henabled, he⟩
    exact ⟨index, hindex, device, hdevice, direction, henabled, he⟩
  · rintro ⟨index, hindex, device, hdevice, direction, henabled, he⟩
    exact ⟨device, ⟨index, hindex, hdevice⟩, direction, henabled, he⟩

/-- The description of a device begins those of its endpoints. -/
theorem deviceSnapshot_description {kernel : Kernel} {indexes : List Nat} {card : DeviceCard}
    (h : deviceSnapshot kernel indexes = some card) :
    ∀ e ∈ card.endpoints, card.description.toList <+: e.description.toList := by
  obtain ⟨device, devices, -, hdescription, hcard⟩ := deviceSnapshot_some h
  intro e he
  rw [hcard] at he
  obtain ⟨d, hd, he⟩ := List.mem_flatMap.mp he
  obtain ⟨direction, -, rfl⟩ := PcmDevice.mem_endpoints.mp he
  refine d.endpoint_description ?_ direction
  rw [hdescription]
  exact commonDescription_prefix device devices d hd

theorem nodeOf_le {unit : Nat} (h : unit < 2 ^ 31) (direction : StreamDirection) :
    nodeOf unit direction ≤ u32Max := by
  unfold nodeOf u32Max
  cases direction <;> simp <;> omega

/-- The object of an endpoint is the node of its unit. -/
theorem endpoint_objectId {kernel : Kernel} {index : Nat} {device : PcmDevice}
    (h : index < 2 ^ 31) (hdevice : kernel.device index = some device) (description : String)
    (direction : StreamDirection) :
    (device.endpoint description direction).objectId = nodeOf index direction := by
  have hle := nodeOf_le h direction
  unfold PcmDevice.endpoint
  rw [Kernel.device_index hdevice]
  exact Nat.mod_eq_of_lt (Nat.lt_succ_of_le hle)

end PwOss.Oss
