import Mathlib.Data.List.Induction
import Mathlib.Order.MinMax
import PwOss.Backend.Properties
import PwOss.Oss.Devices

/-
  The properties of a node, from `freebsd_oss/identity.rs`: the fragment size and, for
  playback, the fill target of the buffer.

  `OssNodeProperties` can hold only what `apply` leaves: a normal fragment and a delay
  in bounds. The dictionary that a node is made from sets them and their defaults; each
  setting is that of its last item that parses (`parseInitDict_decides`), and is what a
  reset brings back after any updates.

  Correspondence (Rust ↔ Lean):
    `normalize_fragment`                          ↔ `normalizeFragment`
    `OssPropertyUpdate`, `OssNodeProperties`      ↔ the same names
    `new`, `set_init`, `descriptors`, `values`,
      `decode_params`, `apply`, `reset`           ↔ the same names
    `OssNodeInit`, its `parse`, `parse_bool`      ↔ the same names
    `parse_init_dict`                             ↔ `parseInitDict`
-/

namespace PwOss.Oss

open PwOss.Backend PwOss.Spa

variable {V : Type}

/-! ## Fragments -/

/-- `normalize_fragment`: `31 - leading_zeros` is the logarithm. -/
def normalizeFragment (value : Nat) : Nat :=
  if value = 0 then 0 else min (max (2 ^ value.log2) 64) 16384

theorem normalizeFragment_pos {value : Nat} (h : value ≠ 0) :
    normalizeFragment value = 2 ^ min (max value.log2 6) 14 := by
  have hmono : Monotone fun k : Nat => 2 ^ k := fun _ _ => Nat.pow_le_pow_right (by decide)
  have h64 : (64 : Nat) = 2 ^ 6 := by decide
  have h16384 : (16384 : Nat) = 2 ^ 14 := by decide
  rw [normalizeFragment, if_neg h, h64, h16384]
  exact ((hmono.map_min (a := max value.log2 6) (b := 14)).trans
    (congrArg (min · (2 ^ 14)) hmono.map_max)).symm

/-- A normal fragment is zero, or a power of two from 64 to 16384. -/
theorem normalizeFragment_normal (value : Nat) :
    normalizeFragment (normalizeFragment value) = normalizeFragment value := by
  by_cases h : value = 0
  · rw [h]
    rfl
  · have hexp : min (max (min (max value.log2 6) 14) 6) 14 = min (max value.log2 6) 14 := by omega
    have hpow : (2 : Nat) ^ min (max value.log2 6) 14 ≠ 0 := Nat.ne_of_gt (Nat.two_pow_pos _)
    rw [normalizeFragment_pos h, normalizeFragment_pos hpow, Nat.log2_two_pow, hexp]

theorem normalizeFragment_le (value : Nat) : normalizeFragment value ≤ 16384 := by
  unfold normalizeFragment
  split
  · exact Nat.zero_le _
  · exact Nat.min_le_right _ _

/-! ## Properties -/

/-- `FRAGMENT`, `PLAYBACK_DELAY`. -/
def fragmentKey : String := "oss.fragment"
def playbackDelayKey : String := "oss.delay"

def fragmentDescriptor : BackendPropertyDescriptor :=
  ⟨fragmentKey, "OSS fragment size (bytes, power of two, 0 = automatic)", 16384⟩

def playbackDelayDescriptor : BackendPropertyDescriptor :=
  ⟨playbackDelayKey, "Playback buffer fill target (1/8ths of a period)", 1024⟩

inductive OssPropertyUpdate where
  | fragment (value : Nat)
  | playbackDelay (value : Nat)
  deriving DecidableEq, Repr

/-- Properties as updates leave them. -/
@[ext] structure OssNodeProperties where
  playback : Bool
  fragmentBytes : Nat
  fragmentDefault : Nat
  playbackDelayEighths : Nat
  playbackDelayDefault : Nat
  normal : normalizeFragment fragmentBytes = fragmentBytes
  normalDefault : normalizeFragment fragmentDefault = fragmentDefault
  bounded : playbackDelayEighths ≤ 1024
  boundedDefault : playbackDelayDefault ≤ 1024
  deriving DecidableEq

/-- The updates that the params struct names so far. -/
structure DecodedParams where
  playbackDelay : Option Nat := none
  fragment : Option Nat := none

/-- `values.chunks(2)`, of an even number of values. -/
def pairs : List (PodValue V) → List (PodValue V × PodValue V)
  | key :: value :: rest => (key, value) :: pairs rest
  | _ => []

/-- One pair of the params struct. -/
def DecodedParams.read (decoded : DecodedParams) : PodValue V × PodValue V → DecodedParams
  | (.string key, .int value) =>
    if key = fragmentKey ∧ 0 ≤ value then { decoded with fragment := some value.toNat }
    else if key = playbackDelayKey ∧ 0 ≤ value then
      { decoded with playbackDelay := some value.toNat }
    else decoded
  | _ => decoded

namespace OssNodeProperties

def new (playback : Bool) : OssNodeProperties :=
  ⟨playback, 0, 0, 10, 10, rfl, rfl, by decide, by decide⟩

/-- `decode_params`: the delay comes first, whatever the order of the pairs. -/
def decodeParams : PodValue V → List OssPropertyUpdate
  | .struct values =>
    if values.length % 2 ≠ 0 then []
    else
      let decoded := (pairs values).foldl DecodedParams.read {}
      (decoded.playbackDelay.map .playbackDelay).toList ++ (decoded.fragment.map .fragment).toList
  | _ => []

variable (p : OssNodeProperties)

def descriptors : List BackendPropertyDescriptor :=
  if p.playback then [playbackDelayDescriptor, fragmentDescriptor] else [fragmentDescriptor]

def values : List (String × Nat) :=
  if p.playback then [(playbackDelayKey, p.playbackDelayEighths), (fragmentKey, p.fragmentBytes)]
  else [(fragmentKey, p.fragmentBytes)]

/-- `apply`: the properties, and whether they changed. -/
def apply : OssPropertyUpdate → OssNodeProperties × Bool
  | .fragment value =>
    ({ p with
        fragmentBytes := normalizeFragment value
        normal := normalizeFragment_normal value },
      decide (normalizeFragment value ≠ p.fragmentBytes))
  | .playbackDelay value =>
    if p.playback then
      ({ p with
          playbackDelayEighths := min value 1024
          bounded := Nat.min_le_right _ _ },
        decide (min value 1024 ≠ p.playbackDelayEighths))
    else (p, false)

/-- The properties with their defaults. -/
def defaults : OssNodeProperties :=
  { p with
    fragmentBytes := p.fragmentDefault
    playbackDelayEighths := p.playbackDelayDefault
    normal := p.normalDefault
    bounded := p.boundedDefault }

def reset : OssNodeProperties × Bool := (p.defaults, decide (p ≠ p.defaults))

/-- `set_init`: the update, which is the default from now on. -/
def setInit (update : OssPropertyUpdate) : OssNodeProperties :=
  let p := (p.apply update).1
  { p with
    fragmentDefault := p.fragmentBytes
    playbackDelayDefault := p.playbackDelayEighths
    normalDefault := p.normal
    boundedDefault := p.bounded }

instance : BackendProperties OssNodeProperties OssPropertyUpdate where
  descriptors := descriptors
  values := values
  decodeParams := decodeParams
  apply := apply
  reset := reset

/-! ### Updates -/

variable {p}

@[simp] theorem playback_apply (update : OssPropertyUpdate) :
    (p.apply update).1.playback = p.playback := by
  cases update with
  | fragment value => rfl
  | playbackDelay value =>
    rw [apply]
    split <;> rfl

@[simp] theorem defaults_apply (update : OssPropertyUpdate) :
    (p.apply update).1.defaults = p.defaults := by
  cases update with
  | fragment value => rfl
  | playbackDelay value =>
    rw [apply]
    split <;> rfl

/-! ### What is read is what was written -/

/-- The values fit the pods that show them. -/
theorem value_lt (p : OssNodeProperties) :
    asInt p.fragmentBytes = p.fragmentBytes ∧ asInt p.playbackDelayEighths =
      p.playbackDelayEighths := by
  have hfragment : p.fragmentBytes ≤ 16384 := p.normal ▸ normalizeFragment_le p.fragmentBytes
  have hdelay := p.bounded
  exact ⟨asInt_of_lt (by omega), asInt_of_lt (by omega)⟩

/-- The params struct that shows the values decodes to them. -/
theorem decodeParams_values (p : OssNodeProperties) :
    decodeParams (V := V) (.struct (paramFields p.values)) =
      (if p.playback then [.playbackDelay p.playbackDelayEighths] else []) ++
        [.fragment p.fragmentBytes] := by
  obtain ⟨hfragment, hdelay⟩ := p.value_lt
  have hkeys : playbackDelayKey ≠ fragmentKey := by decide
  unfold values
  cases p.playback with
  | true =>
    simp [decodeParams, paramFields, pairs, DecodedParams.read, hfragment, hdelay, hkeys]
  | false =>
    simp [decodeParams, paramFields, pairs, DecodedParams.read, hfragment]

/-- Writing what was read changes nothing. -/
theorem apply_values (p : OssNodeProperties) :
    ∀ update ∈ decodeParams (V := V) (.struct (paramFields p.values)),
      p.apply update = (p, false) := by
  intro update hupdate
  rw [decodeParams_values] at hupdate
  rcases List.mem_append.mp hupdate with hdelay | hfragment
  · cases hplayback : p.playback with
    | false =>
      rw [hplayback] at hdelay
      exact absurd hdelay List.not_mem_nil
    | true =>
      rw [hplayback] at hdelay
      obtain rfl := List.mem_singleton.mp hdelay
      simp [apply, hplayback, Nat.min_eq_left p.bounded, OssNodeProperties.ext_iff]
  · obtain rfl := List.mem_singleton.mp hfragment
    simp [apply, p.normal]

/-- What is asked of properties: an update, or a reset. -/
inductive Request where
  | update (update : OssPropertyUpdate)
  | reset

/-- The properties after a request. -/
def perform (p : OssNodeProperties) : Request → OssNodeProperties
  | .update update => (p.apply update).1
  | .reset => p.reset.1

/-- No request changes the defaults, so a reset is to the same in every run. -/
theorem defaults_foldl_perform : ∀ (requests : List Request) (p : OssNodeProperties),
    (requests.foldl perform p).defaults = p.defaults
  | [], _ => rfl
  | .update update :: requests, p =>
    (defaults_foldl_perform requests _).trans (defaults_apply update)
  | .reset :: requests, p => by
    rw [List.foldl_cons, defaults_foldl_perform requests]
    rfl

end OssNodeProperties

/-! ## The dictionary of a node -/

/-- `STREAM_PATH`, `FORCE_TIMER`. -/
def streamPathKey : String := "api.freebsd-oss.dsp-path"
def forceTimerKey : String := "api.freebsd-oss.force-timer"

/-- `eq_ignore_ascii_case`. -/
def eqIgnoreAsciiCase (a b : String) : Bool := a.toLower == b.toLower

def parseBool (value : String) : Option Bool :=
  if value == "1" || eqIgnoreAsciiCase value "true" || eqIgnoreAsciiCase value "yes" ||
      eqIgnoreAsciiCase value "on" then some true
  else if value == "0" || eqIgnoreAsciiCase value "false" || eqIgnoreAsciiCase value "no" ||
      eqIgnoreAsciiCase value "off" then some false
  else none

structure OssNodeInit where
  streamPath : Option String
  forceTimer : Bool
  properties : OssNodeProperties
  deriving DecidableEq

namespace OssNodeInit

def new (playback : Bool) : OssNodeInit := ⟨none, false, .new playback⟩

/-- `set_init` of a number that parses. -/
def setNumber (init : OssNodeInit) (value : String) (update : Nat → OssPropertyUpdate) :
    OssNodeInit :=
  match parseU32 value.toList with
  | some n => { init with properties := init.properties.setInit (update n) }
  | none => init

/-- `parse`: one item. -/
def parse (init : OssNodeInit) (key value : String) : OssNodeInit × InitItemResult :=
  if key = streamPathKey then ({ init with streamPath := some value }, .handled)
  else if key = forceTimerKey then
    match parseBool value with
    | some forceTimer => ({ init with forceTimer }, .handled)
    | none => (init, .invalidBoolean)
  else if key = fragmentKey then (init.setNumber value .fragment, .handled)
  else if key = playbackDelayKey then (init.setNumber value .playbackDelay, .handled)
  else (init, .unknown)

end OssNodeInit

/-- `parse_init_dict`: a boolean that does not parse is logged. -/
def parseInitDict (playback : Bool) (items : List (String × String)) : OssNodeInit :=
  items.foldl (fun init item => (init.parse item.1 item.2).1) (.new playback)

section
variable {α : Type}

/-- What an item sets under a key. -/
def itemAt (key : String) (parse : String → Option α) (item : String × String) : Option α :=
  if item.1 = key then parse item.2 else none

/-- What the last item sets that sets something under a key. -/
def latest (key : String) (parse : String → Option α) (items : List (String × String)) :
    Option α :=
  (items.filterMap (itemAt key parse)).getLast?

theorem latest_concat (key : String) (parse : String → Option α) (items : List (String × String))
    (item : String × String) :
    latest key parse (items ++ [item]) = (itemAt key parse item).or (latest key parse items) := by
  unfold latest
  rw [List.filterMap_append, List.getLast?_append]
  cases hitem : itemAt key parse item <;> simp [hitem]

end

/-- `u32::from_str` of a string. -/
def parseNumber (value : String) : Option Nat := parseU32 value.toList

/-- The fragment and the delay of a node, of the numbers that were set, if any were. -/
def initFragment (fragment : Option Nat) : Nat := (fragment.map normalizeFragment).getD 0

def initDelay (playback : Bool) (delay : Option Nat) : Nat :=
  if playback then (delay.map (min · 1024)).getD 10 else 10

/-- The settings are what was set last, if anything was. -/
structure Decided (playback : Bool) (streamPath : Option String) (forceTimer : Option Bool)
    (fragment delay : Option Nat) (init : OssNodeInit) : Prop where
  streamPath : init.streamPath = streamPath
  forceTimer : init.forceTimer = forceTimer.getD false
  direction : init.properties.playback = playback
  fragment : init.properties.fragmentBytes = initFragment fragment
  delay : init.properties.playbackDelayEighths = initDelay playback delay
  defaults : init.properties.defaults = init.properties

section
variable {playback : Bool} {streamPath : Option String} {forceTimer : Option Bool}
  {fragment delay : Option Nat} {init : OssNodeInit}

/-- A number that parses is set, normal or in bounds, and is the default. -/
theorem Decided.setFragment (h : Decided playback streamPath forceTimer fragment delay init)
    (value : String) :
    Decided playback streamPath forceTimer ((parseNumber value).or fragment) delay
      (init.setNumber value .fragment) := by
  unfold OssNodeInit.setNumber
  rw [← parseNumber]
  cases parseNumber value with
  | none => exact h
  | some n => exact ⟨h.streamPath, h.forceTimer, h.direction, rfl, h.delay, rfl⟩

theorem Decided.setDelay (h : Decided playback streamPath forceTimer fragment delay init)
    (value : String) :
    Decided playback streamPath forceTimer fragment ((parseNumber value).or delay)
      (init.setNumber value .playbackDelay) := by
  unfold OssNodeInit.setNumber
  rw [← parseNumber]
  cases parseNumber value with
  | none => exact h
  | some n =>
    -- a capture node has no use for a delay
    have hdirection := h.direction
    refine ⟨h.streamPath, h.forceTimer, ?_, ?_, ?_, rfl⟩
    · rw [← hdirection]
      exact OssNodeProperties.playback_apply _
    · rw [← h.fragment]
      simp only [OssNodeProperties.setInit, OssNodeProperties.apply]
      split <;> rfl
    · have hdelay := h.delay
      unfold initDelay at hdelay ⊢
      simp only [OssNodeProperties.setInit, OssNodeProperties.apply, hdirection]
      cases playback with
      | true => rfl
      | false => exact hdelay

theorem Decided.parse (h : Decided playback streamPath forceTimer fragment delay init)
    (item : String × String) :
    Decided playback ((itemAt streamPathKey some item).or streamPath)
      ((itemAt forceTimerKey parseBool item).or forceTimer)
      ((itemAt fragmentKey parseNumber item).or fragment)
      ((itemAt playbackDelayKey parseNumber item).or delay) (init.parse item.1 item.2).1 := by
  obtain ⟨key, value⟩ := item
  unfold OssNodeInit.parse itemAt
  dsimp only
  by_cases hstream : key = streamPathKey
  · subst hstream
    exact ⟨rfl, h.forceTimer, h.direction, h.fragment, h.delay, h.defaults⟩
  by_cases htimer : key = forceTimerKey
  · subst htimer
    rw [if_pos rfl, if_pos rfl]
    cases hvalue : parseBool value with
    | none => exact h
    | some b => exact ⟨h.streamPath, rfl, h.direction, h.fragment, h.delay, h.defaults⟩
  by_cases hfragment : key = fragmentKey
  · subst hfragment
    exact h.setFragment value
  by_cases hdelay : key = playbackDelayKey
  · subst hdelay
    exact h.setDelay value
  simp only [if_neg hstream, if_neg htimer, if_neg hfragment, if_neg hdelay, Option.none_or]
  exact h

end

/-- The settings of a dictionary. -/
theorem parseInitDict_decided (playback : Bool) (items : List (String × String)) :
    Decided playback (latest streamPathKey some items) (latest forceTimerKey parseBool items)
      (latest fragmentKey parseNumber items) (latest playbackDelayKey parseNumber items)
      (parseInitDict playback items) := by
  induction items using List.reverseRecOn with
  | nil => exact ⟨rfl, rfl, rfl, rfl, by cases playback <;> rfl, rfl⟩
  | append_singleton items item ih =>
    rw [parseInitDict, List.foldl_append]
    simp only [latest_concat]
    exact ih.parse item

/-- Each setting of a node is that of the last item of its dictionary that sets it, in
bounds, whatever else the dictionary has; and a reset restores it after any requests. -/
theorem parseInitDict_decides (playback : Bool) (items : List (String × String))
    (requests : List OssNodeProperties.Request) :
    let init := parseInitDict playback items
    init.streamPath = latest streamPathKey some items ∧
      init.forceTimer = (latest forceTimerKey parseBool items).getD false ∧
      init.properties.values = (if playback then
          [(playbackDelayKey, initDelay playback (latest playbackDelayKey parseNumber items))]
        else []) ++ [(fragmentKey, initFragment (latest fragmentKey parseNumber items))] ∧
      (requests.foldl OssNodeProperties.perform init.properties).reset.1 = init.properties := by
  have h := parseInitDict_decided playback items
  refine ⟨h.streamPath, h.forceTimer, ?_, ?_⟩
  · rw [OssNodeProperties.values, h.direction, h.fragment, h.delay]
    cases playback <;> rfl
  · exact (OssNodeProperties.defaults_foldl_perform requests _).trans h.defaults

end PwOss.Oss
