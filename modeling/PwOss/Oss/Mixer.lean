import PwOss.Lib.OrdMap
import PwOss.Lib.Proc

/-
  The mixer routes of `freebsd_oss/mixer.rs`: one route for each volume control or
  recording source that a `/dev/mixerN` offers, and the controller that binds them
  to the mixers.

  The routes of all mixers stand in one list and are indexed by their position at
  the probe. Every call to a mixer may fail, and a failed one changes nothing. An
  index out of bounds fails the procedure, so a procedure that runs stays in bounds.

  Correspondence (Rust ↔ Lean):
    `Mixer`, `RouteBinding`, `MixerHandle`   ↔ the same names
    `RouteController` with its routes        ↔ `Panel`
    `RouteController::probe`                 ↔ `probe`, `probeUnit`, `probeDirection`, `probeSource`
    `resolve_controls`, `refresh`            ↔ `resolveControls`, `refresh`
    `sync_source_routes`, `sync_source`      ↔ `syncSourceRoutes`, `syncSource`
    `poll`, `apply`                          ↔ `poll`, `apply`
  Volumes are of any type, and a `Curve` converts the levels of a mixer to them and
  back. The fields of a route that are constants of the backend are left out.
-/

namespace PwOss.Oss

open PwOss.OrdMap PwOss.Proc

/-! ## Registers -/

/-- A mixer register or mask. -/
abbrev Word := BitVec 32

def soundMixerVolume : Nat := 0
def soundMixerPcm : Nat := 4
def soundMixerLine : Nat := 6
def soundMixerMic : Nat := 7
def soundMixerReclev : Nat := 11
def soundMixerIgain : Nat := 12
def soundMixerNrdevices : Nat := 25
def soundMixerMute : Nat := 28
def soundMixerRecsrc : Nat := 0xff
def soundMixerDevmask : Nat := 0xfe
def soundMixerRecmask : Nat := 0xfd

/-- `SOUND_DEVICE_NAMES`, which are also the `MIXER_SOURCE_NAMES`. -/
def mixerSourceNames : List String :=
  ["vol", "bass", "treble", "synth", "pcm", "speaker", "line", "mic", "cd", "mix", "pcm2", "rec",
    "igain", "ogain", "line1", "line2", "line3", "dig1", "dig2", "dig3", "phin", "phout", "video",
    "radio", "monitor"]

/-- `mixer_source_priority`. -/
def mixerSourcePriority (source : Nat) : Int :=
  if source = soundMixerMic then 100
  else if source = soundMixerLine then 90
  else 80 - (source : Int)

/-- The registers of every unit's mixer, and the counter that its changes bump. -/
structure Hardware where
  register : Nat → Nat → Word
  counter : Nat → Int

def Hardware.store (hw : Hardware) (unit dev : Nat) (value : Word) : Hardware :=
  { hw with register := fun u d => if u = unit ∧ d = dev then value else hw.register u d }

/-- Which calls succeed, by the number of calls before them. A written recording
source mask takes effect as the driver applies it. -/
structure Ioctls where
  opens : Nat → Bool
  reads : Nat → Nat → Nat → Bool
  writes : Nat → Nat → Nat → Bool
  counters : Nat → Nat → Bool
  applied : Nat → Word → Word

/-- The bit `1 << dev` of a mask. -/
def maskBit (dev : Nat) : Word := 1#32 <<< dev

/-- Left and right level of a control's register; a negative value is no level. -/
def levelsOf (v : Word) : Option (Nat × Nat) :=
  if v.msb then none else some ((v &&& 0x7f#32).toNat, ((v >>> 8) &&& 0x7f#32).toNat)

/-- The value that sets a control to the levels `left` and `right`. -/
def levelsWord (left right : Nat) : Word :=
  BitVec.ofNat 32 (min left 100) ||| BitVec.ofNat 32 (min right 100) <<< 8

/-! ## Routes -/

/-- The volume curve: `level_to_volume` up to 100 and `volume_to_level`. -/
structure Curve (V : Type) where
  toVolume : Nat → V
  toLevel : V → Nat
  /-- The volume 1.0. -/
  one : V
  toLevel_le : ∀ v, toLevel v ≤ 100
  toLevel_toVolume : ∀ level, level ≤ 100 → toLevel (toVolume level) = level

/-- `StreamDirection`. -/
inductive StreamDirection where
  | playback | capture
  deriving DecidableEq, Repr

/-- `EndpointSnapshot`. -/
structure EndpointSnapshot where
  objectId : Nat
  direction : StreamDirection

/-- `DeviceSnapshot`. -/
structure DeviceSnapshot where
  endpoints : List EndpointSnapshot

/-- `RouteVolume`. -/
structure RouteVolume (V : Type) where
  values : List V
  hardware : Bool
  deriving DecidableEq, Repr

/-- `RouteMute`. -/
structure RouteMute where
  value : Bool
  hardware : Bool
  deriving DecidableEq, Repr

/-- `RouteSnapshot`. -/
structure RouteSnapshot (V : Type) where
  key : Nat
  nodeId : Nat
  direction : StreamDirection
  name : String
  description : String
  priority : Int
  active : Bool
  volume : RouteVolume V
  mute : RouteMute
  deriving DecidableEq, Repr

/-- `RouteSelectionOutcome`. -/
inductive RouteSelectionOutcome where
  | unchanged | applied | deflected | failed
  deriving DecidableEq, Repr

/-- `RouteDiagnostic`. -/
inductive RouteDiagnostic where
  | info (message : String)
  | warning (message : String)
  deriving DecidableEq, Repr

/-- `RouteChange`. -/
structure RouteChange where
  key : Option Nat := none
  volume : Bool := false
  mute : Bool := false
  selection : RouteSelectionOutcome := .unchanged
  refresh : Bool := false
  diagnostic : Option RouteDiagnostic := none
  deriving DecidableEq, Repr

/-- `RouteValueUpdate`. -/
inductive RouteValueUpdate (V : Type) where
  | volume (values : List V)
  | mute (value : Bool)

/-- `RouteUpdate`. -/
structure RouteUpdate (V : Type) where
  activate : Bool
  values : List (RouteValueUpdate V)

/-- `Mixer`: its file descriptor stands for the unit it was opened for. -/
structure Mixer where
  unit : Nat
  devmask : Word
  recmask : Word
  deriving DecidableEq, Repr

/-- `RouteBinding`. -/
structure RouteBinding where
  mixer : Nat
  volumeControl : Option Nat
  muteControl : Option Nat
  followsRecsrc : Bool
  source : Option Nat
  deriving DecidableEq, Repr

/-- `MixerHandle`. -/
structure MixerHandle where
  mixer : Mixer
  counter : Int
  deriving DecidableEq, Repr

/-- A route controller, its routes, and the mixers beneath them. -/
structure Panel (V : Type) where
  bindings : List RouteBinding
  mixers : List MixerHandle
  routes : List (RouteSnapshot V)
  hw : Hardware
  /-- The calls made so far. -/
  calls : Nat

/-! ## Mixer calls -/

variable {V : Type}

/-- The next call's number. -/
def nextCall : Proc (Panel V) Nat := do
  let s ← get
  modify fun s => { s with calls := s.calls + 1 }
  pure s.calls

/-- Reads `list[i]`; out of bounds fails. -/
def index {β : Type} (list : Panel V → List β) (i : Nat) : Proc (Panel V) β := fun s =>
  (list s)[i]?.map (·, s)

namespace Mixer
variable (io : Ioctls) (m : Mixer)

/-- `Mixer::read_int`. -/
def readInt (dev : Nat) : Proc (Panel V) (Option Word) := do
  let call ← nextCall
  let s ← get
  pure (if io.reads call m.unit dev then some (s.hw.register m.unit dev) else none)

/-- `Mixer::write_int`. -/
def writeInt (dev : Nat) (value : Word) : Proc (Panel V) Bool := do
  let call ← nextCall
  if io.writes call m.unit dev then do
    let stored := if dev = soundMixerRecsrc then io.applied call value else value
    modify fun s => { s with hw := s.hw.store m.unit dev stored }
    pure true
  else pure false

/-- `Mixer::modify_counter`. -/
def modifyCounter : Proc (Panel V) (Option Int) := do
  let call ← nextCall
  let s ← get
  pure (if io.counters call m.unit then some (s.hw.counter m.unit) else none)

def has (dev : Nat) : Bool := m.devmask.getLsbD dev

/-- `Mixer::output_control`. -/
def outputControl : Option Nat := [soundMixerVolume, soundMixerPcm].find? m.has

/-- `Mixer::source_volume_control`. -/
def sourceVolumeControl (dev : Nat) : Option Nat := [dev, soundMixerReclev].find? m.has

/-- `Mixer::recsrc`. -/
def recsrc : Proc (Panel V) (Option Word) := m.readInt io soundMixerRecsrc

/-- `Mixer::set_recsrc`. -/
def setRecsrc (mask : Word) : Proc (Panel V) Bool := m.writeInt io soundMixerRecsrc mask

/-- The lowest recording source that is set and has a control of its own. -/
def namedControl (recsrc : Option Word) : Option Nat :=
  recsrc.bind fun recsrc =>
    (List.range soundMixerNrdevices).find? (recsrc &&& m.recmask &&& m.devmask).getLsbD

/-- `Mixer::input_control`. -/
def inputControl : Proc (Panel V) (Option (Nat × Bool)) :=
  if m.has soundMixerReclev then pure (some (soundMixerReclev, false))
  else do
    let recsrc ← m.recsrc io
    match m.namedControl recsrc with
    | some dev => pure (some (dev, true))
    | none =>
      pure (if m.has soundMixerIgain then some (soundMixerIgain, false) else none)

/-- `Mixer::level`. -/
def level (dev : Nat) : Proc (Panel V) (Option (Nat × Nat)) := do
  let v ← m.readInt io dev
  pure (v.bind levelsOf)

/-- `Mixer::set_level`. -/
def setLevel (dev left right : Nat) : Proc (Panel V) Bool :=
  m.writeInt io dev (levelsWord left right)

/-- `Mixer::muted`. -/
def muted (dev : Nat) : Proc (Panel V) (Option Bool) := do
  let mask ← m.readInt io soundMixerMute
  pure (mask.map fun mask => mask.getLsbD dev)

/-- `Mixer::set_muted`: the write replaces the mask of all controls. -/
def setMuted (dev : Nat) (mute : Bool) : Proc (Panel V) Bool := do
  let mask ← m.readInt io soundMixerMute
  match mask with
  | none => pure false
  | some mask =>
    m.writeInt io soundMixerMute (if mute then mask ||| maskBit dev else mask &&& ~~~maskBit dev)

/-- `Mixer::level` of a control that may be absent. -/
def levelAt : Option Nat → Proc (Panel V) (Option (Nat × Nat))
  | none => pure none
  | some dev => m.level io dev

/-- `Mixer::muted` of a control that may be absent. -/
def mutedAt : Option Nat → Proc (Panel V) (Option Bool)
  | none => pure none
  | some dev => m.muted io dev

end Mixer

/-- `Mixer::open`. -/
def openMixer (io : Ioctls) (unit : Nat) : Proc (Panel V) (Option Mixer) :=
  if io.opens unit then do
    let mixer : Mixer := ⟨unit, 0#32, 0#32⟩
    let devmask ← mixer.readInt io soundMixerDevmask
    match devmask with
    | none => pure none
    | some devmask => do
      let recmask ← mixer.readInt io soundMixerRecmask
      pure (some ⟨unit, devmask, recmask.getD 0#32 &&& (maskBit soundMixerNrdevices - 1#32)⟩)
  else pure none

/-! ## Levels and sources -/

namespace Curve
variable (curve : Curve V)

/-- `level_to_volume`. -/
def levelToVolume (level : Nat) : V := curve.toVolume (min level 100)

/-- The volumes of a left and a right level. -/
def volumes (levels : Nat × Nat) : List V :=
  [curve.levelToVolume levels.1, curve.levelToVolume levels.2]

/-- `route_volume`. -/
def routeVolume (levels : Nat × Nat) (hardware : Bool) : RouteVolume V :=
  ⟨curve.volumes levels, hardware⟩

/-- The left and the right level of a list of volumes; one volume is for both. -/
def levels (values : List V) : Nat × Nat :=
  let left := values.head?.getD curve.one
  (curve.toLevel left, curve.toLevel (values[1]?.getD left))

/-- `native_levels`. -/
def nativeLevels (volume : RouteVolume V) : Nat × Nat := curve.levels volume.values

/-- `set_native_levels`. -/
def setNativeLevels (volume : RouteVolume V) (levels : Nat × Nat) : RouteVolume V :=
  { volume with values := curve.volumes levels }

end Curve

/-- `u32::trailing_zeros`. -/
def trailingZeros (mask : Word) : Nat := ((List.range 32).find? mask.getLsbD).getD 32

/-- `selected_recording_sources`. -/
def selectedRecordingSources (recmask recsrc : Word) : Word :=
  let selected := recsrc &&& recmask
  if selected ≠ 0#32 ∨ recmask = 0#32 then selected else maskBit (trailingZeros recmask)

/-- `sync_source_routes`: the routes with their new activity, and the positions that
changed. The routes given stand at `pos` and after. -/
def syncSourceRoutes (mixerIndex : Nat) (selected : Word) :
    Nat → List (RouteSnapshot V) → List RouteBinding → List (RouteSnapshot V) × List Nat
  | pos, route :: routes, binding :: bindings =>
    let (routes, changed) := syncSourceRoutes mixerIndex selected (pos + 1) routes bindings
    match binding.source with
    | none => (route :: routes, changed)
    | some source =>
      if binding.mixer ≠ mixerIndex then (route :: routes, changed)
      else
        let active := selected.getLsbD source
        if route.active ≠ active then ({ route with active } :: routes, pos :: changed)
        else (route :: routes, changed)
  | _, routes, _ => (routes, [])

/-- `external_selection_change`. -/
def externalSelectionChange (route : RouteSnapshot V) : RouteChange where
  key := some route.key
  selection := .applied
  volume := route.active && route.volume.hardware
  mute := route.active && route.mute.hardware
  refresh := true
  diagnostic :=
    let verb := if route.active then "enabled" else "disabled"
    some (.info ("recording source changed externally: route " ++ route.name ++ " " ++ verb))

end PwOss.Oss
