import PwOss.Lib.Sweep
import PwOss.Oss.Mixer

/-
  The route controller of `freebsd_oss/mixer.rs`: `probe`, `poll`, `refresh_all` and
  `apply` over a `Panel`.

  The procedures are cut where the source has a block that decides one thing: the
  selection of a request (`prepare`), each of its values (`applyValue`), the flags
  that it reports. Their order is the source's, and so is the order of their calls.
-/

namespace PwOss.Oss

open PwOss.OrdMap PwOss.Proc

variable {V : Type}

/-! ## Access by position -/

def bindingAt (pos : Nat) : Proc (Panel V) RouteBinding := index Panel.bindings pos

def routeAt (pos : Nat) : Proc (Panel V) (RouteSnapshot V) := index Panel.routes pos

def mixerAt (i : Nat) : Proc (Panel V) MixerHandle := index Panel.mixers i

def modifyRoute (pos : Nat) (f : RouteSnapshot V → RouteSnapshot V) : Proc (Panel V) Unit := do
  let route ← routeAt pos
  modify fun s => { s with routes := s.routes.set pos (f route) }

/-- `self.mixers[i].counter = counter`. -/
def setCounter (i : Nat) (counter : Int) : Proc (Panel V) Unit := do
  let handle ← mixerAt i
  modify fun s => { s with mixers := s.mixers.set i { handle with counter } }

/-! ## Probe -/

/-- The PCM units of a device, each with whether it plays and captures. -/
def pcmUnits (snapshot : DeviceSnapshot) : OrdMap Nat (Bool × Bool) :=
  snapshot.endpoints.foldl (fun devices endpoint =>
    devices.alter (endpoint.objectId / 2) fun entry =>
      let directions := entry.getD (false, false)
      match endpoint.direction with
      | .playback => (true, directions.2)
      | .capture => (directions.1, true)) OrdMap.empty

/-- Adds a route with its binding; the route's key is its position. -/
def pushRoute (route : Nat → RouteSnapshot V) (binding : RouteBinding) : Proc (Panel V) Unit :=
  modify fun s =>
    { s with
      routes := s.routes ++ [route s.routes.length]
      bindings := s.bindings ++ [binding] }

section
variable (curve : Curve V) (io : Ioctls)

/-- The route of one selectable recording source. -/
def probeSource (deviceCount mixerIndex : Nat) (mixer : Mixer) (selected : Word) (source : Nat) :
    Proc (Panel V) Unit := do
  let candidate := mixer.sourceVolumeControl source
  let levels ← mixer.levelAt io candidate
  let volumeControl := candidate.filter fun _ => levels.isSome
  let muteReadback ← mixer.mutedAt io candidate
  let muteControl := candidate.filter fun _ => muteReadback.isSome
  let sourceName ← index (fun _ => mixerSourceNames) source
  let unit := toString mixer.unit
  let (name, description) :=
    if deviceCount = 1 then ("oss-input-" ++ sourceName, sourceName.capitalize)
    else
      ("oss-input-pcm" ++ unit ++ "-" ++ sourceName,
        sourceName.capitalize ++ " (pcm" ++ unit ++ ")")
  pushRoute (fun key =>
    { key
      nodeId := mixer.unit * 2 + 1
      direction := .capture
      name
      description
      priority := mixerSourcePriority source
      active := selected.getLsbD source
      volume := curve.routeVolume (levels.getD (100, 100)) volumeControl.isSome
      mute := ⟨muteReadback.getD false, muteControl.isSome⟩ })
    ⟨mixerIndex, volumeControl, muteControl, false, some source⟩

/-- The routes of the sources in a record mask, and whether there are any. -/
def probeSources (deviceCount mixerIndex : Nat) (mixer : Mixer) (selected : Word) :
    List Nat → Bool → Proc (Panel V) Bool
  | [], used => pure used
  | source :: sources, used =>
    if mixer.recmask.getLsbD source then do
      probeSource curve io deviceCount mixerIndex mixer selected source
      probeSources deviceCount mixerIndex mixer selected sources true
    else probeSources deviceCount mixerIndex mixer selected sources used

/-- The directions probed so far, `n_out` and `n_in`, and whether the mixer is used. -/
structure ProbeCounts where
  nOut : Nat := 0
  nIn : Nat := 0
  used : Bool := false

/-- The route of a control that stands for a whole direction. -/
def probeControl (deviceCount mixerIndex : Nat) (mixer : Mixer) (direction : StreamDirection)
    (counts : ProbeCounts) (control : Nat) (followsRecsrc : Bool) :
    Proc (Panel V) ProbeCounts := do
  let levels ← mixer.level io control
  match levels with
  | none => pure counts
  | some levels => do
    let muteReadback ← mixer.muted io control
    let unit := toString mixer.unit
    let counts : ProbeCounts :=
      match direction with
      | .capture => { counts with nIn := counts.nIn + 1 }
      | .playback => { counts with nOut := counts.nOut + 1 }
    let (name, description) :=
      match direction with
      | .capture =>
        if counts.nIn = 1 ∧ deviceCount = 1 then ("oss-input", "Input")
        else ("oss-input-pcm" ++ unit, "Input (pcm" ++ unit ++ ")")
      | .playback =>
        if counts.nOut = 1 ∧ deviceCount = 1 then ("oss-output", "Output")
        else ("oss-output-pcm" ++ unit, "Output (pcm" ++ unit ++ ")")
    pushRoute (fun key =>
      { key
        nodeId := mixer.unit * 2 + (if direction = .capture then 1 else 0)
        direction
        name
        description
        priority := 100
        active := true
        volume := curve.routeVolume levels true
        mute := ⟨muteReadback.getD false, muteReadback.isSome⟩ })
      ⟨mixerIndex, some control, muteReadback.map fun _ => control, followsRecsrc, none⟩
    pure { counts with used := true }

/-- `u32::count_ones`. -/
def countOnes (mask : Word) : Nat := (List.range 32).countP mask.getLsbD

/-- The control that stands for a direction, and whether it follows the recording
source. -/
def pickControl (mixer : Mixer) : StreamDirection → Proc (Panel V) (Option (Nat × Bool))
  | .capture => mixer.inputControl io
  | .playback => pure (mixer.outputControl.map fun control => (control, false))

/-- The routes of one direction of a unit. -/
def probeDirection (deviceCount mixerIndex : Nat) (mixer : Mixer) (recsrc : Word)
    (direction : StreamDirection) (enabled : Bool) (counts : ProbeCounts) :
    Proc (Panel V) ProbeCounts :=
  if enabled = false then pure counts
  else if direction = .capture ∧ 2 ≤ countOnes mixer.recmask then do
    let selected := selectedRecordingSources mixer.recmask recsrc
    let used ← probeSources curve io deviceCount mixerIndex mixer selected
      (List.range soundMixerNrdevices) counts.used
    pure { counts with used }
  else do
    let picked ← pickControl io mixer direction
    match picked with
    | none => pure counts
    | some (control, followsRecsrc) =>
      probeControl curve io deviceCount mixerIndex mixer direction counts control followsRecsrc

/-- The routes of one PCM unit. Its mixer is kept when a route uses it. -/
def probeUnit (deviceCount unit : Nat) (play capture : Bool) (counts : ProbeCounts) :
    Proc (Panel V) ProbeCounts := do
  let mixer ← openMixer io unit
  match mixer with
  | none => pure counts
  | some mixer => do
    let probeRecsrc ← mixer.recsrc io
    let s ← get
    let probe := probeDirection curve io deviceCount s.mixers.length mixer (probeRecsrc.getD 0#32)
    let counts ← probe .playback play { counts with used := false }
    let counts ← probe .capture capture counts
    if counts.used then do
      let counter ← mixer.modifyCounter io
      modify fun s => { s with mixers := s.mixers ++ [⟨mixer, counter.getD 0⟩] }
      pure counts
    else pure counts

def probeUnits (deviceCount : Nat) :
    List (Nat × Bool × Bool) → ProbeCounts → Proc (Panel V) Unit
  | [], _ => pure ()
  | (unit, play, capture) :: devices, counts => do
    let counts ← probeUnit curve io deviceCount unit play capture counts
    probeUnits deviceCount devices counts

/-- `RouteController::probe`. -/
def probe (snapshot : DeviceSnapshot) : Proc (Panel V) Unit :=
  let devices := (pcmUnits snapshot).entries
  probeUnits curve io devices.length devices {}

end

/-! ## Readback -/

section
variable (io : Ioctls)

/-- `RouteController::resolve_controls`. -/
def resolveControls (pos : Nat) : Proc (Panel V) Unit := do
  let binding ← bindingAt pos
  if binding.followsRecsrc then do
    let handle ← mixerAt binding.mixer
    let picked ← handle.mixer.inputControl io
    match picked with
    | some (control, true) => do
      let levels ← handle.mixer.level io control
      let mute ← handle.mixer.muted io control
      let binding :=
        { binding with
          volumeControl := levels.map fun _ => control
          muteControl := mute.map fun _ => control }
      modify fun s => { s with bindings := s.bindings.set pos binding }
    | _ => pure ()
  else pure ()

/-- The levels of a binding's volume control. -/
def readLevels (binding : RouteBinding) : Proc (Panel V) (Option (Nat × Nat)) :=
  match binding.volumeControl with
  | none => pure none
  | some control => do
    let handle ← mixerAt binding.mixer
    handle.mixer.level io control

/-- The state of a binding's mute control. -/
def readMuted (binding : RouteBinding) : Proc (Panel V) (Option Bool) :=
  match binding.muteControl with
  | none => pure none
  | some control => do
    let handle ← mixerAt binding.mixer
    handle.mixer.muted io control

/-- Stores the levels that were read, if any. -/
def storeLevels (curve : Curve V) (pos : Nat) : Option (Nat × Nat) → Proc (Panel V) Unit
  | none => pure ()
  | some levels =>
    modifyRoute pos fun route => { route with volume := curve.setNativeLevels route.volume levels }

/-- Stores the mute state that was read, if any. -/
def storeMuted (pos : Nat) : Option Bool → Proc (Panel V) Unit
  | none => pure ()
  | some mute =>
    modifyRoute pos fun route => { route with mute := { route.mute with value := mute } }

/-- `RouteController::refresh`. -/
def refresh (curve : Curve V) (pos : Nat) : Proc (Panel V) Unit := do
  resolveControls io pos
  let binding ← bindingAt pos
  modifyRoute pos fun route =>
    { route with
      volume := { route.volume with hardware := binding.volumeControl.isSome }
      mute := { route.mute with hardware := binding.muteControl.isSome } }
  let levels ← readLevels io binding
  storeLevels curve pos levels
  let muted ← readMuted io binding
  storeMuted pos muted

/-- `RouteController::sync_source`. -/
def syncSource (curve : Curve V) (mixerIndex : Nat) : Proc (Panel V) (Option (List Nat)) := do
  let s ← get
  if s.bindings.any fun binding => binding.mixer == mixerIndex && binding.source.isSome then do
    let handle ← mixerAt mixerIndex
    let recsrc ← handle.mixer.recsrc io
    match recsrc with
    | none => pure none
    | some recsrc => do
      let selected := selectedRecordingSources handle.mixer.recmask recsrc
      let synced := syncSourceRoutes mixerIndex selected 0 s.routes s.bindings
      modify fun s => { s with routes := synced.1 }
      visit synced.2 fun pos => do
        let route ← routeAt pos
        if route.active then refresh io curve pos else pure ()
      pure (some synced.2)
  else pure none

/-- `RouteController::refresh_all`. -/
def refreshAll (curve : Curve V) : Proc (Panel V) Unit := do
  let s ← get
  visit (List.range s.mixers.length) fun mixer => do
    let _ ← syncSource io curve mixer
  visit (List.range s.routes.length) (refresh io curve)

/-! ## Poll -/

variable [DecidableEq V] (curve : Curve V)

/-- The change of a route whose levels or mute were changed by other hands. -/
def externalValueChange (route : RouteSnapshot V) (volume mute : Bool) : RouteChange where
  key := some route.key
  volume
  mute
  refresh := true
  diagnostic :=
    let (left, right) := curve.nativeLevels route.volume
    some (.info s!"route {route.name} changed externally: levels ({left}, {right}), mute {route.mute.value}")

/-- Refreshes a route of the polled mixer and reports it when it is active and differs. -/
def pollRoute (mixerIndex pos : Nat) : Proc (Panel V) (List RouteChange) := do
  let binding ← bindingAt pos
  if binding.mixer ≠ mixerIndex then pure []
  else do
    let before ← routeAt pos
    refresh io curve pos
    let route ← routeAt pos
    let volume := decide (before.volume ≠ route.volume)
    let mute := decide (before.mute ≠ route.mute)
    pure (if route.active && (volume || mute) then
      [externalValueChange curve route volume mute] else [])

/-- The part of `poll` about one mixer. -/
def pollMixer (mixerIndex : Nat) : Proc (Panel V) (List RouteChange) := do
  let handle ← mixerAt mixerIndex
  let counter ← handle.mixer.modifyCounter io
  match counter with
  | none => pure []
  | some counter => do
    setCounter mixerIndex counter
    let synced ← syncSource io curve mixerIndex
    let selections ← collect (synced.getD []) fun pos => do
      let route ← routeAt pos
      pure [externalSelectionChange route]
    let s ← get
    let values ← collect (List.range s.routes.length) (pollRoute io curve mixerIndex)
    pure (selections ++ values)

/-- `RouteController::poll`. -/
def poll : Proc (Panel V) (List RouteChange) := do
  let s ← get
  collect (List.range s.mixers.length) (pollMixer io curve)

/-! ## Apply -/

/-- The first active source route of a mixer. -/
def findSelected (mixerIndex : Nat) : List (RouteBinding × Nat) → Proc (Panel V) (Option Nat)
  | [] => pure none
  | (binding, candidate) :: rest =>
    if binding.mixer = mixerIndex ∧ binding.source.isSome then do
      let route ← routeAt candidate
      if route.active then pure (some candidate) else findSelected mixerIndex rest
    else findSelected mixerIndex rest

/-- The route that the recording source of a mixer is at after a request for `pos`. -/
def selectedRoute (mixerIndex pos : Nat) : Proc (Panel V) (Option Nat) := do
  let route ← routeAt pos
  if route.active then pure (some pos)
  else do
    let s ← get
    findSelected mixerIndex s.bindings.zipIdx

/-- The selection that a request for route `pos` asks for: the route that it ends
with, and its outcome. -/
def selectSource (activate : Bool) (pos : Nat) :
    Proc (Panel V) (Option Nat × RouteSelectionOutcome) := do
  let route ← routeAt pos
  if activate && !route.active then do
    let binding ← bindingAt pos
    match binding.source with
    | none => pure (none, .unchanged)
    | some source => do
      let handle ← mixerAt binding.mixer
      let written ← handle.mixer.setRecsrc io (maskBit source)
      if written then do
        let _ ← syncSource io curve binding.mixer
        let selected ← selectedRoute binding.mixer pos
        pure (selected, if selected = some pos then .applied else .deflected)
      else pure (none, .failed)
  else pure (none, .unchanged)

/-- The part of a request before its values: the selection, and the binding that the
values are applied through. -/
def prepare (activate : Bool) (pos : Nat) :
    Proc (Panel V) (Option Nat × RouteSelectionOutcome × RouteBinding) := do
  let (selected, selection) ← selectSource io curve activate pos
  resolveControls io pos
  let binding ← bindingAt pos
  pure (selected, selection, binding)

/-- What the values of a request did: `volume`, `mute`, and their failed writes. -/
structure Applied where
  volume : Bool := false
  mute : Bool := false
  volumeWriteFailed : Bool := false
  muteWriteFailed : Bool := false
  deriving DecidableEq, Repr

/-- Writes a mute request to the binding's control. Without one, nothing can fail. -/
def writeMuted (binding : RouteBinding) (requested : Bool) : Proc (Panel V) Bool :=
  match binding.muteControl with
  | none => pure true
  | some control => do
    let handle ← mixerAt binding.mixer
    handle.mixer.setMuted io control requested

/-- Writes levels to the binding's control. Without one, nothing can fail. -/
def writeLevels (binding : RouteBinding) (levels : Nat × Nat) : Proc (Panel V) Bool :=
  match binding.volumeControl with
  | none => pure true
  | some control => do
    let handle ← mixerAt binding.mixer
    handle.mixer.setLevel io control levels.1 levels.2

/-- Applies one value to the route at `pos` through its resolved binding. -/
def applyValue (pos : Nat) (binding : RouteBinding) (done : Applied) :
    RouteValueUpdate V → Proc (Panel V) Applied
  | .mute requested => do
    let route ← routeAt pos
    if requested = route.mute.value then pure done
    else do
      let written ← writeMuted io binding requested
      if written then do
        storeMuted pos (some requested)
        pure { done with mute := true }
      else pure { done with muteWriteFailed := true }
  | .volume values => do
    let route ← routeAt pos
    let levels := curve.levels values
    if values.isEmpty || levels = curve.nativeLevels route.volume then pure done
    else do
      let written ← writeLevels io binding levels
      if written then do
        storeLevels curve pos (some levels)
        pure { done with volume := true }
      else pure { done with volumeWriteFailed := true }

def applyValues (pos : Nat) (binding : RouteBinding) :
    List (RouteValueUpdate V) → Applied → Proc (Panel V) Applied
  | [], done => pure done
  | value :: values, done => do
    let done ← applyValue io curve pos binding done value
    applyValues pos binding values done

/-- Notes the mixer's counter, if it can be read. -/
def recordCounter (i : Nat) : Proc (Panel V) Unit := do
  let handle ← mixerAt i
  let counter ← handle.mixer.modifyCounter io
  match counter with
  | some counter => setCounter i counter
  | none => pure ()

/-- `selection_notification_flags`. -/
def selectionNotificationFlags (requestedPos : Nat) (selected : Option Nat) (volume mute : Bool) :
    Proc (Panel V) (Nat × Bool × Bool) :=
  match selected with
  | some changedPos => do
    let route ← routeAt changedPos
    if changedPos = requestedPos then
      pure (changedPos, volume || route.volume.hardware, mute || route.mute.hardware)
    else pure (changedPos, route.volume.hardware, route.mute.hardware)
  | none => do
    let route ← routeAt requestedPos
    if route.active then pure (requestedPos, volume, mute) else pure (requestedPos, false, false)

/-- The diagnostic of a request for the route `name`. -/
def applyDiagnostic (name : String) (selection : RouteSelectionOutcome) (done : Applied) :
    Option RouteDiagnostic :=
  let diagnostics :=
    (match selection with
      | .failed => ["can't select the recording source for route " ++ name]
      | .deflected => ["kernel did not move the recording source to route " ++ name]
      | .unchanged | .applied => [])
    ++ (if done.volumeWriteFailed then ["can't set hardware volume for route " ++ name] else [])
    ++ (if done.muteWriteFailed then ["can't set hardware mute for route " ++ name] else [])
  let message := "; ".intercalate diagnostics
  if diagnostics = [] then none
  else if selection = .failed ∨ done.volumeWriteFailed ∨ done.muteWriteFailed then
    some (.warning message)
  else some (.info message)

/-- `RouteController::position`. -/
def position (routes : List (RouteSnapshot V)) (key : Nat) : Option Nat :=
  routes.findIdx? fun route => route.key == key

/-- `RouteController::apply`. -/
def apply (key : Nat) (update : RouteUpdate V) : Proc (Panel V) RouteChange := do
  let s ← get
  match position s.routes key with
  | none => pure {}
  | some pos => do
    let (selected, selection, binding) ← prepare io curve update.activate pos
    let done ← applyValues io curve pos binding update.values {}
    recordCounter io binding.mixer
    let (changedPos, volume, mute) ←
      selectionNotificationFlags pos selected done.volume done.mute
    let requested ← routeAt pos
    let changed ← routeAt changedPos
    pure
      { key := some changed.key
        volume
        mute
        selection
        refresh := selection = .applied || selection = .deflected || volume || mute
        diagnostic := applyDiagnostic requested.name selection done }

end

end PwOss.Oss
