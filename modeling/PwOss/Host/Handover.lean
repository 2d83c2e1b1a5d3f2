import PwOss.Device.Listeners
import PwOss.Monitor.Events
import PwOss.Oss.Properties
import PwOss.Oss.Units

/-
  From the catalog to the streams: what a session manager makes of the monitor's
  groups.

  It makes a device of each group that it was told of, and a node of each object that it
  was told of by a device. All that it passes on are the dictionaries of the events, to
  which it may add items of its own. So a unit number goes through two texts, the list of
  a group's units and the path of a node's stream. What comes out is the catalog: each
  unit of the kernel is served by the device of its one group, with one node for each
  direction that it has, and the node opens that unit's device (`units_served`).

  Correspondence (Rust ↔ Lean):
    `device/events.rs` `emit_object_on`        ↔ `nodeInfo`
    `device/mod.rs` `init`                     ↔ `findUnits`, and `Runtime.init`
    `node/factory.rs` `init`                   ↔ `findStream`
    `lib.rs` `SINK_FACTORY`, `SOURCE_FACTORY`  ↔ `nodeFactory`
-/

namespace PwOss.Host

open PwOss.Backend PwOss.Device PwOss.Monitor PwOss.Oss PwOss.Proc PwOss.Spa PwOss.Sys
  PwOss.Transition

/-! ## Objects -/

/-- `SINK_FACTORY_NAME`, `SOURCE_FACTORY_NAME`. -/
def factoryName : StreamDirection → String
  | .playback => "freebsd-oss.sink"
  | .capture => "freebsd-oss.source"

/-- `spa_device_object_info`. -/
structure ObjectInfo where
  factoryName : String
  props : List (String × String)
  deriving DecidableEq, Repr

/-- The info of an endpoint, from `emit_object_on`. -/
def nodeInfo (e : Endpoint) (routeCount : Nat) : ObjectInfo where
  factoryName := factoryName e.direction
  props :=
    [("node.name", e.name), ("node.description", e.description), (streamPathKey, e.locator)] ++
      if routeCount > 0 then
        [("card.profile.device", toString e.objectId), ("device.routes", toString routeCount)]
      else []

/-! ## Plugins made of dictionaries -/

/-- The part of a device's `init` that finds its units. -/
def findUnits (kernel : Kernel) (items : List (String × String)) :
    Except ErrnoCode (DeviceCard × Option String) :=
  let init := parseDeviceDict items
  if init.isComplete then
    match deviceSnapshot kernel init.units with
    | some card => .ok (card, init.parentName)
    | none => .error (-einval)
  else .error (-einval)

/-- The factories of nodes, by name. -/
def nodeFactory (name : String) : Option StreamDirection :=
  [.playback, .capture].find? fun direction => factoryName direction = name

/-- The part of a node's `init` that finds its stream. -/
def findStream (direction : StreamDirection) (items : List (String × String)) :
    Except ErrnoCode String :=
  match (parseInitDict (direction = .playback) items).streamPath with
  | some path => .ok path
  | none => .error (-einval)

/-! ## A session manager's groups and nodes -/

/-- The catalog as a read makes it: the number of a unit is an `int`. -/
def Scanned (groups : Groups) : Prop :=
  ∃ parent indexes, (∀ index ∈ indexes, index < 2 ^ 31) ∧ groups = groupByParent parent indexes

/-- A monitor, from its scan on. -/
def watching : System Monitor Monitor.Event where
  init s := Scanned s.catalog ∧ Notifier.system.init s.notifier
  step := Monitor.step

/-- A read that succeeds is a scan. -/
def Scans (_ : Monitor) : Monitor.Event → Prop
  | .hotplug call => ∀ groups, call.read = .ok groups → Scanned groups
  | _ => True

section
variable {V : Type} [DecidableEq V] (curve : Curve V) (step : V)

/-- A device that `init` made of a dictionary. -/
def MadeOf (kernel : Kernel) (items : List (String × String)) (w : Runtime V) : Prop :=
  ∃ io card parentName hw, findUnits kernel items = .ok (card, parentName) ∧
    Runtime.init curve io card parentName hw = some w

/-- The device, with its listeners. -/
def serving (kernel : Kernel) (items : List (String × String)) :
    System (Audience (Runtime V) (DeviceNotification V) (Consumer V)) (Audience.Event (Op V) ParamId) :=
  Audience.system (script curve step) (MadeOf curve kernel items)

end

/-- A listener that is still there and is owed nothing. -/
structure Settled {N : Type} (n : Notifier N) (id : Nat) (c : Card N) : Prop where
  card : n.cards id = some c
  there : c.removed = false
  queue : n.queue = []
  owed : n.owed id = []

/-- The nodes of some units: one for each direction that a unit has, made by the factory
of that direction, on the unit's stream. -/
structure Serves (kernel : Kernel) (units : List Nat) (nodes : Nodes) : Prop where
  offered : ∀ unit ∈ units, ∀ device, kernel.device unit = some device →
    ∀ direction, device.enabled direction = true → nodes (nodeOf unit direction) ≠ none
  opened : ∀ id e routeCount, nodes id = some (e, routeCount) →
    ∃ unit ∈ units, ∃ device, kernel.device unit = some device ∧
      ∃ direction, device.enabled direction = true ∧ id = nodeOf unit direction ∧
        nodeFactory (nodeInfo e routeCount).factoryName = some direction ∧
        ∀ items, Carries items (nodeInfo e routeCount).props →
          findStream direction items = .ok (streamPath unit)

/-! ## Units -/

theorem latest_under (key : String) (items : List (String × String)) :
    latest key some items = ((under key items).getLast?).map (·.2) := by
  have hitems : items.filterMap (itemAt key some) = (under key items).map (·.2) := by
    unfold under
    rw [← List.filterMap_eq_map, List.filterMap_filter]
    refine List.filterMap_congr fun item _ => ?_
    simp [itemAt]
  rw [latest, hitems, List.getLast?_map]

/-- Whatever a session manager adds, a node is given the stream of its endpoint. -/
theorem findStream_carried {e : Endpoint} {routeCount : Nat} {items : List (String × String)}
    (hitems : Carries items (nodeInfo e routeCount).props) (direction : StreamDirection) :
    findStream direction items = .ok e.locator := by
  have hprops : under streamPathKey (nodeInfo e routeCount).props = [(streamPathKey, e.locator)] := by
    have hname : "node.name" ≠ streamPathKey := by decide
    have hdescription : "node.description" ≠ streamPathKey := by decide
    have hdevice : "card.profile.device" ≠ streamPathKey := by decide
    have hroutes : "device.routes" ≠ streamPathKey := by decide
    unfold under nodeInfo
    split <;> simp [hname, hdescription, hdevice, hroutes]
  have hunder := hitems (streamPathKey, e.locator) (by simp [nodeInfo])
  have hpath : (parseInitDict (direction = .playback) items).streamPath = some e.locator := by
    rw [(parseInitDict_decided _ items).streamPath, latest_under, hunder, hprops]
    rfl
  rw [findStream, hpath]

theorem nodeFactory_factoryName (direction : StreamDirection) :
    nodeFactory (factoryName direction) = some direction := by
  cases direction <;> decide

section
variable {V : Type} {w : Runtime V}

theorem nodes_of_mem {e : Endpoint} (hon : w.profile ≠ 0) (he : e ∈ w.card.endpoints) :
    w.nodes e.objectId ≠ none := by
  intro hnone
  rw [Runtime.nodes, if_neg hon, Option.map_eq_none_iff, List.find?_eq_none] at hnone
  exact hnone e (List.mem_reverse.mpr he) (decide_eq_true rfl)

theorem nodes_eq_some {id : Nat} {e : Endpoint} {routeCount : Nat}
    (h : w.nodes id = some (e, routeCount)) : e ∈ w.card.endpoints ∧ e.objectId = id := by
  unfold Runtime.nodes at h
  split at h
  · cases h
  · obtain ⟨_, hfind, heq⟩ := Option.map_eq_some_iff.mp h
    cases heq
    refine ⟨List.mem_reverse.mp (List.mem_of_find?_eq_some hfind), ?_⟩
    simpa using List.find?_some hfind

/-- The nodes of a device whose profile is on serve its units. -/
theorem serves_nodes {kernel : Kernel} {units : List Nat}
    (hcard : deviceSnapshot kernel units = some w.card) (h : ∀ unit ∈ units, unit < 2 ^ 31)
    (hon : w.profile ≠ 0) : Serves kernel units w.nodes := by
  have hendpoints := deviceSnapshot_endpoints hcard
  constructor
  · intro unit hunit device hdevice direction henabled
    have he : device.endpoint w.card.description direction ∈ w.card.endpoints :=
      (hendpoints _).mpr ⟨unit, hunit, device, hdevice, direction, henabled, rfl⟩
    rw [← endpoint_objectId (h unit hunit) hdevice w.card.description direction]
    exact nodes_of_mem hon he
  · intro id e routeCount hnode
    obtain ⟨he, hid⟩ := nodes_eq_some hnode
    obtain ⟨unit, hunit, device, hdevice, direction, henabled, rfl⟩ := (hendpoints e).mp he
    rw [endpoint_objectId (h unit hunit) hdevice] at hid
    refine ⟨unit, hunit, device, hdevice, direction, henabled, hid.symm,
      nodeFactory_factoryName direction, fun items hitems => ?_⟩
    rw [findStream_carried hitems direction]
    exact congrArg (Except.ok <| streamPath ·) (Kernel.device_index hdevice)

end

/-! ## Runs of a monitor -/

theorem mem_detachGroup {groups : Groups} {subject : String} {e : String × List Nat}
    (h : e ∈ (detachGroup groups subject).1.entries) : e ∈ groups.entries := by
  unfold detachGroup at h
  split at h
  · exact h
  · split at h
    · exact h
    · exact (OrdMap.OrdMap.mem_erase.mp h).1

/-- The detach loop adds no group. -/
theorem mem_detachGroups {detached : List String} {groups : Groups} {e : String × List Nat}
    (h : e ∈ (detachGroups groups detached).1.entries) : e ∈ groups.entries := by
  induction detached generalizing groups with
  | nil => exact h
  | cons subject rest ih => exact mem_detachGroup (ih h)

/-- The unit numbers of a catalog are not negative as `int`s. -/
def Numbered (groups : Groups) : Prop := ∀ e ∈ groups.entries, ∀ unit ∈ e.2, unit < 2 ^ 31

theorem Scanned.numbered {groups : Groups} (h : Scanned groups) : Numbered groups := by
  obtain ⟨parent, indexes, hindexes, rfl⟩ := h
  intro e he unit hunit
  obtain ⟨-, hunits⟩ := mem_groupByParent.mp he
  rw [hunits] at hunit
  exact hindexes unit (List.mem_filter.mp hunit).1

theorem Scanned.wellFormed {groups : Groups} (h : Scanned groups) : WellFormed groups := by
  obtain ⟨parent, indexes, -, rfl⟩ := h
  exact groupByParent_wellFormed parent indexes

theorem Numbered.rescan {groups : Groups} (h : Numbered groups) (call : RescanCall)
    (hr : ∀ groups, call.read = .ok groups → Scanned groups) :
    Numbered (rescanWith groups call.detached call.read).1 := by
  unfold rescanWith
  cases hread : call.read with
  | error error => exact fun e he => h e (mem_detachGroups he)
  | ok new => exact (hr new hread).numbered

theorem watched {m : Monitor} (h : Via watching Scans m) :
    Via Monitor.system Monitor.ReadsWell m ∧ Numbered m.catalog := by
  induction h with
  | init hinit => exact ⟨.init ⟨hinit.1.wellFormed, hinit.2⟩, hinit.1.numbered⟩
  | @step s s' e _ he hstep ih =>
    obtain ⟨hvia, hnumbered⟩ := ih
    refine ⟨.step hvia ?_ hstep, ?_⟩
    · cases e with
      | hotplug call => exact fun groups hg => (he groups hg).wellFormed
      | _ => exact trivial
    · obtain ⟨notifier, -, rfl⟩ := Option.map_eq_some_iff.mp hstep
      cases e with
      | hotplug call => exact hnumbered.rescan call he
      | _ => exact hnumbered

/-! ## Runs of a device -/

section
variable {V : Type} [DecidableEq V] {curve : Curve V} {step : V} {kernel : Kernel}
  {items : List (String × String)}

/-- A device stays the one of its units. -/
theorem perform_card {w : Runtime V} (hw : w.Ready curve) (op : Op V) :
    Runs (Runtime.perform curve op) w fun _ w' => w'.card = w.card := by
  cases op with
  | setParam io id param =>
    refine .bind_of (setParam_runs hw io id param) ?_
    rintro res w' (⟨request, -, h⟩ | ⟨bump, configs, h⟩)
    · exact .pure h.card
    · exact .pure h.card
  | routeTimeout io => exact (pollRoutes_runs hw).mono fun notes w' ⟨bump, configs, h⟩ => h.card
  | mixerEvent io event =>
    exact (onMixerEvent_runs hw event).mono fun notes w' ⟨bump, configs, h⟩ => h.card
  | sync seq => exact .pure (by rfl)
  | outside hw' => exact .modify (.pure (by rfl))

/-- Every operation keeps what a device was made of. -/
theorem script_keeps_card :
    (script curve step).Keeps (MadeOf curve kernel items)
      (fun w => w.Sound curve ∧ ∃ parentName, findUnits kernel items = .ok (w.card, parentName))
      (Informed curve step) where
  init w hw := by
    obtain ⟨io, card, parentName, hardware, hfind, hinit⟩ := hw
    have hcard : w.card = card := by
      obtain ⟨⟨_, panel⟩, -, hinit⟩ := Option.bind_eq_some_iff.mp hinit
      obtain ⟨info, -, hinit⟩ := Option.bind_eq_some_iff.mp hinit
      cases hinit
      rfl
    exact ⟨Runtime.Initial.sound ⟨io, card, parentName, hardware, hinit⟩,
      parentName, hcard.symm ▸ hfind⟩
  act w op w' notes hw hact := by
    obtain ⟨hsound, parentName, hfind⟩ := hw
    obtain ⟨hsound', hinformed⟩ := (script_keeps curve step).act w op w' notes hsound hact
    obtain ⟨⟨notes', w''⟩, hperform, heq⟩ := Option.map_eq_some_iff.mp hact
    cases heq
    have hcard : w'.card = w.card := (perform_card hsound.toReady op).elim hperform
    exact ⟨⟨hsound', parentName, hcard.symm ▸ hfind⟩, hinformed⟩
  start w hw := (script_keeps curve step).start w hw.1
  hear := (script_keeps curve step).hear
  ask := (script_keeps curve step).ask

/-- A listener to which nothing is owed holds the nodes that the device offers, of the
units that the device was made of. -/
theorem served_nodes {a : Audience (Runtime V) (DeviceNotification V) (Consumer V)}
    (h : Reachable (serving curve step kernel items) a) {id : Nat} {c : Card (DeviceNotification V)}
    (hc : Settled a.notifier id c) :
    (∃ parentName, findUnits kernel items = .ok (a.world.card, parentName)) ∧
      (a.readers id).nodes = a.world.nodes := by
  have hkept := Audience.kept script_keeps_card h
  exact ⟨hkept.world.2, (hkept.settled hc.card hc.there hc.queue hc.owed).2⟩

end

/-! ## From the catalog to the streams -/

/-- In every run of a monitor, with any detach notices and any reads, and however callbacks
re-enter it, a listener that is owed nothing holds the catalog's groups. Of a group it
makes a device with any dictionary that carries what it was told. That fails just when the
kernel describes no unit of the group. Where it describes one, the device has the group's
name, and whatever is then asked of it and of its mixers, and however its callbacks
re-enter it: a listener that is owed nothing holds no nodes while the profile is Off, and
the nodes that serve the units of the group while it is on; no other group has a unit of
these. -/
theorem units_served {V : Type} [DecidableEq V] (curve : Curve V) (step : V) {m : Monitor}
    (h : Via watching Scans m) {i : Nat} {c : Card MonitorNote} (hc : Settled m.notifier i c) :
    ∃ l, MonitorNote.replay Monitor.untold c.log = some l ∧ l.Holds (snapshots m.catalog) ∧
      ∀ id group, l id = some group → ∃ name units, (name, units) ∈ m.catalog.entries ∧
        (∀ e ∈ m.catalog.entries, ∀ unit ∈ units, unit ∈ e.2 → e = (name, units)) ∧
        ∀ kernel items, Carries items group.properties →
          (findUnits kernel items = .error (-einval) ∧ ∀ unit ∈ units, kernel.device unit = none) ∨
          ((∃ unit ∈ units, kernel.device unit ≠ none) ∧
              ∃ card, findUnits kernel items = .ok (card, some name)) ∧
            ∀ a, Reachable (serving curve step kernel items) a →
              ∀ j d, Settled a.notifier j d →
                (a.world.profile = 0 → ∀ node, (a.readers j).nodes node = none) ∧
                (a.world.profile ≠ 0 → Serves kernel units (a.readers j).nodes) := by
  obtain ⟨hvia, hnumbered⟩ := watched h
  have htells := Monitor.tells hvia
  obtain ⟨l, hl, hreflects⟩ := htells.told i c hc.card
  rw [← htells.sound.served.complete hc.card hc.there hc.queue hc.owed] at hl
  refine ⟨l, hl, Listener.holds_of_reflects hreflects, fun id group hgroup => ?_⟩
  obtain ⟨⟨name, units⟩, he, hsnapshot, -⟩ := (hreflects id group).mp hgroup
  have hunits : ∀ unit ∈ units, unit < 2 ^ 31 := hnumbered _ he
  have hne : units ≠ [] := htells.wellFormed.nonempty _ he
  refine ⟨name, units, he, fun e he' unit hunit hunit' => ?_, fun kernel items hitems => ?_⟩
  · exact htells.wellFormed.disjoint e he' _ he unit hunit' hunit
  have hparse : parseDeviceDict items = ⟨some name, units⟩ := by
    refine parseDeviceDict_carried hsnapshot (fun unit hunit => ?_) hitems
    exact Nat.le_trans (Nat.le_of_lt (hunits unit hunit)) (by decide)
  have hcomplete : (⟨some name, units⟩ : OssDeviceInit).isComplete = true := by
    simpa [OssDeviceInit.isComplete] using hne
  cases hcard : deviceSnapshot kernel units with
  | none =>
    have hfind : findUnits kernel items = .error (-einval) := by
      rw [findUnits, hparse, if_pos hcomplete, hcard]
    exact .inl ⟨hfind, deviceSnapshot_eq_none.mp hcard⟩
  | some card =>
    have hfind : findUnits kernel items = .ok (card, some name) := by
      rw [findUnits, hparse, if_pos hcomplete, hcard]
    have hdescribed : ∃ unit ∈ units, kernel.device unit ≠ none := by
      by_contra hnone
      push Not at hnone
      rw [deviceSnapshot_eq_none.mpr hnone] at hcard
      cases hcard
    refine .inr ⟨⟨hdescribed, card, hfind⟩, fun a ha j d hd => ?_⟩
    obtain ⟨⟨parentName, hmade⟩, hnodes⟩ := served_nodes ha hd
    have hworld : deviceSnapshot kernel units = some a.world.card := by
      rw [hfind] at hmade
      cases hmade
      exact hcard
    rw [hnodes]
    refine ⟨fun hoff node => ?_, serves_nodes hworld hunits⟩
    rw [Runtime.nodes, if_pos hoff]

/-! ## A card of which one unit is left -/

theorem usbDac_scanned : Scanned usbDac := by
  refine ⟨fun _ => some "usb-dac", [3, 4], by decide, ?_⟩
  have hentries : usbDac.entries = (groupByParent (fun _ => some "usb-dac") [3, 4]).entries := by
    decide +kernel
  cases hgroups : groupByParent (fun _ => some "usb-dac") [3, 4]
  rw [hgroups] at hentries
  cases hentries
  rfl

/-- The second unit is gone when the device is made. -/
def usbKernel : Kernel where
  description unit := if unit = 3 then some "USB DAC" else none
  location _ := some "bus=1"
  sndstat := some [(3, true, true), (4, true, false)]
  mode _ := none

/-- The group's items, among others of a session manager. -/
def usbItems : List (String × String) :=
  [("device.nick", "DAC"), (deviceIndexes, "3,4"), ("device.bus", "usb"), (parentDevice, "usb-dac")]

/-- What the monitor tells of the card. -/
def usbGroup : CatalogGroupSnapshot :=
  ⟨"freebsd-oss:usb-dac", 3, [(parentDevice, "usb-dac"), (deviceIndexes, "3,4")]⟩

theorem usbItems_carries : Carries usbItems usbGroup.properties := by
  intro property hproperty
  simp only [usbGroup, List.mem_cons, List.not_mem_nil, or_false] at hproperty
  rcases hproperty with rfl | rfl <;> decide

def usbDevice : Option (Runtime Nat) :=
  (findUnits usbKernel usbItems).toOption.bind fun found =>
    Runtime.init levelCurve (answers []) found.1 found.2 lineMixer

theorem usbDevice_made {w : Runtime Nat} (h : usbDevice = some w) :
    MadeOf levelCurve usbKernel usbItems w := by
  obtain ⟨⟨card, parentName⟩, hfound, hinit⟩ := Option.bind_eq_some_iff.mp h
  refine ⟨answers [], card, parentName, lineMixer, ?_, hinit⟩
  cases hfind : findUnits usbKernel usbItems with
  | error err =>
    rw [hfind] at hfound
    cases hfound
  | ok found =>
    rw [hfind] at hfound
    cases hfound
    rfl

/-- A listener of the monitor is told the catalog. -/
def watches : List Monitor.Event := [.addListener 0] ++ emission ++ emission ++ [.run]

/-- A listener of the device is told of its two nodes. -/
def listens : List (Audience.Event (Op Nat) ParamId) :=
  [.addListener 0] ++ called ++ called ++ called ++ [.run]

/-- The device that the listener makes serves the unit that is left, in both directions. -/
theorem units_served_partly : ∃ m c a d, Via watching Scans m ∧ Settled m.notifier 0 c ∧
    Reachable (serving levelCurve 1 usbKernel usbItems) a ∧ Settled a.notifier 0 d ∧
    (∃ l group, MonitorNote.replay Monitor.untold c.log = some l ∧ l 3 = some group) ∧
    Serves usbKernel [3, 4] (a.readers 0).nodes := by
  have hmonitor : (watching.run scannedMonitor watches).map (fun m =>
      (m.catalog.entries, m.notifier.queue.isEmpty, (m.notifier.owed 0).isEmpty,
        (m.notifier.cards 0).map (·.removed))) =
      some (usbDac.entries, true, true, some false) := by
    decide +kernel
  have hdevice : (usbDevice.bind fun w =>
      (serving levelCurve 1 usbKernel usbItems).run (alone w) listens).map (fun a =>
        (a.world.profile, a.notifier.queue.isEmpty, (a.notifier.owed 0).isEmpty,
          (a.notifier.cards 0).map (·.removed))) =
      some (1, true, true, some false) := by
    decide +kernel
  obtain ⟨m, hm, hmview⟩ := Option.map_eq_some_iff.mp hmonitor
  obtain ⟨a, ha, haview⟩ := Option.map_eq_some_iff.mp hdevice
  obtain ⟨w, hw, ha⟩ := Option.bind_eq_some_iff.mp ha
  simp only [Prod.mk.injEq, List.isEmpty_iff, Option.map_eq_some_iff] at hmview haview
  obtain ⟨hcatalog, hmq, hmo, c, hc, hcr⟩ := hmview
  obtain ⟨hprofile, haq, hao, d, hd, hdr⟩ := haview
  have hvia : Via watching Scans m := by
    refine via_of_run watches (.init ⟨usbDac_scanned, rfl, rfl, rfl, fun _ => rfl, rfl, rfl, rfl,
      fun _ => rfl⟩) (fun t e he => ?_) hm
    cases e with
    | hotplug call => simp [watches, emission] at he
    | _ => exact trivial
  have hreach : Reachable (serving levelCurve 1 usbKernel usbItems) a := by
    refine via_of_run listens (.init ⟨usbDevice_made hw, rfl, rfl, rfl, fun _ => rfl, rfl, rfl, rfl,
      fun _ => rfl⟩) (fun _ _ _ => trivial) ha
  have hsettled : Settled m.notifier 0 c := ⟨hc, hcr, hmq, hmo⟩
  have hasettled : Settled a.notifier 0 d := ⟨hd, hdr, haq, hao⟩
  obtain ⟨l, hl, hholds, hgroups⟩ := units_served levelCurve 1 hvia hsettled
  have hgroup : l 3 = some usbGroup := by
    refine (hholds 3 usbGroup).mpr ⟨?_, rfl⟩
    rw [snapshots, hcatalog]
    exact List.mem_singleton_self _
  refine ⟨m, c, a, d, hvia, hsettled, hreach, hasettled, ⟨l, usbGroup, hl, hgroup⟩, ?_⟩
  obtain ⟨name, units, he, -, hmade⟩ := hgroups 3 usbGroup hgroup
  rw [hcatalog] at he
  cases List.mem_singleton.mp he
  rcases hmade usbKernel usbItems usbItems_carries with ⟨-, hnone⟩ | ⟨-, hserves⟩
  · have hthere : (usbKernel.device 3).isSome = true := by decide +kernel
    rw [hnone 3 List.mem_cons_self] at hthere
    cases hthere
  · exact (hserves a hreach 0 d hasettled).2 (by rw [hprofile]; decide)

end PwOss.Host
