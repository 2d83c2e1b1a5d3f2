import PwOss.Device.Listeners
import PwOss.Oss.Restored

/-
  What becomes of a Route pod that was stored and is written back.

  A session manager keeps the Route pods of a device over its unplugging and over
  reboots. The pod names its route by node and name, and carries the index that the
  route had. The index is another one when the units are found in another order, so it
  counts only when the name agrees (`resolveRoutePos_named`). What is written back is
  either refused, or goes to the route of that node and name (`stored_route_restored`).
-/

namespace PwOss.Device

open PwOss.Lists PwOss.Oss PwOss.Proc PwOss.Spa PwOss.Sys PwOss.Transition

variable {V : Type}

/-! ## Routes by their names -/

/-- The route of a node with a name is found, whatever index is asked for. -/
theorem resolveRoutePos_named {routes : List (RouteSnapshot V)} (h : Named routes)
    (index : Option Nat) (name : String) (device k : Nat) :
    resolveRoutePos routes index (some name) device = some k ↔
      ∃ r, routes[k]? = some r ∧ r.name = name ∧ r.nodeId = device := by
  constructor
  · intro hpos
    obtain ⟨r, hr, hnode, hname⟩ := resolveRoutePos_some hpos
    exact ⟨r, hr, hname name rfl, hnode⟩
  · rintro ⟨r, hr, hname, hnode⟩
    have hfound : (resolveRoutePos routes index (some name) device).isSome := by
      rw [resolveRoutePos, Option.isSome_or, Bool.or_eq_true, Option.bind_some,
        List.findIdx?_isSome, List.any_eq_true]
      refine .inr ⟨r, List.mem_of_getElem? hr, ?_⟩
      simp only [hname, hnode, decide_true, Bool.and_self]
    obtain ⟨j, hj⟩ := Option.isSome_iff_exists.mp hfound
    obtain ⟨q, hq, hqnode, hqname⟩ := resolveRoutePos_some hj
    have hjk : j = k :=
      h.position_unique hq hr (hqnode.trans hnode.symm) ((hqname name rfl).trans hname.symm)
    rw [hj, hjk]

/-- What stands under the name of a route is what the pod was built from. -/
theorem levels_of_native {curve : Curve V} {r : RouteSnapshot V} (h : curve.Native r) :
    curve.volumes (curve.levels r.volume.values) = r.volume.values :=
  Curve.Native.volumes_levels h

theorem values_ne_nil {curve : Curve V} {r : RouteSnapshot V} (h : curve.Native r) :
    r.volume.values ≠ [] := by
  obtain ⟨levels, hlevels⟩ := h
  rw [hlevels]
  exact List.cons_ne_nil _ _

/-! ## Writing back -/

/-- A pod of the route `r₁` is written back to a device. -/
structure Restores (curve : Curve V) (io : Ioctls) (r₁ : RouteSnapshot V) (save : Bool)
    (w : Runtime V) (res : Int × List (DeviceNotification V)) (w' : Runtime V) : Prop where
  /-- While the profile is Off, and when no route of the node has the name, it is refused. -/
  refused : w.profile = 0 ∨
    (∀ r ∈ w.panel.routes, r.name = r₁.name → r.nodeId ≠ r₁.nodeId) →
    res = (-einval, []) ∧ w' = w
  found : w.profile ≠ 0 → ∀ (k : Nat) (r : RouteSnapshot V), w.panel.routes[k]? = some r →
    r.name = r₁.name → r.nodeId = r₁.nodeId → res.1 = 0 ∧ w'.saves = update w.saves k save ∧
    -- the values are those of the pod, if the mixer does as it is told
    (io.Answering → ∃ r', w'.panel.routes[k]? = some r' ∧
      r'.volume.values = r₁.volume.values ∧ r'.mute.value = r₁.mute.value) ∧
    -- a pod that the device would build itself changes nothing, and nobody is told of it
    (r.active = true → r.volume.values = r₁.volume.values → r.mute.value = r₁.mute.value →
      w.saves k = save → res.2 = [] ∧ w'.panel.routes = w.panel.routes ∧
        w'.panel.hw = w.panel.hw ∧ w'.info = w.info)

section
variable {curve : Curve V} {step : V} {io : Ioctls} {w : Runtime V} {r₁ : RouteSnapshot V}

/-- What a Route pod asks of the values of the route. -/
def storedRequest (r₁ : RouteSnapshot V) (index : Nat) (save : Bool) : RouteRequest V where
  index := some index
  name := some r₁.name
  device := r₁.nodeId
  save
  props := some [.mute r₁.mute.value, .channelVolumes r₁.volume.values]

theorem storedRequest_values (hvalues : r₁.volume.values ≠ []) (index : Nat) (save : Bool) :
    ((storedRequest r₁ index save).props.getD []).filterMap RouteProp.update =
      [.mute r₁.mute.value, .volume r₁.volume.values] := by
  have hempty : r₁.volume.values.isEmpty = false := by
    rwa [List.isEmpty_eq_false_iff]
  simp only [storedRequest, Option.getD_some, List.filterMap_cons, RouteProp.update, hempty,
    Bool.false_eq_true, if_false, List.filterMap_nil]

theorem setRouteParam_stored (hw : w.Sound curve) (hnative : curve.Native r₁) (index : Nat)
    (save : Bool) :
    Runs (setRouteParam curve io (storedRequest r₁ index save)) w
      (Restores curve io r₁ save w) := by
  by_cases hoff : w.profile = 0
  · refine .get (.ite (fun _ => .pure ⟨fun _ => ⟨rfl, rfl⟩, fun hon => absurd hoff hon⟩)
      fun hon => absurd hoff hon)
  cases hpos : resolveRoutePos w.panel.routes (some index) (some r₁.name) r₁.nodeId with
  | none =>
    refine .get (.ite (fun h => absurd h hoff) fun _ => ?_)
    simp only [storedRequest, hpos]
    refine .pure ⟨fun _ => ⟨rfl, rfl⟩, fun _ k r hr hname hnode => ?_⟩
    have hfound := (resolveRoutePos_named hw.named (some index) _ _ k).mpr ⟨r, hr, hname, hnode⟩
    rw [hpos] at hfound
    cases hfound
  | some k =>
    obtain ⟨r, hr, hname, hnode⟩ := (resolveRoutePos_named hw.named _ _ _ _).mp hpos
    have hkey : position w.panel.routes r.key = some k := by
      rw [hw.indexed.key k r hr]
      exact position_key hw.indexed hr
    have hvalues := storedRequest_values (values_ne_nil hnative) index save
    -- the values, when the mixer answers, and the case that they are there already
    have happly : Runs (apply io curve r.key
        ⟨!r.active, ((storedRequest r₁ index save).props.getD []).filterMap RouteProp.update⟩)
        w.panel fun change t =>
          (io.Answering → ∃ r', t.routes[k]? = some r' ∧
            r'.volume.values = r₁.volume.values ∧ r'.mute.value = r₁.mute.value) ∧
          (r.active = true → r.volume.values = r₁.volume.values → r.mute.value = r₁.mute.value →
            t.routes = w.panel.routes ∧ t.hw = w.panel.hw ∧ change.volume = false ∧
              change.mute = false ∧ change.refresh = false) := by
      rw [hvalues]
      obtain ⟨change, t, heq, -⟩ : Runs (apply io curve r.key
          ⟨!r.active, [.mute r₁.mute.value, .volume r₁.volume.values]⟩) w.panel
          fun _ t => w.panel.Kept curve t :=
        (apply_runs hw.indexed r.key _).mono fun _ _ ht => ht.1
      refine .of_eq heq ⟨fun hio => ?_, fun hactive hvolume hmute => ?_⟩
      · obtain ⟨r', hr', hlevels, hmuted⟩ := (apply_answered hio hw.indexed hr hkey _).elim heq
        refine ⟨r', hr', ?_, hmuted _ rfl⟩
        have hlast : lastLevels curve [.mute r₁.mute.value, .volume r₁.volume.values] =
            some (curve.levels r₁.volume.values) := by
          simp [lastLevels, RouteValueUpdate.levels, values_ne_nil hnative]
        rw [hlevels _ hlast, levels_of_native hnative]
      · rw [hactive, Bool.not_true] at heq
        refine (apply_held hw.indexed hr hkey ?_).elim heq
        intro v hv
        simp only [List.mem_cons, List.not_mem_nil, or_false] at hv
        rcases hv with rfl | rfl
        · exact hmute.symm
        · exact congrArg curve.levels hvolume.symm
    refine (setRouteParam_applies hoff hpos hr happly).mono ?_
    rintro _ _ ⟨change, panel, bump, ⟨hanswered, hheld⟩, hbump, rfl, rfl⟩
    refine ⟨fun hrefused => ?_, fun _ k' r' hr' hname' hnode' => ?_⟩
    · rcases hrefused with hoff' | hnobody
      · exact absurd hoff' hoff
      · exact absurd hnode (hnobody r (List.mem_of_getElem? hr) hname)
    · obtain rfl : k' = k :=
        hw.named.position_unique hr' hr (hnode'.trans hnode.symm) (hname'.trans hname.symm)
      cases Option.some.inj (hr'.symm.trans hr)
      refine ⟨rfl, rfl, hanswered, fun hactive hvolume hmute hsave => ?_⟩
      obtain ⟨hroutes, hhw, hv, hm, hrefresh⟩ := hheld hactive hvolume hmute
      have hquiet : bump = false := by
        rw [hbump, hrefresh, Bool.false_or, hsave]
        exact bne_self_eq_false save
      have hnothing : changeConfigs curve panel.routes change = [] := by
        unfold changeConfigs
        split
        · rw [hv, hm]
          rfl
        · rfl
      subst hquiet
      exact ⟨hnothing, hroutes, hhw, rfl⟩

/-- A Route pod is written back to a device in any state that a run can reach: one that
the device listed before, or one that another device listed, such as the one that this
device was before it was unplugged. -/
theorem stored_route_restored [DecidableEq V] (curve : Curve V) (step : V)
    {s : Audience (Runtime V) (DeviceNotification V) (Consumer V)}
    (h : Reachable (listening curve step) s) (io : Ioctls) (hnative : curve.Native r₁)
    (hnode : r₁.nodeId < 2 ^ 31) {index : Nat} (hindex : index < 2 ^ 31) (save : Bool)
    (profile : Nat) :
    Runs (setParam curve io .route
        (.pod (buildRouteInfo curve step .route r₁ save index profile true))) s.world
      (Restores curve io r₁ save s.world) := by
  have hdecode := decodeRouteRequest_build curve step hindex hnode (values_ne_nil hnative) save profile
  have hrequest : decodeRequest .route
      (.pod (buildRouteInfo curve step .route r₁ save index profile true)) =
        .ok (.route (storedRequest r₁ index save)) := by
    simp only [decodeRequest, PodArgument.value, bind, Except.bind, hdecode]
    rfl
  unfold setParam
  rw [hrequest]
  exact setRouteParam_stored (sound_of_reachable h) hnative index save

end

/-- The microphone of a device whose routes stood in another order. -/
def storedMicrophone : RouteSnapshot Nat where
  key := 0
  nodeId := 7
  direction := .capture
  name := "oss-input-mic"
  description := "Mic"
  priority := 100
  active := true
  volume := ⟨[80, 70], true⟩
  mute := ⟨true, true⟩

/-- Its pod is written back: the microphone, whose index is another one, gets the mute and
the levels. -/
theorem stored_route_restored_reordered : ∃ w, lineDevice = some w ∧
    Runs (setParam levelCurve (answers []) .route
        (.pod (buildRouteInfo levelCurve 1 .route storedMicrophone true 0 1 true))) w fun res w' =>
      res.1 = 0 ∧ ∃ r', w'.panel.routes[1]? = some r' ∧ r'.volume.values = [80, 70] ∧
        r'.mute.value = true := by
  have hrun : lineDevice.map (fun w => (w.profile, (w.panel.routes[1]?).map fun r =>
      (decide (r.name = storedMicrophone.name), r.nodeId))) = some (1, some (true, 7)) := by
    decide +kernel
  obtain ⟨w, hw, hview⟩ := Option.map_eq_some_iff.mp hrun
  simp only [Prod.mk.injEq, Option.map_eq_some_iff, decide_eq_true_eq] at hview
  obtain ⟨hprofile, r, hr, hname, hnode⟩ := hview
  refine ⟨w, hw, ?_⟩
  refine (stored_route_restored levelCurve 1 (.init (alone_init hw)) (answers [])
    ⟨(80, 70), rfl⟩ (by decide) (by decide) true 1).mono fun res w' hres => ?_
  have hon : w.profile ≠ 0 := by rw [hprofile]; decide
  obtain ⟨hok, -, hvalues, -⟩ := hres.found hon 1 r hr hname hnode
  exact ⟨hok, hvalues ⟨fun _ _ _ => rfl, fun _ _ _ => rfl⟩⟩

end PwOss.Device
