import PwOss.Device.Steps
import PwOss.Lib.Revalidation

/-
  The listeners of a device stay coherent with it.

  A consumer of a device reads a param again when the flags that an info tells of it
  are others than before, and makes and drops nodes as it is told of objects. Each
  operation flips the serial of every param under which its pods are others than
  before, and tells of every node that comes or goes. So, whatever the requests, the
  polls and the hands on the mixers, and however callbacks re-enter the device, a
  listener that heard all and read what was stale holds the device's pods and nodes.
-/

namespace PwOss.Device

open PwOss.Lists PwOss.Oss PwOss.Proc PwOss.Revalidation PwOss.Spa PwOss.Transition

variable {V : Type}

/-! ## Consumers -/

/-- The nodes of a device by their ids, with their route counts. -/
abbrev Nodes := Nat → Option (Endpoint × Nat)

/-- The nodes after an object event. -/
def DeviceObjectEvent.apply : DeviceObjectEvent → Nodes → Nodes
  | .added endpoint routeCount, nodes => update nodes endpoint.objectId (some (endpoint, routeCount))
  | .removed id, nodes => update nodes id none

namespace DeviceNotification

/-- What a notification tells of a param. -/
def tag : DeviceNotification V → ParamId → Option ParamFlags
  | info snapshot, id => snapshot.tag deviceChangeBits id
  | _, _ => none

/-- The nodes after a notification. -/
def apply (nodes : Nodes) : DeviceNotification V → Nodes
  | object change => change.apply nodes
  | _ => nodes

end DeviceNotification

/-- A consumer: what it read of the params, and the nodes that it made. -/
structure Consumer (V : Type) where
  params : Cache ParamId ParamFlags (PodList V)
  nodes : Nodes

/-- A device and its consumers. -/
def script [DecidableEq V] (curve : Curve V) (step : V) :
    Script (Runtime V) (Op V) (DeviceNotification V) (Consumer V) ParamId where
  act w op := (Runtime.perform curve op w).map fun (notes, w') => (w', notes)
  initial := Runtime.initialNotes
  fresh := ⟨.empty, fun _ => none⟩
  hear note c := ⟨c.params.hear DeviceNotification.tag note, note.apply c.nodes⟩
  ask w id c := { c with params := c.params.read id (w.pods curve step id) }

/-! ## Nodes -/

namespace Runtime

/-- How many routes a node has. -/
def routeCount (w : Runtime V) (id : Nat) : Nat := w.panel.routes.countP fun r => r.nodeId = id

/-- The nodes that a device offers: none while it is Off, or else one for each endpoint. -/
def nodes (w : Runtime V) : Nodes := fun id =>
  if w.profile = 0 then none
  else (w.card.endpoints.reverse.find? fun e => e.objectId = id).map fun e => (e, w.routeCount id)

end Runtime

/-- Object events in order. -/
def replay (events : List DeviceObjectEvent) (nodes : Nodes) : Nodes :=
  events.foldl (fun nodes e => e.apply nodes) nodes

theorem replay_append (xs ys : List DeviceObjectEvent) (nodes : Nodes) :
    replay (xs ++ ys) nodes = replay ys (replay xs nodes) :=
  List.foldl_append

/-- Every endpoint is made a node; of two with one id the last counts. -/
theorem replay_added (count : Nat → Nat) : ∀ (endpoints : List Endpoint) (nodes : Nodes) (id : Nat),
    replay (endpoints.map fun e => .added e (count e.objectId)) nodes id =
      ((endpoints.reverse.find? fun e => e.objectId = id).map fun e => (e, count id)).or (nodes id)
  | [], _, _ => rfl
  | e :: endpoints, nodes, id => by
    have ih := replay_added count endpoints (DeviceObjectEvent.apply (.added e (count e.objectId)) nodes) id
    rw [List.map_cons, replay, List.foldl_cons]
    refine Eq.trans ih ?_
    rw [List.reverse_cons, List.find?_append]
    cases hfind : endpoints.reverse.find? fun e => e.objectId = id with
    | some e' => rfl
    | none =>
      by_cases hid : e.objectId = id
      · subst hid
        simp [DeviceObjectEvent.apply]
      · simp [DeviceObjectEvent.apply, hid, update_ne _ _ (Ne.symm hid)]

/-- Every endpoint's node is dropped. -/
theorem replay_removed : ∀ (endpoints : List Endpoint) (nodes : Nodes) (id : Nat),
    replay (endpoints.map fun e => .removed e.objectId) nodes id =
      if endpoints.any (·.objectId = id) then none else nodes id
  | [], _, _ => rfl
  | e :: endpoints, nodes, id => by
    have ih := replay_removed endpoints (update nodes e.objectId none) id
    rw [List.map_cons, replay, List.foldl_cons]
    refine Eq.trans ih ?_
    by_cases hid : e.objectId = id
    · subst hid
      simp
    · simp [hid, update_ne _ _ (Ne.symm hid)]

/-- From no nodes, or from those of the other profile, the object events lead to the
nodes that the device offers. -/
theorem replay_objectEvents (w : Runtime V) {nodes : Nodes}
    (h : ∀ id, nodes id ≠ none → ∃ e ∈ w.card.endpoints, e.objectId = id)
    (hnone : w.profile ≠ 0 → ∀ id, nodes id = none) :
    replay (objectEvents w.card w.panel.routes (w.profile ≠ 0)) nodes = w.nodes := by
  funext id
  unfold objectEvents Runtime.nodes
  by_cases hoff : w.profile = 0
  · simp only [hoff, ne_eq, not_true_eq_false, decide_false, Bool.false_eq_true, if_false, if_true]
    rw [replay_removed]
    by_cases hid : nodes id = none
    · rw [hid, ite_self]
    · obtain ⟨e, he, heq⟩ := h id hid
      rw [if_pos (List.any_eq_true.mpr ⟨e, he, decide_eq_true heq⟩)]
  · simp only [hoff, ne_eq, not_false_eq_true, decide_true, if_true, if_false]
    refine (replay_added w.routeCount w.card.endpoints nodes id).trans ?_
    rw [hnone hoff id, Option.or_none]

/-! ## Pods -/

/-- The pod that an enumeration builds. -/
def DevicePod.build (curve : Curve V) (step : V) (saves : Nat → Bool) : DevicePod V → PodValue V
  | .profileInfo id index snapshot profileSave current =>
    buildProfileInfo id index snapshot profileSave current
  | .routeInfo id route pos profile full =>
    buildRouteInfo curve step id route (saves pos) pos profile full

namespace Runtime
variable {curve : Curve V} {step : V} {w w' : Runtime V}

/-- The part of a device that `enum_params` reads. -/
def state (w : Runtime V) (few : w.panel.routes.length < 2 ^ 32) : DeviceState V where
  snapshot := w.card.snapshot
  profile := w.profile
  profileSave := w.profileSave
  routes := w.panel.routes
  few := few

/-- The pods of a device are those that `enum_params` enumerates, at the same indices. -/
theorem pods_eq_params (few : w.panel.routes.length < 2 ^ 32) (id : ParamId) :
    w.pods curve step id = ((w.state few).params id).map fun (index, pod) =>
      (index.toNat, pod.build curve step w.saves) := by
  have hindex : ∀ p ∈ w.panel.routes.zipIdx, (UInt32.ofNat p.2).toNat = p.2 := by
    intro p hp
    have hlt : p.2 < w.panel.routes.length := (List.mem_zipIdx_iff_getElem?.mp hp |>
      List.getElem?_eq_some_iff.mp).1
    exact UInt32.toNat_ofNat_of_lt' (Nat.lt_trans hlt few)
  cases id with
  | enumProfile => rfl
  | profile => rfl
  | enumRoute =>
    show w.panel.routes.zipIdx.map _ = (w.panel.routes.zipIdx.map _).map _
    rw [List.map_map]
    refine List.map_congr_left fun p hp => ?_
    exact congrArg (·, _) (hindex p hp).symm
  | route =>
    show (if w.profile = 0 then [] else _) = (if w.profile = 0 then [] else _ : List _).map _
    by_cases hoff : w.profile = 0
    · rw [if_pos hoff, if_pos hoff]
      rfl
    · rw [if_neg hoff, if_neg hoff, List.map_map]
      refine List.map_congr_left fun p hp => ?_
      exact congrArg (·, _) (hindex p (List.mem_filter.mp hp).1).symm
  | other id => rfl

/-- An EnumRoute pod shows only what names a route. -/
theorem buildRouteInfo_restated {r r' : RouteSnapshot V} (h : r.Restated curve r') (id : ParamId)
    (save save' : Bool) (pos profile profile' : Nat) :
    buildRouteInfo curve step id r' save' pos profile' false =
      buildRouteInfo curve step id r save pos profile false := by
  rw [h.eq]
  rfl

/-- Lists of routes that show the same at every position. -/
theorem zipIdx_filterMap_congr {β : Type} {f g : RouteSnapshot V × Nat → Option β}
    {routes routes' : List (RouteSnapshot V)} (hlength : routes'.length = routes.length)
    (h : ∀ (k : Nat) (r r' : RouteSnapshot V), routes[k]? = some r → routes'[k]? = some r' →
      g (r', k) = f (r, k)) :
    routes'.zipIdx.filterMap g = routes.zipIdx.filterMap f := by
  have hmap : routes'.zipIdx.map g = routes.zipIdx.map f := by
    refine List.ext_getElem? fun k => ?_
    rw [List.getElem?_map, List.getElem?_map, List.getElem?_zipIdx, List.getElem?_zipIdx]
    cases hr : routes[k]? with
    | none =>
      have hle : routes'.length ≤ k := hlength ▸ List.getElem?_eq_none_iff.mp hr
      rw [List.getElem?_eq_none hle]
      rfl
    | some r =>
      obtain ⟨r', hr'⟩ := exists_getElem?_of_length hlength hr
      rw [hr', Option.map_some, Option.map_some, Option.map_some, Option.map_some, Nat.zero_add,
        h k r r' hr hr']
  have hid : ∀ (h : RouteSnapshot V × Nat → Option β) (l : List (RouteSnapshot V × Nat)),
      l.filterMap h = (l.map h).filterMap id := fun h l => by
    rw [List.filterMap_map]
    rfl
  rw [hid, hid, hmap]

/-- The pods under EnumRoute are static. -/
theorem enumRoute_pods (hkept : w.panel.Kept curve w'.panel) :
    w'.pods curve step .enumRoute = w.pods curve step .enumRoute := by
  show w'.panel.routes.zipIdx.map _ = w.panel.routes.zipIdx.map _
  rw [← List.filterMap_eq_map, ← List.filterMap_eq_map]
  refine zipIdx_filterMap_congr hkept.routes fun k r r' hr hr' => ?_
  exact congrArg some (congrArg (Prod.mk k)
    (buildRouteInfo_restated (hkept.route k r r' hr hr') _ _ _ _ _ _))

/-- The pods under Route are those of the active routes. -/
theorem route_pods (hprofile : w'.profile = w.profile) (hsaves : w'.saves = w.saves)
    (hlength : w'.panel.routes.length = w.panel.routes.length)
    (h : ∀ (k : Nat) (r r' : RouteSnapshot V), w.panel.routes[k]? = some r →
      w'.panel.routes[k]? = some r' → r'.active = r.active ∧ (r'.active = true → r' = r)) :
    w'.pods curve step .route = w.pods curve step .route := by
  show (if w'.profile = 0 then [] else _) = if w.profile = 0 then [] else _
  rw [hprofile, hsaves]
  refine ite_congr rfl (fun _ => rfl) fun _ => ?_
  rw [← List.filterMap_eq_map, List.filterMap_filter, List.filterMap_filter]
  refine zipIdx_filterMap_congr hlength fun k r r' hr hr' => ?_
  obtain ⟨hactive, hsame⟩ := h k r r' hr hr'
  cases hon : r'.active with
  | true =>
    have hr_on : r.active = true := hactive.symm.trans hon
    simp only [hsame hon, hr_on, if_true]
  | false =>
    have hr_off : r.active = false := hactive.symm.trans hon
    simp only [hr_off, Bool.false_eq_true, if_false]

/-- The pods of the profiles. -/
theorem profile_pods (hcard : w'.card = w.card) (hprofile : w'.profile = w.profile)
    (hsave : w'.profileSave = w.profileSave) :
    w'.pods curve step .profile = w.pods curve step .profile := by
  simp only [pods, hcard, hprofile, hsave]

theorem enumProfile_pods (hcard : w'.card = w.card) :
    w'.pods curve step .enumProfile = w.pods curve step .enumProfile := by
  simp only [pods, hcard]
  rfl

/-- The nodes of a device change with its profile only. -/
theorem nodes_kept (hcard : w'.card = w.card) (hprofile : w'.profile = w.profile)
    (hkept : w.panel.Kept curve w'.panel) : w'.nodes = w.nodes := by
  have hids : w'.panel.routes.map (·.nodeId) = w.panel.routes.map (·.nodeId) := by
    refine List.ext_getElem? fun k => ?_
    rw [List.getElem?_map, List.getElem?_map]
    cases hr : w.panel.routes[k]? with
    | none =>
      have hle : w'.panel.routes.length ≤ k := hkept.routes ▸ List.getElem?_eq_none_iff.mp hr
      rw [List.getElem?_eq_none hle]
    | some r =>
      obtain ⟨r', hr'⟩ := exists_getElem?_of_length hkept.routes hr
      rw [hr', Option.map_some, Option.map_some, (hkept.route k r r' hr hr').eq]
  have hcount : w'.routeCount = w.routeCount := by
    funext id
    have hmap : ∀ routes : List (RouteSnapshot V),
        routes.countP (fun r => r.nodeId = id) = (routes.map (·.nodeId)).countP (· = id) := by
      intro routes
      rw [List.countP_map]
      rfl
    rw [routeCount, routeCount, hmap, hmap, hids]
  unfold nodes
  rw [hcard, hprofile, hcount]

end Runtime

/-! ## Steps -/

/-- A step of a device, as its consumers see it. -/
structure Coherent (curve : Curve V) (step : V) (w : Runtime V)
    (notes : List (DeviceNotification V)) (w' : Runtime V) : Prop where
  ready : w'.Ready curve
  kept : w.panel.Kept curve w'.panel
  params : Announces DeviceNotification.tag (· ∈ Runtime.paramIds) w.info.flagsOf w'.info.flagsOf
    (w.pods curve step) (w'.pods curve step) notes
  nodes : notes.foldl DeviceNotification.apply w.nodes = w'.nodes

section
variable {curve : Curve V} {step : V} {w w' : Runtime V}

/-- The flags that an info tells are the new ones, and the flipped serials are news. -/
theorem announces_bumped (hw : w.Ready curve) {ids : List ParamId}
    (hinfo : w'.info = (w.info.bumped deviceChangeBits ids).replaceChangeMask 0#64) (hne : ids ≠ [])
    (hnodup : ids.Nodup) (hids : ∀ id ∈ ids, id ∈ Runtime.paramIds)
    (before after : List (DeviceNotification V))
    (hbefore : ∀ n ∈ before, ∀ id, DeviceNotification.tag n id = none)
    (hafter : ∀ n ∈ after, ∀ id, DeviceNotification.tag n id = none)
    (hpods : ∀ id ∈ Runtime.paramIds, id ∉ ids → w'.pods curve step id = w.pods curve step id) :
    Announces DeviceNotification.tag (· ∈ Runtime.paramIds) w.info.flagsOf w'.info.flagsOf
      (w.pods curve step) (w'.pods curve step)
      (before ++ .info (w.info.bumped deviceChangeBits ids) :: after) := by
  have hlisted : ∀ id ∈ ids, (w.info.flagsOf id).isSome := fun id hid => hw.listed id (hids id hid)
  have hnotice : Announces (DeviceNotification.tag (V := V)) (· ∈ Runtime.paramIds)
      w.info.flagsOf w'.info.flagsOf (w.pods curve step) (w'.pods curve step)
      [.info (w.info.bumped deviceChangeBits ids)] := by
    refine .notice fun id hid => .inl ?_
    rw [hinfo, Info.flagsOf_replaceChangeMask]
    refine ⟨?_, Info.tag_bumped (by decide) hne hnodup hlisted id, ?_⟩
    · rw [Info.flagsOf_bumped_isSome hnodup]
      exact hw.listed id hid
    · by_cases hin : id ∈ ids
      · exact .inr (Info.flagsOf_bumped_ne hnodup hin (hw.listed id hid))
      · exact .inl (hpods id hid hin)
  have hquiet : ∀ {live : ParamId → Option ParamFlags} {contents : ParamId → PodList V}
      {notes : List (DeviceNotification V)}, (∀ n ∈ notes, ∀ id, n.tag id = none) →
      Announces DeviceNotification.tag (· ∈ Runtime.paramIds) live live contents contents notes :=
    fun hnotes => .silent (fun _ _ => rfl) (fun _ _ => rfl) hnotes
  exact (hquiet hbefore).trans (hnotice.trans (hquiet hafter))

/-- The flags stay listed when serials are flipped. -/
theorem listed_bumped (hw : w.Ready curve) {ids : List ParamId} (hnodup : ids.Nodup) :
    ∀ id ∈ Runtime.paramIds,
      (((w.info.bumped deviceChangeBits ids).replaceChangeMask 0#64).flagsOf id).isSome := by
  intro id hid
  rw [Info.flagsOf_replaceChangeMask, Info.flagsOf_bumped_isSome hnodup]
  exact hw.listed id hid

/-- ObjectConfigs and infos are not about nodes. -/
theorem foldl_apply_events {notes : List (DeviceNotification V)}
    (h : ∀ n ∈ notes, ∀ nodes : Nodes, n.apply nodes = nodes) (nodes : Nodes) :
    notes.foldl DeviceNotification.apply nodes = nodes := by
  induction notes generalizing nodes with
  | nil => rfl
  | cons n notes ih =>
    rw [List.foldl_cons, h n List.mem_cons_self]
    exact ih (fun m hm => h m (List.mem_cons_of_mem n hm)) nodes

theorem RoutesStep.coherent {bump : Bool} {configs notes : List (DeviceNotification V)}
    (hw : w.Ready curve) (h : RoutesStep curve w bump configs notes w') :
    Coherent curve step w notes w' := by
  have hconfig : ∀ n ∈ configs, ∃ pod, n = .event pod := fun n hn => by
    obtain ⟨k, r, emitVolume, -, -, rfl⟩ := h.current n hn
    exact ⟨_, rfl⟩
  have hquiet : ∀ n ∈ configs, ∀ id, DeviceNotification.tag n id = none := fun n hn id => by
    obtain ⟨pod, rfl⟩ := hconfig n hn
    rfl
  have hindexed := h.kept.indexed hw.indexed
  have hnodes : w'.nodes = w.nodes := Runtime.nodes_kept h.card h.profile h.kept
  have hpods : ∀ id ∈ Runtime.paramIds, id ≠ .route →
      w'.pods curve step id = w.pods curve step id := by
    intro id hid hne
    simp only [Runtime.paramIds, List.mem_cons, List.not_mem_nil, or_false] at hid
    rcases hid with rfl | rfl | rfl | rfl
    · exact Runtime.enumProfile_pods h.card
    · exact Runtime.profile_pods h.card h.profile h.profileSave
    · exact Runtime.enumRoute_pods h.kept
    · exact absurd rfl hne
  cases bump with
  | true =>
    have hnotes : notes = [] ++ .info (w.info.bumped deviceChangeBits [.route]) :: configs := h.notes
    refine ⟨⟨hindexed, h.profile ▸ hw.profile, ?_⟩, h.kept, ?_, ?_⟩
    · rw [h.info]
      exact listed_bumped hw (List.nodup_singleton _)
    · rw [hnotes]
      exact announces_bumped hw h.info (List.cons_ne_nil _ _) (List.nodup_singleton _)
        (by decide) [] configs nofun hquiet fun id hid hne =>
          hpods id hid fun heq => hne (List.mem_singleton.mpr heq)
    · rw [hnodes, hnotes]
      refine foldl_apply_events (fun n hn nodes => ?_) w.nodes
      rcases List.mem_cons.mp hn with rfl | hn
      · rfl
      · obtain ⟨pod, rfl⟩ := hconfig n hn
        rfl
  | false =>
    obtain ⟨hnone, hsaves, hsame⟩ := h.quiet rfl
    have hnotes : notes = [] := by rw [h.notes, hnone]; rfl
    have hinfo : w'.info = w.info := h.info
    subst hnotes
    refine ⟨⟨hindexed, h.profile ▸ hw.profile, hinfo ▸ hw.listed⟩, h.kept, ?_, hnodes.symm⟩
    refine .silent (fun id _ => by rw [hinfo]) (fun id hid => ?_) nofun
    by_cases hroute : id = .route
    · subst hroute
      exact Runtime.route_pods h.profile hsaves h.kept.routes hsame
    · exact hpods id hid hroute

/-- A node of a device is one of its endpoints. -/
theorem Runtime.nodes_endpoint {id : Nat} (h : w.nodes id ≠ none) :
    ∃ e ∈ w.card.endpoints, e.objectId = id := by
  unfold nodes at h
  split at h
  · exact absurd rfl h
  · obtain ⟨p, hp⟩ := Option.ne_none_iff_exists'.mp h
    obtain ⟨e, he, -⟩ := Option.map_eq_some_iff.mp hp
    refine ⟨e, List.mem_reverse.mp (List.mem_of_find?_eq_some he), ?_⟩
    simpa using List.find?_some he

theorem ProfileStep.coherent {request : ProfileRequest} (hindex : request.index ≤ 1)
    {notes : List (DeviceNotification V)} (hw : w.Ready curve)
    (h : ProfileStep curve request w notes w') : Coherent curve step w notes w' := by
  have hindexed := h.kept.indexed hw.indexed
  have hprofile : w'.profile ≤ 1 := h.profile ▸ hindex
  by_cases hsame : w.profile = request.index
  · obtain ⟨hpanel, hsave⟩ := h.same hsame
    have hkept : w'.profile = w.profile := h.profile.trans hsame.symm
    have hnodes : w'.nodes = w.nodes := Runtime.nodes_kept h.card hkept h.kept
    have hpods : ∀ id ∈ Runtime.paramIds, id ≠ .profile →
        w'.pods curve step id = w.pods curve step id := by
      intro id hid hne
      simp only [Runtime.paramIds, List.mem_cons, List.not_mem_nil, or_false] at hid
      rcases hid with rfl | rfl | rfl | rfl
      · exact Runtime.enumProfile_pods h.card
      · exact absurd rfl hne
      · exact Runtime.enumRoute_pods h.kept
      · simp only [Runtime.pods, hkept, hpanel, h.saves]
    split at hsave
    · next heq =>
      obtain ⟨hinfo, rfl⟩ := hsave
      refine ⟨⟨hindexed, hprofile, hinfo ▸ hw.listed⟩, h.kept, ?_, hnodes.symm⟩
      refine .silent (fun id _ => by rw [hinfo]) (fun id hid => ?_) nofun
      by_cases hid' : id = .profile
      · subst hid'
        exact Runtime.profile_pods h.card hkept (h.profileSave.trans heq.symm)
      · exact hpods id hid hid'
    · obtain ⟨hinfo, rfl⟩ := hsave
      refine ⟨⟨hindexed, hprofile, ?_⟩, h.kept, ?_, hnodes.symm⟩
      · rw [hinfo]
        exact listed_bumped hw (List.nodup_singleton _)
      · exact announces_bumped hw hinfo (List.cons_ne_nil _ _) (List.nodup_singleton _)
          (by decide) [] [] nofun nofun fun id hid hne =>
            hpods id hid fun heq => hne (List.mem_singleton.mpr heq)
  · obtain ⟨hinfo, rfl⟩ := h.changed hsame
    refine ⟨⟨hindexed, hprofile, ?_⟩, h.kept, ?_, ?_⟩
    · rw [hinfo]
      exact listed_bumped hw (by decide)
    · refine announces_bumped hw hinfo (List.cons_ne_nil _ _) (by decide) (by decide) _ [] ?_ nofun
        fun id hid hne => ?_
      · intro n hn id
        obtain ⟨event, -, rfl⟩ := List.mem_map.mp hn
        rfl
      · simp only [Runtime.paramIds, List.mem_cons, List.not_mem_nil, or_false] at hid
        rcases hid with rfl | hid
        · exact Runtime.enumProfile_pods h.card
        · refine absurd ?_ hne
          simpa using hid
    · -- the nodes come from none, or all of them go
      rw [List.foldl_append, List.foldl_map]
      show replay (objectEvents w.card w'.panel.routes (request.index ≠ 0)) w.nodes = w'.nodes
      rw [← h.card, ← h.profile]
      refine replay_objectEvents w' (fun id hid => ?_) fun hon id => ?_
      · rw [h.card]
        exact Runtime.nodes_endpoint hid
      · have hoff : w.profile = 0 := by
          have := hw.profile
          have := h.profile
          omega
        rw [Runtime.nodes, if_pos hoff]

/-- A step that the params and the nodes have no part in. -/
theorem Coherent.silent (hw : w'.Ready curve) (hcard : w'.card = w.card)
    (hprofile : w'.profile = w.profile) (hsave : w'.profileSave = w.profileSave)
    (hkept : w.panel.Kept curve w'.panel) (hroutes : w'.panel.routes = w.panel.routes)
    (hsaves : w'.saves = w.saves) (hinfo : w'.info = w.info) {notes : List (DeviceNotification V)}
    (hnotes : ∀ n ∈ notes, ∃ seq, n = .done seq) : Coherent curve step w notes w' where
  ready := hw
  kept := hkept
  params := by
    refine .silent (fun id _ => by rw [hinfo]) (fun id _ => ?_) fun n hn id => ?_
    · unfold Runtime.pods
      rw [hcard, hprofile, hsave, hroutes, hsaves]
    · obtain ⟨seq, rfl⟩ := hnotes n hn
      rfl
  nodes := by
    refine (foldl_apply_events (fun n hn nodes => ?_) w.nodes).trans ?_
    · obtain ⟨seq, rfl⟩ := hnotes n hn
      rfl
    · unfold Runtime.nodes Runtime.routeCount
      rw [hcard, hprofile, hroutes]

end

end PwOss.Device
