import PwOss.Device.Control
import PwOss.Oss.Announced

/-
  What each operation of a device does, and what it dispatches.

  A poll and a Route request are the same kind of step (`RoutesStep`): either the
  Route serial is flipped and the info dispatched, with the ObjectConfigs behind it,
  or no pod under Route is another one and nothing is dispatched. A Profile request is
  described by `ProfileStep`.
-/

namespace PwOss.Device

open PwOss.Lists PwOss.Oss PwOss.Proc PwOss.Spa PwOss.Sys

variable {V : Type}

/-! ## Infos -/

namespace Runtime

/-- The invariant of a device. -/
structure Ready (curve : Curve V) (w : Runtime V) : Prop where
  indexed : w.panel.Indexed curve
  profile : w.profile ≤ 1
  listed : ∀ id ∈ paramIds, (w.info.flagsOf id).isSome

end Runtime

theorem announceParams_runs (w : Runtime V) (ids : List ParamId) :
    Runs (announceParams ids) w fun note w' => note = .info (w.info.bumped deviceChangeBits ids) ∧
      w' = { w with info := (w.info.bumped deviceChangeBits ids).replaceChangeMask 0#64 } :=
  .of_eq rfl ⟨rfl, rfl⟩

/-! ## Steps on the routes -/

/-- A step that leaves the profile alone: what it does to the routes, and whether it flips
the serial of Route. -/
structure RoutesStep (curve : Curve V) (w : Runtime V) (bump : Bool)
    (configs : List (DeviceNotification V)) (notes : List (DeviceNotification V))
    (w' : Runtime V) : Prop where
  card : w'.card = w.card
  profile : w'.profile = w.profile
  profileSave : w'.profileSave = w.profileSave
  kept : w.panel.Kept curve w'.panel
  info : w'.info =
    if bump then (w.info.bumped deviceChangeBits [.route]).replaceChangeMask 0#64 else w.info
  notes : notes = (if bump then [.info (w.info.bumped deviceChangeBits [.route])] else []) ++ configs
  /-- Nothing under Route is another one. -/
  quiet : bump = false → configs = [] ∧ w'.saves = w.saves ∧ ∀ (k : Nat) (r r' : RouteSnapshot V),
    w.panel.routes[k]? = some r → w'.panel.routes[k]? = some r' →
      r'.active = r.active ∧ (r'.active = true → r' = r)
  off : w.profile = 0 → configs = []
  /-- An ObjectConfig is about an active route as it is. -/
  current : ∀ note ∈ configs, ∃ (k : Nat) (r : RouteSnapshot V) (emitVolume : Bool),
    w'.panel.routes[k]? = some r ∧ r.active = true ∧ note = queueObjectConfig curve r emitVolume
  /-- What changed of a route that stayed active is sent. -/
  told : ∀ (k : Nat) (r r' : RouteSnapshot V), w.panel.routes[k]? = some r →
    w'.panel.routes[k]? = some r' → r.active = true → r'.active = true →
      (r'.volume ≠ r.volume → queueObjectConfig curve r' true ∈ configs) ∧
      (r'.mute ≠ r.mute → queueObjectConfig curve r' false ∈ configs)

section
variable {curve : Curve V} {w : Runtime V}

/-- A step that does nothing. -/
theorem RoutesStep.refl (w : Runtime V) : RoutesStep curve w false [] [] w where
  card := rfl
  profile := rfl
  profileSave := rfl
  kept := .refl _
  info := rfl
  notes := rfl
  quiet _ := by
    refine ⟨rfl, rfl, fun k r r' hr hr' => ?_⟩
    cases Option.some.inj (hr.symm.trans hr')
    exact ⟨rfl, fun _ => rfl⟩
  off _ := rfl
  current := nofun
  told k r r' hr hr' _ _ := by
    cases Option.some.inj (hr.symm.trans hr')
    exact ⟨fun hne => absurd rfl hne, fun hne => absurd rfl hne⟩

/-- Routes are found by their keys, which are their positions. -/
theorem position_key {s : Panel V} (hs : s.Indexed curve) {k : Nat} {r : RouteSnapshot V}
    (hr : s.routes[k]? = some r) : position s.routes k = some k := by
  obtain ⟨hk, hget⟩ := List.getElem?_eq_some_iff.mp hr
  rw [position, List.findIdx?_eq_some_iff_getElem]
  refine ⟨hk, ?_, fun j hj => ?_⟩
  · rw [hget, beq_iff_eq]
    exact hs.key k r hr
  · have hkey := hs.key j _ (List.getElem?_eq_getElem (Nat.lt_trans hj hk))
    rw [hkey]
    simpa using Nat.ne_of_lt hj

theorem position_lt {routes : List (RouteSnapshot V)} {key k : Nat}
    (h : position routes key = some k) : ∃ r, routes[k]? = some r ∧ r.key = key := by
  obtain ⟨hk, hkey, -⟩ := List.findIdx?_eq_some_iff_getElem.mp h
  exact ⟨_, List.getElem?_eq_getElem hk, by simpa using hkey⟩

/-- The ObjectConfigs of a change are those of what it tells. -/
theorem mem_changeConfigs {s : Panel V} (hs : s.Indexed curve) {change : RouteChange}
    {note : DeviceNotification V} : note ∈ changeConfigs curve s.routes change ↔
      ∃ k r, s.routes[k]? = some r ∧
        (change.tells (k, .volume) ∧ note = queueObjectConfig curve r true ∨
          change.tells (k, .mute) ∧ note = queueObjectConfig curve r false) := by
  have hfound : ∀ {k : Nat} {r : RouteSnapshot V}, change.names k → s.routes[k]? = some r →
      (change.key.bind (position s.routes)).bind (s.routes[·]?) = some r := by
    intro k r hnames hr
    rw [show change.key = some k from hnames, Option.bind_some, position_key hs hr,
      Option.bind_some, hr]
  constructor
  · intro hmem
    unfold changeConfigs at hmem
    split at hmem
    · next r hr =>
      obtain ⟨k, hk, hr⟩ := Option.bind_eq_some_iff.mp hr
      obtain ⟨key, hkey, hpos⟩ := Option.bind_eq_some_iff.mp hk
      obtain ⟨r', hr', hkey'⟩ := position_lt hpos
      have hnames : change.names k := by
        have hk' : r'.key = k := hs.key k r' hr'
        rw [RouteChange.names, hkey, ← hkey', hk']
      refine ⟨k, r, hr, ?_⟩
      rcases List.mem_append.mp hmem with hvolume | hmute
      · split at hvolume
        · next hflag => exact .inl ⟨⟨hnames, hflag⟩, List.mem_singleton.mp hvolume⟩
        · cases hvolume
      · split at hmute
        · next hflag => exact .inr ⟨⟨hnames, hflag⟩, List.mem_singleton.mp hmute⟩
        · cases hmute
    · cases hmem
  · rintro ⟨k, r, hr, ⟨⟨hnames, hflag⟩, rfl⟩ | ⟨⟨hnames, hflag⟩, rfl⟩⟩
    · unfold changeConfigs
      rw [hfound hnames hr]
      simp only [hflag, if_true, List.mem_append, List.mem_singleton, true_or]
    · unfold changeConfigs
      rw [hfound hnames hr]
      simp only [hflag, if_true, List.mem_append, List.mem_singleton, or_true]

/-- The flags that a step on the routes has to tell, as changes of the controller tell
them, and the ObjectConfigs of these changes. -/
theorem changeConfigs_told {s : Panel V} (hs : s.Indexed curve) {changes : List RouteChange}
    {k : Nat} {r r' : RouteSnapshot V} (hr' : s.routes[k]? = some r')
    (htold : ∀ a : Aspect, a ≠ .any → a.Differs r r' → ∃ c ∈ changes, c.tells (k, a)) :
    (r'.volume ≠ r.volume →
      queueObjectConfig curve r' true ∈ changes.flatMap (changeConfigs curve s.routes)) ∧
    (r'.mute ≠ r.mute →
      queueObjectConfig curve r' false ∈ changes.flatMap (changeConfigs curve s.routes)) := by
  refine ⟨fun hne => ?_, fun hne => ?_⟩
  · obtain ⟨c, hc, htells⟩ := htold .volume nofun hne
    exact List.mem_flatMap.mpr
      ⟨c, hc, (mem_changeConfigs hs).mpr ⟨k, r', hr', .inl ⟨htells, rfl⟩⟩⟩
  · obtain ⟨c, hc, htells⟩ := htold .mute nofun hne
    exact List.mem_flatMap.mpr
      ⟨c, hc, (mem_changeConfigs hs).mpr ⟨k, r', hr', .inr ⟨htells, rfl⟩⟩⟩

/-- The ObjectConfigs of changes are about active routes when the changes are. -/
theorem changeConfigs_current {s : Panel V} (hs : s.Indexed curve) {changes : List RouteChange}
    (hactive : ∀ c ∈ changes, ∀ k r, s.routes[k]? = some r → ∀ a : Aspect, a ≠ .any →
      c.tells (k, a) → r.active = true) :
    ∀ note ∈ changes.flatMap (changeConfigs curve s.routes),
      ∃ (k : Nat) (r : RouteSnapshot V) (emitVolume : Bool),
        s.routes[k]? = some r ∧ r.active = true ∧ note = queueObjectConfig curve r emitVolume := by
  intro note hnote
  obtain ⟨c, hc, hmem⟩ := List.mem_flatMap.mp hnote
  obtain ⟨k, r, hr, ⟨htells, rfl⟩ | ⟨htells, rfl⟩⟩ := (mem_changeConfigs hs).mp hmem
  · exact ⟨k, r, true, hr, hactive c hc k r hr .volume nofun htells, rfl⟩
  · exact ⟨k, r, false, hr, hactive c hc k r hr .mute nofun htells, rfl⟩

theorem onPanel_runs {α : Type} {x : Proc (Panel V) α} {P : α → Panel V → Prop}
    (h : Runs x w.panel P) : Runs (onPanel x) w fun a w' => ∃ panel, P a panel ∧
      w' = { w with panel } :=
  .onPart (h.mono fun _ panel hp => ⟨panel, hp, rfl⟩)

variable [DecidableEq V] {io : Ioctls}

theorem pollRoutes_runs (hw : w.Ready curve) :
    Runs (pollRoutes curve io) w fun notes w' =>
      ∃ bump configs, RoutesStep curve w bump configs notes w' := by
  unfold pollRoutes
  refine .get (.ite (fun _ => .pure ⟨false, [], .refl w⟩) fun hon => ?_)
  refine .bind_of (onPanel_runs (poll_tells hw.indexed)) ?_
  rintro changes _ ⟨panel, ⟨hpolled, htold⟩, rfl⟩
  have hindexed := hpolled.kept.indexed hw.indexed
  have hroute : ∀ (k : Nat) (r r' : RouteSnapshot V), w.panel.routes[k]? = some r →
      panel.routes[k]? = some r' → ∀ a, Told a r r' (∃ c ∈ changes, c.tells (k, a)) := by
    intro k r r' hr hr'
    obtain ⟨q, hq, ht⟩ := htold k r hr
    cases Option.some.inj (hr'.symm.trans hq)
    exact ht
  refine .ite (fun hempty => .pure ⟨false, [], ?_⟩) fun _ => ?_
  · -- no change, and so no difference of an active route
    have hnone : ∀ k : Nat × Aspect, ¬ ∃ c ∈ changes, c.tells k := by
      rw [List.isEmpty_iff.mp hempty]
      exact not_tells_nil
    have hsame : ∀ (k : Nat) (r r' : RouteSnapshot V), w.panel.routes[k]? = some r →
        panel.routes[k]? = some r' → r'.active = r.active ∧ (r'.active = true → r' = r) := by
      intro k r r' hr hr'
      have ht := hroute k r r' hr hr' .any
      have hactive : r'.active = r.active := Classical.not_not.mp fun hne =>
        hnone _ (ht.moved hne rfl)
      refine ⟨hactive, fun hon => ?_⟩
      have hdiffers : ¬ Differs r r' := fun hd => hnone _ ((ht.still hactive).mpr ⟨hon, hd⟩)
      obtain ⟨hvolume, hmute⟩ := not_or.mp hdiffers
      rw [(hpolled.kept.route k r r' hr hr').eq, hactive, Classical.not_not.mp hvolume,
        Classical.not_not.mp hmute]
    refine ⟨rfl, rfl, rfl, hpolled.kept, rfl, rfl, fun _ => ⟨rfl, rfl, hsame⟩, fun _ => rfl,
      nofun, ?_⟩
    intro k r r' hr hr' _ hon
    have heq := (hsame k r r' hr hr').2 hon
    exact ⟨fun hne => absurd (by rw [heq]) hne, fun hne => absurd (by rw [heq]) hne⟩
  · refine .bind_of (announceParams_runs _ [.route]) ?_
    rintro info _ ⟨rfl, rfl⟩
    refine .get (.pure ⟨true, _, rfl, rfl, rfl, hpolled.kept, rfl, rfl, nofun,
      fun hoff => absurd hoff hon, ?_, ?_⟩)
    · refine changeConfigs_current hindexed fun c hc k r hr a ha htells => ?_
      obtain ⟨r₀, hr₀⟩ := exists_getElem?_of_length hpolled.kept.routes.symm hr
      by_contra hoff
      exact ha ((hroute k r₀ r hr₀ hr a).silent (Bool.not_eq_true _ |>.mp hoff) ⟨c, hc, htells⟩)
    · intro k r r' hr hr' hbefore hafter
      refine changeConfigs_told hindexed hr' fun a _ hd => ?_
      exact ((hroute k r r' hr hr' a).still (hafter.trans hbefore.symm)).mpr ⟨hafter, hd⟩

theorem onMixerEvent_runs (hw : w.Ready curve) (event : MixerEvent) :
    Runs (onMixerEvent curve io event) w fun notes w' =>
      ∃ bump configs, RoutesStep curve w bump configs notes w' := by
  unfold onMixerEvent
  exact .get (.ite (fun _ => pollRoutes_runs hw) fun _ => .pure ⟨false, [], .refl w⟩)

/-! ## Requests -/

omit [DecidableEq V] in
/-- A route that a request resolves to is there, at its node. -/
theorem resolveRoutePos_some {routes : List (RouteSnapshot V)} {index : Option Nat}
    {name : Option String} {device pos : Nat}
    (h : resolveRoutePos routes index name device = some pos) :
    ∃ r, routes[pos]? = some r ∧ r.nodeId = device ∧ ∀ n ∈ name, r.name = n := by
  unfold resolveRoutePos at h
  rcases Option.or_eq_some_iff.mp h with hindex | ⟨-, hname⟩
  · obtain ⟨-, hany⟩ := Option.filter_eq_some_iff.mp hindex
    obtain ⟨r, hr, hmatch⟩ := (Option.any_eq_true _ _).mp hany
    simp only [Bool.and_eq_true, decide_eq_true_eq, Option.all_eq_true] at hmatch
    exact ⟨r, hr, hmatch.1, fun n hn => (hmatch.2 n hn).symm⟩
  · obtain ⟨n, hn, hfind⟩ := Option.bind_eq_some_iff.mp hname
    obtain ⟨hlt, hmatch, -⟩ := List.findIdx?_eq_some_iff_getElem.mp hfind
    simp only [Bool.and_eq_true, decide_eq_true_eq] at hmatch
    refine ⟨_, List.getElem?_eq_getElem hlt, hmatch.2, fun m hm => ?_⟩
    cases Option.some.inj (hn.symm.trans hm)
    exact hmatch.1

omit [DecidableEq V] in
theorem routeAt_runs {s : Panel V} {pos : Nat} {r : RouteSnapshot V}
    (hr : s.routes[pos]? = some r) : Runs (routeAt pos) s fun a t => a = r ∧ t = s :=
  .of_eq (by simp only [routeAt, index, hr, Option.map_some]) ⟨rfl, rfl⟩

omit [DecidableEq V] in
theorem queueRouteChangeIf_runs (w : Runtime V) (changed : Bool) :
    Runs (queueRouteChangeIf changed) w fun info w' =>
      info = (if changed then [.info (w.info.bumped deviceChangeBits [.route])] else []) ∧
      w' = { w with
        info := if changed then (w.info.bumped deviceChangeBits [.route]).replaceChangeMask 0#64 else w.info } := by
  cases changed with
  | true => exact .of_eq rfl ⟨rfl, rfl⟩
  | false => exact .of_eq rfl ⟨rfl, rfl⟩

omit [DecidableEq V] in
/-- A request for a route that is found: the save flag, the panel's part, and what is
dispatched of it. -/
theorem setRouteParam_applies {request : RouteRequest V} (hon : w.profile ≠ 0) {pos : Nat}
    {r : RouteSnapshot V}
    (hpos : resolveRoutePos w.panel.routes request.index request.name request.device = some pos)
    (hr : w.panel.routes[pos]? = some r) {Q : RouteChange → Panel V → Prop}
    (happly : Runs (apply io curve r.key
      ⟨!r.active, (request.props.getD []).filterMap RouteProp.update⟩) w.panel Q) :
    Runs (setRouteParam curve io request) w fun res w' => ∃ change panel bump, Q change panel ∧
      bump = (change.refresh || w.saves pos != request.save) ∧
      res = (0, (if bump then [.info (w.info.bumped deviceChangeBits [.route])] else []) ++
        changeConfigs curve panel.routes change) ∧
      w' = { w with
        panel
        saves := update w.saves pos request.save
        info := if bump then (w.info.bumped deviceChangeBits [.route]).replaceChangeMask 0#64 else w.info } := by
  unfold setRouteParam
  refine .get (.ite (fun hoff => absurd hoff hon) fun _ => ?_)
  simp only [hpos]
  refine .modify (.bind_of (onPanel_runs (routeAt_runs hr)) ?_)
  rintro _ _ ⟨_, ⟨rfl, rfl⟩, rfl⟩
  refine .bind_of (onPanel_runs happly) ?_
  rintro change _ ⟨panel, hchange, rfl⟩
  refine .bind_of (queueRouteChangeIf_runs _ _) ?_
  rintro info _ ⟨rfl, rfl⟩
  exact .get (.pure ⟨change, panel, _, hchange, rfl, rfl, rfl⟩)

omit [DecidableEq V] in
theorem setRouteParam_runs (hw : w.Ready curve) (request : RouteRequest V) :
    Runs (setRouteParam curve io request) w fun res w' =>
      ∃ bump configs, RoutesStep curve w bump configs res.2 w' := by
  by_cases hon : w.profile = 0
  · exact .get (.ite (fun _ => .pure ⟨false, [], .refl w⟩) fun hne => absurd hon hne)
  cases hpos : resolveRoutePos w.panel.routes request.index request.name request.device with
  | none =>
    refine .get (.ite (fun hoff => absurd hoff hon) fun _ => ?_)
    simp only [hpos]
    exact .pure ⟨false, [], .refl w⟩
  | some pos =>
    obtain ⟨r, hr, -⟩ := resolveRoutePos_some hpos
    refine (setRouteParam_applies hon hpos hr (apply_tells hw.indexed _ _)).mono ?_
    rintro _ _ ⟨change, panel, bump, ⟨hkept, htold⟩, hbump, rfl, rfl⟩
    have hindexed := hkept.indexed hw.indexed
    have hroute : ∀ (k : Nat) (q q' : RouteSnapshot V), w.panel.routes[k]? = some q →
        panel.routes[k]? = some q' → RequestTold k q q' change := by
      intro k q q' hq hq'
      obtain ⟨q'', hq'', ht⟩ := htold k q hq
      cases Option.some.inj (hq'.symm.trans hq'')
      exact ht
    have hback : ∀ (k : Nat) (q' : RouteSnapshot V), panel.routes[k]? = some q' →
        ∃ q, w.panel.routes[k]? = some q ∧ RequestTold k q q' change := by
      intro k q' hq'
      obtain ⟨q, hq⟩ := exists_getElem?_of_length hkept.routes.symm hq'
      exact ⟨q, hq, hroute k q q' hq hq'⟩
    have hone : changeConfigs curve panel.routes change =
        [change].flatMap (changeConfigs curve panel.routes) := by
      rw [List.flatMap_singleton]
    refine ⟨bump, changeConfigs curve panel.routes change, rfl, rfl, rfl, hkept, rfl, rfl,
      fun hquiet => ?_, fun hoff => absurd hoff hon, ?_, ?_⟩
    · rw [hbump] at hquiet
      obtain ⟨hrefresh, hsave⟩ := Bool.or_eq_false_iff.mp hquiet
      refine ⟨List.eq_nil_iff_forall_not_mem.mpr fun note hnote => ?_, funext fun k => ?_,
        fun k q q' hq hq' => (hroute k q q' hq hq').quiet hrefresh⟩
      · obtain ⟨k, q', hq', hcases⟩ := (mem_changeConfigs hindexed).mp hnote
        obtain ⟨q, -, ht⟩ := hback k q' hq'
        rcases hcases with ⟨htells, -⟩ | ⟨htells, -⟩
        · rw [ht.refresh .volume nofun htells] at hrefresh
          cases hrefresh
        · rw [ht.refresh .mute nofun htells] at hrefresh
          cases hrefresh
      · by_cases hk : k = pos
        · subst hk
          exact (update_self _ _ _).trans (bne_eq_false_iff_eq.mp hsave).symm
        · exact update_ne _ _ hk
    · rw [hone]
      refine changeConfigs_current hindexed fun c hc k q' hq' a ha htells => ?_
      rw [List.mem_singleton.mp hc] at htells
      obtain ⟨q, -, ht⟩ := hback k q' hq'
      exact ht.active a ha htells
    · intro k q q' hq hq' hbefore hafter
      rw [hone]
      refine changeConfigs_told hindexed hq' fun a ha hd => ⟨change, List.mem_singleton_self _, ?_⟩
      exact (hroute k q q' hq hq').told hbefore hafter a ha hd

/-- A Profile request that changes the profile, or only its save flag, or nothing. -/
structure ProfileStep (curve : Curve V) (request : ProfileRequest) (w : Runtime V)
    (notes : List (DeviceNotification V)) (w' : Runtime V) : Prop where
  card : w'.card = w.card
  profile : w'.profile = request.index
  profileSave : w'.profileSave = request.save
  saves : w'.saves = w.saves
  kept : w.panel.Kept curve w'.panel
  changed : w.profile ≠ request.index →
    w'.info = (w.info.bumped deviceChangeBits [.profile, .enumRoute, .route]).replaceChangeMask 0#64 ∧
    notes = (objectEvents w.card w'.panel.routes (request.index ≠ 0)).map .object ++
      [.info (w.info.bumped deviceChangeBits [.profile, .enumRoute, .route])]
  same : w.profile = request.index → w'.panel = w.panel ∧
    if w.profileSave = request.save then w'.info = w.info ∧ notes = []
    else w'.info = (w.info.bumped deviceChangeBits [.profile]).replaceChangeMask 0#64 ∧
      notes = [.info (w.info.bumped deviceChangeBits [.profile])]

omit [DecidableEq V] in
theorem setProfileParam_runs (hw : w.Ready curve) (request : ProfileRequest) :
    Runs (setProfileParam curve io request) w fun res w' =>
      res.1 = 0 ∧ ProfileStep curve request w res.2 w' := by
  unfold setProfileParam
  refine .get (.modify (.ite (fun hne => ?_) fun heq => ?_))
  · refine .modify ?_
    have hrefresh : Runs (refreshRoutes curve io request.index)
        { w with profile := request.index, profileSave := request.save } fun _ w' =>
        ∃ panel, w.panel.Kept curve panel ∧
          w' = { w with profile := request.index, profileSave := request.save, panel } := by
      refine .ite (fun _ => ?_) fun _ => .pure ⟨w.panel, .refl _, rfl⟩
      exact onPanel_runs (refreshAll_runs hw.indexed)
    refine .bind_of hrefresh ?_
    rintro _ _ ⟨panel, hkept, rfl⟩
    refine .get (.bind_of (announceParams_runs _ _) ?_)
    rintro info _ ⟨rfl, rfl⟩
    refine .pure ⟨rfl, rfl, rfl, rfl, rfl, hkept, fun _ => ⟨rfl, rfl⟩, fun heq => absurd heq hne⟩
  · have heq : w.profile = request.index := Classical.not_not.mp heq
    refine .ite (fun hsave => ?_) fun hsave => ?_
    · refine .bind_of (announceParams_runs _ _) ?_
      rintro info _ ⟨rfl, rfl⟩
      refine .pure ⟨rfl, rfl, heq, rfl, rfl, .refl _, fun hne => absurd heq hne, fun _ => ⟨rfl, ?_⟩⟩
      rw [if_neg hsave]
      exact ⟨rfl, rfl⟩
    · refine .pure ⟨rfl, rfl, heq, rfl, rfl, .refl _, fun hne => absurd heq hne, fun _ => ⟨rfl, ?_⟩⟩
      rw [if_pos (Classical.not_not.mp hsave)]
      exact ⟨rfl, rfl⟩

end

/-! ## ObjectConfigs -/

/-- What an operation sends of volumes and mutes. -/
structure ConfigsTold (curve : Curve V) (w : Runtime V) (notes : List (DeviceNotification V))
    (w' : Runtime V) : Prop where
  /-- An ObjectConfig is about an active route as it is, and comes after an info with a
  new serial of Route. -/
  current : ∀ pod, .event pod ∈ notes → w'.profile ≠ 0 ∧
    (∃ (k : Nat) (r : RouteSnapshot V) (emitVolume : Bool), w'.panel.routes[k]? = some r ∧
      r.active = true ∧ .event pod = queueObjectConfig curve r emitVolume) ∧
    ∃ info configs, notes = .info info :: configs ∧
      info.tag deviceChangeBits .route ≠ w.info.flagsOf .route
  /-- What an active route has anew is sent. -/
  told : w'.profile = w.profile → ∀ (k : Nat) (r r' : RouteSnapshot V),
    w.panel.routes[k]? = some r → w'.panel.routes[k]? = some r' →
    r.active = true → r'.active = true →
      (r'.volume ≠ r.volume → queueObjectConfig curve r' true ∈ notes) ∧
      (r'.mute ≠ r.mute → queueObjectConfig curve r' false ∈ notes)

section
variable {curve : Curve V} {w w' : Runtime V}

/-- Nothing is sent of a device that stays as it is. -/
theorem ConfigsTold.silent (hroutes : w'.panel.routes = w.panel.routes)
    {notes : List (DeviceNotification V)} (hnotes : ∀ n ∈ notes, ∃ seq, n = .done seq) :
    ConfigsTold curve w notes w' := by
  refine ⟨fun pod hpod => ?_, fun _ k r r' hr hr' _ _ => ?_⟩
  · obtain ⟨seq, heq⟩ := hnotes _ hpod
    cases heq
  · rw [hroutes] at hr'
    cases Option.some.inj (hr.symm.trans hr')
    exact ⟨fun hne => absurd rfl hne, fun hne => absurd rfl hne⟩

end

end PwOss.Device
