import PwOss.Oss.Routes

/-
  The names of routes.

  A session manager stores a route under its name and its node, and asks for it by
  them after the device has come back, when its index may be another one. So no two
  routes of one node have one name (`Named`). A probe gives each unit two nodes, one
  for each direction, and to a node either one route or one for each recording source
  (`Adds`); the units are distinct, and so are the names of the sources.
-/

namespace PwOss.Oss

open PwOss.OrdMap PwOss.Proc

variable {V : Type}

/-- Routes of one node have different names. -/
def Named (routes : List (RouteSnapshot V)) : Prop :=
  routes.Pairwise fun r q => r.nodeId = q.nodeId → r.name ≠ q.name

/-- The position of a route is given by its node and its name. -/
theorem Named.position_unique {routes : List (RouteSnapshot V)} (h : Named routes) {j k : Nat}
    {r q : RouteSnapshot V} (hr : routes[j]? = some r) (hq : routes[k]? = some q)
    (hnode : r.nodeId = q.nodeId) (hname : r.name = q.name) : j = k := by
  obtain ⟨hj, rfl⟩ := List.getElem?_eq_some_iff.mp hr
  obtain ⟨hk, rfl⟩ := List.getElem?_eq_some_iff.mp hq
  have hpairs := List.pairwise_iff_getElem.mp h
  rcases Nat.lt_trichotomy j k with hlt | heq | hgt
  · exact absurd hname (hpairs j k hj hk hlt hnode)
  · exact heq
  · exact absurd hname.symm (hpairs k j hk hj hgt hnode.symm)

/-- What names the routes is kept with them. -/
theorem Named.kept {curve : Curve V} {s t : Panel V} (h : Named s.routes) (hkept : s.Kept curve t) :
    Named t.routes := by
  refine List.pairwise_iff_getElem.mpr fun j k hj hk hlt hnode => ?_
  have hj' := hkept.routes ▸ hj
  have hk' := hkept.routes ▸ hk
  have hrj := (hkept.route j _ _ (List.getElem?_eq_getElem hj') (List.getElem?_eq_getElem hj)).eq
  have hrk := (hkept.route k _ _ (List.getElem?_eq_getElem hk') (List.getElem?_eq_getElem hk)).eq
  rw [hrj, hrk] at hnode ⊢
  exact List.pairwise_iff_getElem.mp h j k hj' hk' hlt hnode

/-! ## Probes -/

/-- Routes of a node are added, with different names. -/
def Adds (node : Nat) (s t : Panel V) : Prop :=
  ∃ added : List (RouteSnapshot V), t.routes = s.routes ++ added ∧
    (added.map (·.name)).Nodup ∧ ∀ r ∈ added, r.nodeId = node

section
variable {node : Nat} {s t : Panel V}

theorem Adds.nothing (h : t.routes = s.routes) : Adds node s t :=
  ⟨[], by rw [h, List.append_nil], .nil, nofun⟩

theorem Adds.one {r : RouteSnapshot V} (h : t.routes = s.routes ++ [r]) (hnode : r.nodeId = node) :
    Adds node s t :=
  ⟨[r], h, List.nodup_singleton _, fun _ hq => List.mem_singleton.mp hq ▸ hnode⟩

/-- The routes of another node than those before. -/
theorem Adds.named (h : Adds node s t) (hs : Named s.routes)
    (hother : ∀ r ∈ s.routes, r.nodeId ≠ node) : Named t.routes := by
  obtain ⟨added, ht, hnames, hnode⟩ := h
  rw [Named, ht]
  refine List.pairwise_append.mpr ⟨hs, ?_, fun r hr q hq heq => ?_⟩
  · refine (List.pairwise_map.mp hnames).imp ?_
    intro r q hne _
    exact hne
  · exact absurd (heq.trans (hnode q hq)) (hother r hr)

theorem Adds.mem (h : Adds node s t) {r : RouteSnapshot V} (hr : r ∈ t.routes) :
    r ∈ s.routes ∨ r.nodeId = node := by
  obtain ⟨added, ht, -, hnode⟩ := h
  rw [ht] at hr
  exact (List.mem_append.mp hr).imp id (hnode r)

end

/-- The name of the route of a recording source. -/
def sourceRouteName (deviceCount unit : Nat) (sourceName : String) : String :=
  if deviceCount = 1 then "oss-input-" ++ sourceName
  else "oss-input-pcm" ++ toString unit ++ "-" ++ sourceName

theorem sourceRouteName_inj {deviceCount unit : Nat} {a b : String}
    (h : sourceRouteName deviceCount unit a = sourceRouteName deviceCount unit b) : a = b := by
  unfold sourceRouteName at h
  split at h
  · exact String.append_right_inj _ |>.mp h
  · exact String.append_right_inj _ |>.mp h

theorem mixerSourceNames_nodup : mixerSourceNames.Nodup := by decide

section
variable {curve : Curve V} {io : Ioctls} {s : Panel V}

theorem probeSource_adds {source : Nat} {sourceName : String}
    (hsource : mixerSourceNames[source]? = some sourceName) (deviceCount mixerIndex : Nat)
    (mixer : Mixer) (selected : Word) :
    Runs (probeSource curve io deviceCount mixerIndex mixer selected source) s fun _ t =>
      ∃ r : RouteSnapshot V, t.routes = s.routes ++ [r] ∧ r.nodeId = mixer.unit * 2 + 1 ∧
        r.name = sourceRouteName deviceCount mixer.unit sourceName := by
  unfold probeSource
  refine (Mixer.levelAt_reads _).bind fun levels n _ => ?_
  refine (Mixer.mutedAt_reads _).bind fun muted n _ => ?_
  refine index_runs hsource ?_
  by_cases hone : deviceCount = 1
  · simp only [if_pos hone]
    exact .of_eq rfl ⟨_, rfl, rfl, (if_pos hone).symm⟩
  · simp only [if_neg hone]
    exact .of_eq rfl ⟨_, rfl, rfl, (if_neg hone).symm⟩

/-- The sources of one mixer: their names are among those of the list, in order. -/
theorem probeSources_adds (deviceCount mixerIndex : Nat) (mixer : Mixer) (selected : Word) :
    ∀ (sources : List Nat) (used : Bool) (s : Panel V),
      (∀ c ∈ sources, c < mixerSourceNames.length) →
      Runs (probeSources curve io deviceCount mixerIndex mixer selected sources used) s fun _ t =>
        ∃ added : List (RouteSnapshot V), t.routes = s.routes ++ added ∧
          (added.map (·.name)).Sublist (sources.map fun c =>
            sourceRouteName deviceCount mixer.unit (mixerSourceNames[c]?.getD "")) ∧
          ∀ r ∈ added, r.nodeId = mixer.unit * 2 + 1
  | [], _, s, _ => .pure ⟨[], (List.append_nil _).symm, .slnil, nofun⟩
  | source :: sources, used, s, hall => by
    have hrest : ∀ c ∈ sources, c < mixerSourceNames.length := fun c hc =>
      hall c (List.mem_cons_of_mem _ hc)
    refine .ite (fun _ => ?_) fun _ => ?_
    · have hname := List.getElem?_eq_getElem (hall source List.mem_cons_self)
      refine .bind_of (probeSource_adds hname ..) ?_
      rintro _ t ⟨r, ht, hnode, hr⟩
      refine (probeSources_adds deviceCount mixerIndex mixer selected sources true t hrest).mono ?_
      rintro _ u ⟨added, hu, hsub, hnodes⟩
      refine ⟨r :: added, by rw [hu, ht, List.append_assoc]; rfl, ?_, ?_⟩
      · rw [List.map_cons, List.map_cons, hr, hname, Option.getD_some]
        exact hsub.cons_cons _
      · exact List.forall_mem_cons.mpr ⟨hnode, hnodes⟩
    · refine (probeSources_adds deviceCount mixerIndex mixer selected sources used s hrest).mono ?_
      rintro _ u ⟨added, hu, hsub, hnodes⟩
      exact ⟨added, hu, hsub.cons _, hnodes⟩

/-- The node of one direction of a unit. -/
def nodeOf (unit : Nat) (direction : StreamDirection) : Nat :=
  unit * 2 + if direction = .capture then 1 else 0

theorem probeControl_adds (deviceCount mixerIndex : Nat) (mixer : Mixer)
    (direction : StreamDirection) (counts : ProbeCounts) (control : Nat) (followsRecsrc : Bool) :
    Runs (probeControl curve io deviceCount mixerIndex mixer direction counts control followsRecsrc)
      s fun _ t => Adds (nodeOf mixer.unit direction) s t := by
  unfold probeControl
  refine (Mixer.level_reads control).bind fun levels n _ => ?_
  cases levels with
  | none => exact .pure (.nothing rfl)
  | some levels =>
    refine (Mixer.muted_reads control).bind fun muted n _ => ?_
    cases direction with
    | playback => exact .bind (.of_eq rfl (.pure (.one rfl rfl)))
    | capture => exact .bind (.of_eq rfl (.pure (.one rfl rfl)))

theorem probeDirection_adds (deviceCount mixerIndex : Nat) (mixer : Mixer) (recsrc : Word)
    (direction : StreamDirection) (enabled : Bool) (counts : ProbeCounts) :
    Runs (probeDirection curve io deviceCount mixerIndex mixer recsrc direction enabled counts) s
      fun _ t => Adds (nodeOf mixer.unit direction) s t := by
  unfold probeDirection
  refine .ite (fun _ => .pure (.nothing rfl)) fun _ => .ite (fun hmany => ?_) fun _ => ?_
  · refine .bind_of (probeSources_adds deviceCount mixerIndex mixer _ _ _ s ?_) ?_
    · exact fun c hc => List.mem_range.mp hc
    rintro used t ⟨added, ht, hsub, hnodes⟩
    refine .pure ⟨added, ht, hsub.nodup ?_, fun r hr => ?_⟩
    · -- the sources have different names
      refine List.Nodup.map_on (fun a ha b hb hab => ?_) List.nodup_range
      have ha : a < mixerSourceNames.length := List.mem_range.mp ha
      have hb : b < mixerSourceNames.length := List.mem_range.mp hb
      have heq := sourceRouteName_inj hab
      rw [List.getElem?_eq_getElem ha, List.getElem?_eq_getElem hb, Option.getD_some,
        Option.getD_some] at heq
      exact mixerSourceNames_nodup.getElem_inj_iff.mp heq
    · rw [hnodes r hr, nodeOf, if_pos hmany.1]
  · refine (pickControl_reads mixer direction).bind fun picked n _ => ?_
    rcases picked with _ | ⟨control, followsRecsrc⟩
    · exact .pure (.nothing rfl)
    · exact probeControl_adds ..

theorem openMixer_unit (unit : Nat) : Reads (openMixer io unit) s fun mixer =>
    ∀ m ∈ mixer, m.unit = unit := by
  unfold openMixer
  refine Runs.ite (fun _ => ?_) fun _ => Reads.pure nofun
  refine (Mixer.readInt_reads _).andThen fun devmask n _ => ?_
  cases devmask with
  | none => exact .pure nofun
  | some devmask =>
    refine (Mixer.readInt_reads _).andThen fun recmask n _ => .pure ?_
    rintro m ⟨⟩
    rfl

/-- The routes of one unit, after those of others. -/
theorem probeUnit_named (hs : Named s.routes) {unit : Nat}
    (hother : ∀ r ∈ s.routes, r.nodeId / 2 ≠ unit) (deviceCount : Nat) (play capture : Bool)
    (counts : ProbeCounts) :
    Runs (probeUnit curve io deviceCount unit play capture counts) s fun _ t =>
      Named t.routes ∧ ∀ r ∈ t.routes, r ∈ s.routes ∨ r.nodeId / 2 = unit := by
  unfold probeUnit
  refine (openMixer_unit unit).bind fun mixer n hunit => ?_
  cases mixer with
  | none => exact .pure ⟨hs, fun r hr => .inl hr⟩
  | some mixer =>
    have hunit : mixer.unit = unit := hunit mixer rfl
    refine (Mixer.readInt_reads _).bind fun recsrc n _ => .get ?_
    refine .bind_of (probeDirection_adds _ _ mixer _ .playback play _) ?_
    intro counts t ht
    refine .bind_of (probeDirection_adds _ _ mixer _ .capture capture _) ?_
    intro counts u hu
    have hplay : ∀ r ∈ s.routes, r.nodeId ≠ nodeOf mixer.unit .playback := fun r hr heq =>
      hother r hr (by rw [heq, hunit, nodeOf, if_neg nofun]; omega)
    have hcapture : ∀ r ∈ t.routes, r.nodeId ≠ nodeOf mixer.unit .capture := by
      intro r hr heq
      rcases ht.mem hr with hold | hnew
      · exact hother r hold (by rw [heq, hunit, nodeOf, if_pos rfl]; omega)
      · rw [hnew, nodeOf, nodeOf, if_neg nofun, if_pos rfl] at heq
        omega
    have hnamed : Named u.routes := hu.named (ht.named hs hplay) hcapture
    have hmem : ∀ r ∈ u.routes, r ∈ s.routes ∨ r.nodeId / 2 = unit := by
      intro r hr
      rcases hu.mem hr with hold | hnew
      · rcases ht.mem hold with hold | hnew
        · exact .inl hold
        · right
          rw [hnew, hunit, nodeOf, if_neg nofun]
          omega
      · right
        rw [hnew, hunit, nodeOf, if_pos rfl]
        omega
    refine .ite (fun _ => ?_) fun _ => .pure ⟨hnamed, hmem⟩
    exact Mixer.modifyCounter_reads.bind fun counter n _ => .modify (.pure ⟨hnamed, hmem⟩)

theorem probeUnits_named (deviceCount : Nat) :
    ∀ (devices : List (Nat × Bool × Bool)) (counts : ProbeCounts) (s : Panel V),
      devices.Pairwise (fun a b => a.1 < b.1) → Named s.routes →
      (∀ r ∈ s.routes, ∀ d ∈ devices, r.nodeId / 2 ≠ d.1) →
      Runs (probeUnits curve io deviceCount devices counts) s fun _ t => Named t.routes
  | [], _, _, _, hs, _ => .pure hs
  | (unit, play, capture) :: devices, counts, s, hsorted, hs, hother => by
    obtain ⟨hhead, hrest⟩ := List.pairwise_cons.mp hsorted
    refine .bind_of (probeUnit_named hs (fun r hr => hother r hr _ List.mem_cons_self) ..) ?_
    rintro counts t ⟨ht, hmem⟩
    refine probeUnits_named deviceCount devices counts t hrest ht fun r hr d hd => ?_
    rcases hmem r hr with hold | hnew
    · exact hother r hold d (List.mem_cons_of_mem _ hd)
    · rw [hnew]
      exact Nat.ne_of_lt (hhead d hd)

/-- The routes of every probe are told apart by their nodes and names. -/
theorem probe_named (snapshot : DeviceSnapshot) (hw : Hardware) :
    Runs (probe curve io snapshot) (Panel.new hw) fun _ t => Named t.routes :=
  probeUnits_named _ _ _ _ (pcmUnits snapshot).sorted .nil nofun

end

end PwOss.Oss
