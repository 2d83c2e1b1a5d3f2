import PwOss.Oss.Mixer
import PwOss.Spa.Params
import PwOss.Sys.Kqueue

/-
  The params of a device: `enum_params` of `device/mod.rs`.

  A device has two profiles, the active one, all its routes, and its active routes.
  `DeviceState.params` says what there is under each id, and `buildParam` is the
  source's step at an index, which skips an inactive route before it asks whether
  the index or the profile ends the enumeration.

  Correspondence (Rust ↔ Lean):
    `Runtime`, as far as its params go         ↔ `DeviceState`
    `build_profile_info`, `build_route_info`   ↔ `DevicePod`
    `enum_params` and its build closure        ↔ `enumParams`, `buildParam`
  A pod is kept as what it is built from; how it is laid out is the filter's matter.
-/

namespace PwOss.Device

open PwOss.Oss PwOss.Spa PwOss.Sys

variable {V Q : Type}

/-- The param ids of a device, and those that it does not know. -/
inductive ParamId where
  | enumProfile | profile | enumRoute | route
  | other (id : Nat)
  deriving DecidableEq, Repr

/-- A pod: the function that builds it with its arguments. -/
inductive DevicePod (V : Type) where
  | profileInfo (id : ParamId) (index : Nat) (snapshot : DeviceSnapshot)
    (profileSave current : Bool)
  | routeInfo (id : ParamId) (route : RouteSnapshot V) (pos profile : Nat) (full : Bool)

/-- The state of a device that its params show. A route's index fits the `u32` that
addresses it. -/
structure DeviceState (V : Type) where
  snapshot : DeviceSnapshot
  profile : Nat
  profileSave : Bool
  routes : List (RouteSnapshot V)
  few : routes.length < 2 ^ 32

namespace DeviceState
variable (d : DeviceState V)

/-- There is a route at the index, and it is not active. -/
def inactiveAt (index : UInt32) : Bool := (d.routes[index.toNat]?).any fun route => !route.active

/-- The build step of `enum_params`. -/
def buildParam (id : ParamId) (index : UInt32) : ParamStep (DevicePod V) :=
  if id = .route ∧ d.inactiveAt index then .skip
  else
    match id with
    | .enumProfile =>
      if index = 0 ∨ index = 1 then
        .built (.profileInfo .enumProfile index.toNat d.snapshot d.profileSave false)
      else .stop 0
    | .profile =>
      if index = 0 then .built (.profileInfo .profile d.profile d.snapshot d.profileSave true)
      else .stop 0
    | .enumRoute =>
      match d.routes[index.toNat]? with
      | some route => .built (.routeInfo .enumRoute route index.toNat d.profile false)
      | none => .stop 0
    | .route =>
      match d.routes[index.toNat]? with
      | some route =>
        if d.profile ≠ 0 then .built (.routeInfo .route route index.toNat d.profile true)
        else .stop 0
      | none => .stop 0
    | .other _ => .stop (-enoent)

/-- `enum_params`, to listeners that do what `listen` says. -/
def enumParams (filter : DevicePod V → Option Q)
    (listen : DeviceState V → ParamResult Q → DeviceState V) (fuel : Nat) (id : ParamId)
    (start max : UInt32) : Option (Int × List (ParamResult Q) × DeviceState V) :=
  enumParamsLoop (fun d index => d.buildParam id index) filter listen max fuel start 0 d

/-! ## What there is to enumerate -/

/-- The params of a device under an id. No Route is there while the profile is Off. -/
def params : ParamId → List (UInt32 × DevicePod V)
  | .enumProfile =>
    [(0, .profileInfo .enumProfile 0 d.snapshot d.profileSave false),
      (1, .profileInfo .enumProfile 1 d.snapshot d.profileSave false)]
  | .profile => [(0, .profileInfo .profile d.profile d.snapshot d.profileSave true)]
  | .enumRoute => d.routes.zipIdx.map fun r =>
    (UInt32.ofNat r.2, .routeInfo .enumRoute r.1 r.2 d.profile false)
  | .route =>
    if d.profile = 0 then []
    else (d.routes.zipIdx.filter (·.1.active)).map fun r =>
      (UInt32.ofNat r.2, .routeInfo .route r.1 r.2 d.profile true)
  | .other _ => []

/-- From this index on, no id has anything. -/
def limit : Nat := max 2 d.routes.length

variable {d}

theorem limit_lt : d.limit < 2 ^ 32 := Nat.max_lt.mpr ⟨by decide, d.few⟩

theorem buildParam_stops {id : ParamId} {index : UInt32} (h : d.limit ≤ index.toNat) :
    ∃ res, d.buildParam id index = .stop res := by
  obtain ⟨htwo, hroutes⟩ := Nat.max_le.mp h
  have hnone : d.routes[index.toNat]? = none := List.getElem?_eq_none hroutes
  have hactive : ¬ (id = .route ∧ d.inactiveAt index = true) := by
    rw [inactiveAt, hnone]
    simp
  have hzero : index ≠ 0 := fun heq => by
    rw [heq] at htwo
    exact absurd htwo (by decide)
  have hone : index ≠ 1 := fun heq => by
    rw [heq] at htwo
    exact absurd htwo (by decide)
  unfold buildParam
  rw [if_neg hactive]
  cases id with
  | enumProfile => exact ⟨0, if_neg (not_or.mpr ⟨hzero, hone⟩)⟩
  | profile => exact ⟨0, if_neg hzero⟩
  | enumRoute => exact ⟨0, by rw [hnone]⟩
  | route => exact ⟨0, by rw [hnone]⟩
  | other id => exact ⟨_, rfl⟩

/-- The profiles are a run of two steps. -/
theorem enumProfile_run :
    FiniteRun (d.buildParam .enumProfile) [(), ()] fun _ i =>
      some (.profileInfo .enumProfile i d.snapshot d.profileSave false) where
  length_lt := by decide
  step := fun i hi => by
    have hcases : i = 0 ∨ i = 1 := by
      rw [List.length_cons, List.length_singleton] at hi
      omega
    rcases hcases with rfl | rfl <;> rfl
  stop := ⟨0, rfl⟩

/-- The active profile is a run of one step. -/
theorem profile_run :
    FiniteRun (d.buildParam .profile) [()] fun _ _ =>
      some (.profileInfo .profile d.profile d.snapshot d.profileSave true) where
  length_lt := by decide
  step := fun i hi => by
    have hzero : i = 0 := Nat.lt_one_iff.mp hi
    subst hzero
    rfl
  stop := ⟨0, rfl⟩

theorem toNat_route {i : Nat} (hi : i < d.routes.length) : (UInt32.ofNat i).toNat = i :=
  UInt32.toNat_ofNat_of_lt' (Nat.lt_trans hi d.few)

theorem getElem?_length : d.routes[(UInt32.ofNat d.routes.length).toNat]? = none := by
  rw [UInt32.toNat_ofNat_of_lt' d.few]
  exact List.getElem?_eq_none (Nat.le_refl _)

/-- All routes are a run of built steps. -/
theorem enumRoute_run :
    FiniteRun (d.buildParam .enumRoute) d.routes fun route i =>
      some (.routeInfo .enumRoute route i d.profile false) where
  length_lt := d.few
  step := fun i hi => by
    unfold buildParam
    rw [if_neg (by simp)]
    simp only [toNat_route hi, List.getElem?_eq_getElem hi]
    rfl
  stop := ⟨0, by
    unfold buildParam
    rw [if_neg (by simp)]
    simp only [getElem?_length]⟩

/-- With a profile, the routes are a run in which the inactive ones are skipped. -/
theorem route_run (h : d.profile ≠ 0) :
    FiniteRun (d.buildParam .route) d.routes fun route i =>
      if route.active then some (.routeInfo .route route i d.profile true) else none where
  length_lt := d.few
  step := fun i hi => by
    unfold buildParam inactiveAt
    simp only [toNat_route hi, List.getElem?_eq_getElem hi, Option.any_some]
    cases hactive : d.routes[i].active with
    | true => simp [h]
    | false => simp
  stop := ⟨0, by
    unfold buildParam inactiveAt
    simp only [getElem?_length, Option.any_none, Bool.false_eq_true, and_false, if_false]⟩

/-- With the profile Off, no step builds a Route. -/
theorem route_off (h : d.profile = 0) (index : UInt32) (pod : DevicePod V) :
    d.buildParam .route index ≠ .built pod := by
  unfold buildParam
  split
  · nofun
  · dsimp only
    split
    · rw [if_neg (fun hne => hne h)]
      nofun
    · nofun

/-- The listing of an id is what the filter accepts of its params. -/
theorem listing_params (id : ParamId) (filter : DevicePod V → Option Q) :
    listing (d.buildParam id) filter 0 = accepted filter (d.params id) := by
  cases id with
  | enumProfile => exact enumProfile_run.listing_eq filter 2 0 rfl
  | profile => exact profile_run.listing_eq filter 1 0 rfl
  | enumRoute =>
    refine (enumRoute_run.listing_eq filter _ 0 (Nat.zero_add _)).trans ?_
    simp only [builtFrom, params, Option.map_some, List.drop_zero, List.filterMap_eq_map']
  | route =>
    by_cases hprofile : d.profile = 0
    · have hstop : StopsBy (d.buildParam .route) (UInt32.ofNat d.limit) 0 := by
        refine ⟨Nat.zero_le _, buildParam_stops (Nat.le_of_eq ?_)⟩
        exact (UInt32.toNat_ofNat_of_lt' limit_lt).symm
      rw [listing_nil hstop (route_off hprofile), params, if_pos hprofile]
      rfl
    · refine ((route_run hprofile).listing_eq filter _ 0 (Nat.zero_add _)).trans ?_
      rw [params, if_neg hprofile, ← List.filterMap_eq_map, List.filterMap_filter, builtFrom,
        List.drop_zero]
      congr 2
      funext r
      split <;> rfl
  | other id => exact listing_stop rfl

/-- Paged enumeration, of a builder and of a device that do not change, with a filter
that does not. A builder that is a finite run of steps followed by a stop is read in
pages of any size as it is at once: what the filter accepts of the run, each index once
and in order. A device's ids are read in pages in the same way, from any start each call
ends, and there is what `params` says: under Route the active routes while a profile is
active, and nothing while it is Off. -/
theorem enum_params_paged :
    (∀ (S P Q A : Type) (build : S → UInt32 → ParamStep P) (state : S) (run : List A)
        (pod : A → Nat → Option P), FiniteRun (build state) run pod →
      ∀ (filter : P → Option Q) (fuel : Nat), run.length < fuel →
        Enumerates (fun max start =>
            (enumParamsLoop build filter (fun s _ => s) max fuel start 0 state).map (·.2.1))
          (fun start => start.toNat ≤ run.length ∨ ∃ res, build state start = .stop res)
          (accepted filter (builtFrom pod run 0))) ∧
    ∀ (V Q : Type) (d : DeviceState V) (id : ParamId) (filter : DevicePod V → Option Q)
        (fuel : Nat), d.limit < fuel →
      Enumerates (fun max start =>
          (d.enumParams filter (fun s _ => s) fuel id start max).map (·.2.1))
        (fun _ => True) (accepted filter (d.params id)) := by
  constructor
  · intro S P Q A build state run pod hrun filter fuel hfuel
    have hlast : (UInt32.ofNat run.length).toNat = run.length :=
      UInt32.toNat_ofNat_of_lt' hrun.length_lt
    rw [← List.drop_zero (l := run), ← hrun.listing_eq filter _ 0 (Nat.zero_add _)]
    refine enumerates_listing build filter state (hrun.stopsBy (Nat.zero_le _)) (by omega) ?_
    rintro start (hle | hstop)
    · exact ⟨_, hrun.stopsBy hle, by omega⟩
    · exact ⟨start, ⟨Nat.le_refl _, hstop⟩, by omega⟩
  · intro V Q d id filter fuel hfuel
    have hlast : (UInt32.ofNat d.limit).toNat = d.limit := UInt32.toNat_ofNat_of_lt' limit_lt
    have hstop : ∃ res, d.buildParam id (UInt32.ofNat d.limit) = .stop res :=
      buildParam_stops (Nat.le_of_eq hlast.symm)
    have hzero : StopsBy (d.buildParam id) (UInt32.ofNat d.limit) 0 := ⟨Nat.zero_le _, hstop⟩
    have hless : (UInt32.ofNat d.limit).toNat < fuel := by omega
    rw [← listing_params]
    refine enumerates_listing (fun d index => d.buildParam id index) filter d hzero hless
      fun start _ => ?_
    rcases Nat.le_total start.toNat d.limit with hle | hge
    · exact ⟨UInt32.ofNat d.limit, ⟨by omega, hstop⟩, by omega⟩
    · exact ⟨start, ⟨Nat.le_refl _, buildParam_stops hge⟩, by omega⟩

/-- A device with the profile on and three routes, the middle one inactive. -/
def threeRoutes : DeviceState Nat where
  snapshot := ⟨[]⟩
  profile := 1
  profileSave := false
  routes := [true, false, true].map fun active =>
    ⟨0, 0, .capture, "", "", 0, active, ⟨[], false⟩, ⟨false, false⟩⟩
  few := by decide

/-- Read one at a time, its Route params are the first route and the third. -/
theorem enum_params_paged_threeRoutes :
    (Paging.pages ParamResult.next (fun start =>
        (threeRoutes.enumParams (fun _ => some ()) (fun s _ => s) 4 .route start 1).map (·.2.1))
      3 0).map (fun results => results.map (·.index)) = some [0, 2] := by
  rw [(enum_params_paged.2 Nat Unit threeRoutes .route (fun _ => some ()) 4 (by decide)).paged 1
    (by decide) 3 (by decide)]
  decide

end DeviceState

end PwOss.Device
