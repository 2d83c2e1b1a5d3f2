import PwOss.Oss.Announced
import PwOss.Oss.Routes

/-
  Requests for values that a route had before.

  A value that is requested is the route's afterwards when every call on the mixers
  succeeds (`apply_answered`), and of several values for one thing the last counts. A
  request for what the route has already changes nothing and writes nothing
  (`apply_held`), but it may note the mixer's counter, which is a hint for polls.
-/

namespace PwOss.Oss

open PwOss.Lists PwOss.Proc

variable {V : Type}

/-- Every read and every write of a mixer succeeds. -/
structure Ioctls.Answering (io : Ioctls) : Prop where
  reads : ∀ call unit dev, io.reads call unit dev = true
  writes : ∀ call unit dev, io.writes call unit dev = true

/-- A route has the values that were asked for, and otherwise those that it had. -/
structure ValuesMade (curve : Curve V) (levels : Option (Nat × Nat)) (muted : Option Bool)
    (r r' : RouteSnapshot V) : Prop where
  volume : curve.Native r → r'.volume.values = (levels.map curve.volumes).getD r.volume.values
  mute : r'.mute.value = muted.getD r.mute.value

section
variable {curve : Curve V} {io : Ioctls} {s : Panel V} {pos : Nat} {r : RouteSnapshot V}
  {b : RouteBinding} {h : MixerHandle} {n : Nat}

/-! ## Calls that succeed -/

theorem Mixer.writeInt_answered (hio : io.Answering) (m : Mixer) (dev : Nat) (value : Word) :
    Runs (m.writeInt io dev value) s fun ok _ => ok = true := by
  refine .bind (.of_eq (a := s.calls) (t := { s with calls := s.calls + 1 }) rfl ?_)
  exact .ite (fun _ => .modify (.pure rfl)) fun hno => absurd (hio.writes _ _ _) hno

theorem Mixer.setMuted_answered (hio : io.Answering) (m : Mixer) (dev : Nat) (mute : Bool) :
    Runs (m.setMuted io dev mute) s fun ok _ => ok = true := by
  have hread : Runs (m.readInt io soundMixerMute) s fun mask _ =>
      mask = some (s.hw.register m.unit soundMixerMute) :=
    .of_eq rfl (if_pos (hio.reads _ _ _))
  refine .bind_of hread ?_
  rintro _ t rfl
  exact Mixer.writeInt_answered hio m soundMixerMute _

theorem writeMuted_answered (hio : io.Answering) (hmixer : s.mixers[b.mixer]? = some h)
    (requested : Bool) : Runs (writeMuted io b requested) s fun ok _ => ok = true := by
  unfold writeMuted
  cases b.muteControl with
  | none => exact .pure rfl
  | some c => exact index_runs hmixer (Mixer.setMuted_answered hio h.mixer c requested)

theorem writeLevels_answered (hio : io.Answering) (hmixer : s.mixers[b.mixer]? = some h)
    (levels : Nat × Nat) : Runs (writeLevels io b levels) s fun ok _ => ok = true := by
  unfold writeLevels
  cases b.volumeControl with
  | none => exact .pure rfl
  | some c => exact index_runs hmixer (Mixer.writeInt_answered hio h.mixer c _)

/-! ## Values that are made -/

theorem applyValue_answered (hio : io.Answering) (hat : s.At pos r b h) (hb : b.Bound n)
    (done : Applied) (v : RouteValueUpdate V) :
    Runs (applyValue io curve pos b done v) s fun _ t =>
      ∀ r', t.routes[pos]? = some r' → ValuesMade curve (v.levels curve) v.muted r r' := by
  have hsame : ValuesMade curve (v.levels curve) v.muted r r →
      ∀ r', s.routes[pos]? = some r' → ValuesMade curve (v.levels curve) v.muted r r' := by
    intro hmade r' hr'
    cases Option.some.inj (hr'.symm.trans hat.route)
    exact hmade
  unfold applyValue
  cases v with
  | mute requested =>
    refine index_runs hat.route (.ite (fun heq => .pure (hsame ⟨fun _ => rfl, heq.symm⟩)) fun _ => ?_)
    refine .bind_of ((writeMuted_answered hio hat.handle requested).and
      (writeMuted_runs hat.handle hb requested)) ?_
    rintro _ t ⟨rfl, ht⟩
    obtain ⟨hw', m, -, rfl⟩ := ht.done rfl
    refine .bind (modifyRoute_runs hat.route (.pure fun r' hr' => ?_))
    cases Option.some.inj ((getElem?_set_of hat.route).symm.trans hr')
    exact ⟨fun _ => rfl, rfl⟩
  | volume values =>
    refine index_runs hat.route (.ite (fun heq => .pure (hsame ?_)) fun hne => ?_)
    · refine ⟨fun hnative => ?_, rfl⟩
      rw [RouteValueUpdate.levels]
      split
      · rfl
      · next hempty =>
        have hlevels : curve.levels values = curve.nativeLevels r.volume := by
          simpa [hempty] using heq
        rw [Option.map_some, Option.getD_some, hlevels, hnative.volumes_levels]
    · have hempty : ¬ values.isEmpty = true := fun hempty => hne (by rw [hempty, Bool.true_or])
      refine .bind_of ((writeLevels_answered hio hat.handle _).and
        (writeLevels_runs curve hat.handle hb (curve.levels values))) ?_
      rintro _ t ⟨rfl, ht⟩
      obtain ⟨hw', m, -, rfl⟩ := ht.done rfl
      refine .bind (modifyRoute_runs hat.route (.pure fun r' hr' => ?_))
      cases Option.some.inj ((getElem?_set_of hat.route).symm.trans hr')
      refine ⟨fun _ => ?_, rfl⟩
      rw [RouteValueUpdate.levels, if_neg hempty]
      rfl

theorem applyValues_answered (hio : io.Answering) (hb : b.Bound n) :
    ∀ (values : List (RouteValueUpdate V)) (done : Applied) (s : Panel V) (r : RouteSnapshot V),
      s.At pos r b h → Runs (applyValues io curve pos b values done) s fun _ t =>
        ∀ r', t.routes[pos]? = some r' →
          ValuesMade curve (lastLevels curve values) (lastMuted values) r r'
  | [], done, s, r, hat => by
    refine .pure fun r' hr' => ?_
    cases Option.some.inj (hr'.symm.trans hat.route)
    exact ⟨fun _ => rfl, rfl⟩
  | v :: values, done, s, r, hat => by
    refine .bind_of ((applyValue_answered hio hat hb done v).and
      (applyValue_runs curve io hat hb done v)) ?_
    rintro done₁ _ ⟨hfirst, r₁, hw₁, n₁, rfl, hstep⟩
    have hat₁ := hat.advance r₁ hw₁ n₁
    have hfirst := hfirst r₁ hat₁.route
    refine (applyValues_answered hio hb values done₁ _ r₁ hat₁).mono fun _ t ht r' hr' => ?_
    have hrest := ht r' hr'
    refine ⟨fun hnative => ?_, ?_⟩
    · rw [hrest.volume (hstep.native hnative), hfirst.volume hnative]
      exact (getLast?_filterMap_cons _ _ v values _).symm
    · have hlast := getLast?_filterMap_cons RouteValueUpdate.muted id v values r.mute.value
      rw [Option.map_id] at hlast
      rw [hrest.mute, hfirst.mute]
      exact hlast.symm

/-- When every call succeeds the route has the values that were requested last. -/
theorem apply_answered (hio : io.Answering) (hs : s.Indexed curve) (hr : s.routes[pos]? = some r)
    (hkey : position s.routes r.key = some pos) (update : RouteUpdate V) :
    Runs (apply io curve r.key update) s fun _ t => ∃ r', t.routes[pos]? = some r' ∧
      (∀ levels ∈ lastLevels curve update.values, r'.volume.values = curve.volumes levels) ∧
      ∀ muted ∈ lastMuted update.values, r'.mute.value = muted := by
  unfold apply
  refine .get ?_
  simp only [hkey]
  obtain ⟨r₀, b₀, h, hat⟩ := hs.located (List.getElem?_eq_some_iff.mp hr).1
  refine .bind_of (prepare_runs io hs hat update.activate) ?_
  rintro ⟨selected, selection, b⟩ u ⟨r₁, hu⟩
  have hu : Prepared curve s pos r₀ h selected selection b r₁ u := hu
  have hindexed := hu.kept.indexed hs
  have hb := hindexed.bound b (List.mem_of_getElem? hu.located.binding)
  have hnative : curve.Native r₁ := hindexed.native r₁ (List.mem_of_getElem? hu.located.route)
  refine .bind_of ((applyValues_answered hio hb update.values {} u r₁ hu.located).and
    (applyValues_runs hb update.values {} u r₁ hu.located)) ?_
  rintro done _ ⟨hmade, r', hw', n', rfl, hrun⟩
  have hat' := hu.located.advance r' hw' n'
  have hmade := hmade r' hat'.route
  obtain ⟨hkept, hactives⟩ := hrun.kept hu.located n'
  refine .bind_of (recordCounter_runs curve io hat') ?_
  rintro _ t ⟨hcounted, hroutes, -, h', hat'', -⟩
  have hselected : ∀ q ∈ selected, ∃ rq, t.routes[q]? = some rq := by
    intro q hq
    obtain ⟨rq, hrq, -⟩ := hu.selected q hq
    exact exists_getElem?_of_length (hkept.trans hcounted).routes hrq
  refine .bind_of (selectionNotificationFlags_runs hat''.route hselected done.volume done.mute) ?_
  rintro ⟨changedPos, volume, mute⟩ t' ⟨ht', rq, hrq, -⟩
  subst t'
  refine index_runs hat''.route (index_runs hrq (.pure ⟨r', hat''.route, ?_, ?_⟩))
  · intro levels hlevels
    rw [hmade.volume hnative, Option.mem_def.mp hlevels]
    rfl
  · intro muted hmuted
    rw [hmade.mute, Option.mem_def.mp hmuted]
    rfl

/-! ## Values that are there -/

/-- The route has the value already. -/
def RouteValueUpdate.Held (curve : Curve V) (r : RouteSnapshot V) : RouteValueUpdate V → Prop
  | .mute requested => requested = r.mute.value
  | .volume values => curve.levels values = curve.nativeLevels r.volume

theorem applyValues_held (hr : s.routes[pos]? = some r) :
    ∀ (values : List (RouteValueUpdate V)) (done : Applied), (∀ v ∈ values, v.Held curve r) →
      Runs (applyValues io curve pos b values done) s fun done' t => done' = done ∧ t = s
  | [], done, _ => .pure ⟨rfl, rfl⟩
  | v :: values, done, hheld => by
    have hone : Runs (applyValue io curve pos b done v) s fun done' t => done' = done ∧ t = s := by
      have hv := hheld v List.mem_cons_self
      unfold applyValue
      cases v with
      | mute requested => exact index_runs hr (.ite (fun _ => .pure ⟨rfl, rfl⟩) fun hne => absurd hv hne)
      | volume values =>
        have hlevels : curve.levels values = curve.nativeLevels r.volume := hv
        refine index_runs hr (.ite (fun _ => .pure ⟨rfl, rfl⟩) fun hne => absurd ?_ hne)
        rw [decide_eq_true hlevels, Bool.or_true]
    refine .bind_of hone ?_
    rintro done' t ⟨hdone, ht⟩
    rw [hdone, ht]
    exact applyValues_held hr values _ fun w hw => hheld w (List.mem_cons_of_mem v hw)

/-- A request for what a route has, without a selection, changes no route and writes to no
mixer, and has nothing to tell. -/
theorem apply_held (hs : s.Indexed curve) (hr : s.routes[pos]? = some r)
    (hkey : position s.routes r.key = some pos) {values : List (RouteValueUpdate V)}
    (hheld : ∀ v ∈ values, v.Held curve r) :
    Runs (apply io curve r.key ⟨false, values⟩) s fun change t => t.routes = s.routes ∧
      t.hw = s.hw ∧ change.volume = false ∧ change.mute = false ∧ change.refresh = false := by
  unfold apply
  refine .get ?_
  simp only [hkey]
  obtain ⟨r₀, b₀, h, hat⟩ := hs.located (List.getElem?_eq_some_iff.mp hr).1
  cases Option.some.inj (hr.symm.trans hat.route)
  have hprepare : Runs (prepare io curve false pos) s fun found u =>
      found.1 = none ∧ found.2.1 = .unchanged ∧ u.routes = s.routes ∧ u.hw = s.hw ∧
        u.At pos r found.2.2 h := by
    refine .bind_of (R := fun outcome u => outcome = (none, .unchanged) ∧ u = s) ?_ ?_
    · exact index_runs hat.route (.ite (fun hcond => by cases hcond) fun _ => .pure ⟨rfl, rfl⟩)
    rintro _ _ ⟨rfl, rfl⟩
    refine .bind_of (resolveControls_runs hat) ?_
    rintro _ _ ⟨b', n, hres, rfl⟩
    refine index_runs (getElem?_set_of hat.binding) (.pure ⟨rfl, rfl, rfl, rfl, ?_⟩)
    exact ⟨hat.route, getElem?_set_of hat.binding, hres.mixer ▸ hat.handle⟩
  refine .bind_of hprepare ?_
  rintro ⟨_, _, b⟩ u ⟨rfl, rfl, hroutes, hhw, hu⟩
  refine .bind_of (applyValues_held hu.route values {} hheld) ?_
  rintro _ _ ⟨rfl, rfl⟩
  refine .bind_of (recordCounter_runs curve io hu) ?_
  rintro _ t ⟨-, hroutes', hhw', h', hat', -⟩
  have hnone : ∀ q ∈ (none : Option Nat), ∃ rq, t.routes[q]? = some rq := nofun
  refine .bind_of (selectionNotificationFlags_eq hat'.route hnone false false) ?_
  rintro ⟨changedPos, volume, mute⟩ t' ⟨ht', -, hflags⟩
  subst t'
  rw [Bool.and_false] at hflags
  obtain ⟨rfl, rfl, rfl⟩ : changedPos = pos ∧ volume = false ∧ mute = false := by
    simpa only [Prod.mk.injEq] using hflags rfl
  refine index_runs hat'.route (index_runs hat'.route (.pure ?_))
  exact ⟨hroutes'.trans hroutes, hhw'.trans hhw, rfl, rfl, rfl⟩

end

end PwOss.Oss
