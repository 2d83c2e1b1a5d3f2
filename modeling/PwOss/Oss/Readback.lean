import PwOss.Lib.Lists
import PwOss.Oss.RouteController

/-
  What the route controller reads back from the mixers: `resolve_controls`,
  `refresh` and `sync_source`, each with the one description that the polls and
  requests above it use.

  `Indexed` is the panel's invariant. `Kept` is what no operation changes: which
  route stands where, its binding's mixer and source. The operations keep it from
  any panel, so they keep `Indexed`.
-/

namespace PwOss.Oss

open PwOss.Lists PwOss.Proc

variable {V : Type}

/-! ## Readings -/

/-- `x` only reads: it makes calls and nothing else, and its result is as `Q` says. -/
def Reads {α : Type} (x : Proc (Panel V) α) (s : Panel V) (Q : α → Prop) : Prop :=
  Runs x s fun a t => Q a ∧ ∃ n, t = { s with calls := n }

namespace Reads
variable {α β : Type} {s : Panel V} {x : Proc (Panel V) α} {Q : α → Prop}

theorem pure {a : α} (h : Q a) : Reads (Pure.pure a) s Q := Runs.pure ⟨h, s.calls, rfl⟩

theorem bind {f : α → Proc (Panel V) β} {P : β → Panel V → Prop} (hx : Reads x s Q)
    (hf : ∀ a n, Q a → Runs (f a) { s with calls := n } P) : Runs (x >>= f) s P := by
  refine .bind_of hx ?_
  rintro a t ⟨ha, n, rfl⟩
  exact hf a n ha

theorem andThen {f : α → Proc (Panel V) β} {P : β → Prop} (hx : Reads x s Q)
    (hf : ∀ a n, Q a → Reads (f a) { s with calls := n } P) : Reads (x >>= f) s P :=
  hx.bind hf

theorem mono {Q' : α → Prop} (h : Reads x s Q) (hQ : ∀ a, Q a → Q' a) : Reads x s Q' :=
  Runs.mono h fun a _ ha => ⟨hQ a ha.1, ha.2⟩

end Reads

theorem index_runs {α β : Type} {list : Panel V → List β} {i : Nat} {s : Panel V} {b : β}
    {f : β → Proc (Panel V) α} {Q : α → Panel V → Prop} (h : (list s)[i]? = some b)
    (hf : Runs (f b) s Q) : Runs (index list i >>= f) s Q := by
  refine .bind (.of_eq (t := s) (a := b) ?_ hf)
  simp only [index, h, Option.map_some]

theorem modifyRoute_runs {pos : Nat} {f : RouteSnapshot V → RouteSnapshot V} {s : Panel V}
    {route : RouteSnapshot V} {Q : Unit → Panel V → Prop} (h : s.routes[pos]? = some route)
    (hQ : Q () { s with routes := s.routes.set pos (f route) }) :
    Runs (modifyRoute pos f) s Q :=
  index_runs h ⟨(), _, rfl, hQ⟩

namespace Mixer
variable {io : Ioctls} {m : Mixer} {s : Panel V}

/-- What the next call reads of a control. -/
def reading (io : Ioctls) (m : Mixer) (s : Panel V) (dev : Nat) : Option Word :=
  if io.reads s.calls m.unit dev then some (s.hw.register m.unit dev) else none

theorem readInt_reads (dev : Nat) : Reads (m.readInt io dev) s (· = m.reading io s dev) :=
  ⟨_, _, rfl, rfl, _, rfl⟩

theorem reading_eq {dev : Nat} {v : Word} (h : m.reading io s dev = some v) :
    v = s.hw.register m.unit dev := by
  unfold reading at h
  split at h
  · exact (Option.some.inj h).symm
  · cases h

theorem level_reads (dev : Nat) : Reads (m.level io dev) s fun levels =>
    ∀ l ∈ levels, levelsOf (s.hw.register m.unit dev) = some l := by
  refine (readInt_reads dev).andThen fun v n hv => .pure fun l hl => ?_
  obtain ⟨w, hw, hlevels⟩ := Option.bind_eq_some_iff.mp hl
  rw [← reading_eq (hv ▸ hw)]
  exact hlevels

theorem muted_reads (dev : Nat) : Reads (m.muted io dev) s fun muted =>
    ∀ b ∈ muted, b = (s.hw.register m.unit soundMixerMute).getLsbD dev := by
  refine (readInt_reads _).andThen fun v n hv => .pure fun b hb => ?_
  obtain ⟨w, hw, rfl⟩ := Option.map_eq_some_iff.mp hb
  rw [← reading_eq (m := m) (s := s) (hv ▸ hw)]

theorem levelAt_reads (control : Option Nat) :
    Reads (m.levelAt io control) s fun levels => control = none → levels = none := by
  cases control with
  | none => exact .pure fun _ => rfl
  | some dev => exact (level_reads dev).mono fun _ _ h => absurd h (by simp)

theorem mutedAt_reads (control : Option Nat) :
    Reads (m.mutedAt io control) s fun muted => control = none → muted = none := by
  cases control with
  | none => exact .pure fun _ => rfl
  | some dev => exact (muted_reads dev).mono fun _ _ h => absurd h (by simp)

/-- Every control that a capture route picks is one of the mixer's devices. -/
theorem inputControl_reads : Reads (m.inputControl io) s fun picked =>
    ∀ p ∈ picked, p.1 < soundMixerNrdevices := by
  unfold inputControl
  refine Runs.ite (fun _ => Reads.pure ?_) fun _ => ?_
  · rintro _ ⟨⟩
    decide
  refine (readInt_reads _).andThen fun recsrc n _ => ?_
  cases hnamed : m.namedControl recsrc with
  | some dev =>
    obtain ⟨word, -, hfind⟩ := Option.bind_eq_some_iff.mp hnamed
    refine .pure ?_
    rintro _ ⟨⟩
    exact List.mem_range.mp (List.mem_of_find?_eq_some hfind)
  | none =>
    refine .pure ?_
    intro p hp
    split at hp
    · cases hp
      decide
    · cases hp

theorem modifyCounter_reads : Reads (m.modifyCounter io) s fun counter =>
    counter = if io.counters s.calls m.unit then some (s.hw.counter m.unit) else none :=
  ⟨_, _, rfl, rfl, _, rfl⟩

end Mixer

/-! ## The panel's invariant -/

/-- A binding with its indices in bounds: a mixer that is there and controls that
fit a mask. A source of its own is never found again by the recording source. -/
structure RouteBinding.Bound (n : Nat) (b : RouteBinding) : Prop where
  mixer : b.mixer < n
  volume : ∀ c ∈ b.volumeControl, c < soundMixerNrdevices
  mute : ∀ c ∈ b.muteControl, c < soundMixerNrdevices
  source : ∀ c ∈ b.source, c < soundMixerNrdevices
  selectable : b.source.isSome → b.followsRecsrc = false

/-- Volumes that stand for a level each. -/
def Curve.Native (curve : Curve V) (route : RouteSnapshot V) : Prop :=
  ∃ levels, route.volume.values = curve.volumes levels

/-- The panel's invariant, with `n` mixers. -/
structure Panel.IndexedBy (curve : Curve V) (n : Nat) (s : Panel V) : Prop where
  bindings : s.bindings.length = s.routes.length
  key : ∀ (k : Nat) (r : RouteSnapshot V), s.routes[k]? = some r → r.key = k
  bound : ∀ b ∈ s.bindings, b.Bound n
  native : ∀ r ∈ s.routes, curve.Native r

/-- The panel's invariant. -/
abbrev Panel.Indexed (curve : Curve V) (s : Panel V) : Prop := s.IndexedBy curve s.mixers.length

/-- The route at a position, its binding and its mixer. -/
structure Panel.At (s : Panel V) (k : Nat) (r : RouteSnapshot V) (b : RouteBinding)
    (h : MixerHandle) : Prop where
  route : s.routes[k]? = some r
  binding : s.bindings[k]? = some b
  handle : s.mixers[b.mixer]? = some h

/-- Every position of the route list has a binding and a mixer. -/
theorem Panel.Indexed.located {curve : Curve V} {s : Panel V} (hs : s.Indexed curve) {k : Nat}
    (hk : k < s.routes.length) : ∃ r b h, s.At k r b h := by
  have hb : k < s.bindings.length := hs.bindings ▸ hk
  have hm := (hs.bound _ (List.getElem_mem hb)).mixer
  exact ⟨_, _, _, List.getElem?_eq_getElem hk, List.getElem?_eq_getElem hb,
    List.getElem?_eq_getElem hm⟩

/-- The controls of a binding may be found again; the rest of it stays. -/
structure RouteBinding.Resolved (b b' : RouteBinding) : Prop where
  mixer : b'.mixer = b.mixer
  follows : b'.followsRecsrc = b.followsRecsrc
  source : b'.source = b.source
  fixed : b.followsRecsrc = false → b' = b
  volume : ∀ c ∈ b'.volumeControl, c ∈ b.volumeControl ∨ c < soundMixerNrdevices
  mute : ∀ c ∈ b'.muteControl, c ∈ b.muteControl ∨ c < soundMixerNrdevices

namespace RouteBinding.Resolved
variable {b b' b'' : RouteBinding}

theorem refl (b : RouteBinding) : b.Resolved b :=
  ⟨rfl, rfl, rfl, fun _ => rfl, fun _ => .inl, fun _ => .inl⟩

theorem trans (h : b.Resolved b') (h' : b'.Resolved b'') : b.Resolved b'' where
  mixer := h'.mixer.trans h.mixer
  follows := h'.follows.trans h.follows
  source := h'.source.trans h.source
  fixed := fun hf => (h'.fixed (h.follows.trans hf)).trans (h.fixed hf)
  volume := fun c hc => (h'.volume c hc).elim (h.volume c) .inr
  mute := fun c hc => (h'.mute c hc).elim (h.mute c) .inr

theorem bound (h : b.Resolved b') {n : Nat} (hb : b.Bound n) : b'.Bound n where
  mixer := h.mixer ▸ hb.mixer
  volume := fun c hc => (h.volume c hc).elim (hb.volume c) id
  mute := fun c hc => (h.mute c hc).elim (hb.mute c) id
  source := h.source ▸ hb.source
  selectable := fun hs => by rw [h.follows]; exact hb.selectable (h.source ▸ hs)

end RouteBinding.Resolved

/-- The state of a route may change; what names it stays. -/
structure RouteSnapshot.Restated (curve : Curve V) (r r' : RouteSnapshot V) : Prop where
  eq : r' = { r with active := r'.active, volume := r'.volume, mute := r'.mute }
  native : curve.Native r → curve.Native r'

namespace RouteSnapshot.Restated
variable {curve : Curve V} {r r' r'' : RouteSnapshot V}

theorem refl (r : RouteSnapshot V) : r.Restated curve r := ⟨rfl, id⟩

theorem trans (h : r.Restated curve r') (h' : r'.Restated curve r'') : r.Restated curve r'' where
  eq := by
    rw [h'.eq, h.eq]
  native := h'.native ∘ h.native

theorem key (h : r.Restated curve r') : r'.key = r.key := by rw [h.eq]

end RouteSnapshot.Restated

/-- What an operation keeps: the mixers, and what stands at each position. -/
structure Panel.Kept (curve : Curve V) (s t : Panel V) : Prop where
  mixers : t.mixers.map (·.mixer) = s.mixers.map (·.mixer)
  routes : t.routes.length = s.routes.length
  bindings : t.bindings.length = s.bindings.length
  binding : ∀ (k : Nat) (b b' : RouteBinding), s.bindings[k]? = some b →
    t.bindings[k]? = some b' → b.Resolved b'
  route : ∀ (k : Nat) (r r' : RouteSnapshot V), s.routes[k]? = some r →
    t.routes[k]? = some r' → r.Restated curve r'

namespace Panel.Kept
variable {curve : Curve V} {s t u : Panel V}

/-- Neither routes nor bindings changed. -/
theorem of_eq (hmixers : t.mixers.map (·.mixer) = s.mixers.map (·.mixer))
    (hroutes : t.routes = s.routes) (hbindings : t.bindings = s.bindings) : s.Kept curve t where
  mixers := hmixers
  routes := by rw [hroutes]
  bindings := by rw [hbindings]
  binding := fun k b b' hb hb' => by
    rw [hbindings] at hb'
    cases Option.some.inj (hb.symm.trans hb')
    exact .refl b
  route := fun k r r' hr hr' => by
    rw [hroutes] at hr'
    cases Option.some.inj (hr.symm.trans hr')
    exact .refl r

theorem refl (s : Panel V) : s.Kept curve s := .of_eq rfl rfl rfl

theorem trans (h : s.Kept curve t) (h' : t.Kept curve u) : s.Kept curve u where
  mixers := h'.mixers.trans h.mixers
  routes := h'.routes.trans h.routes
  bindings := h'.bindings.trans h.bindings
  binding := fun k b b'' hb hb'' => by
    obtain ⟨b', hb'⟩ := exists_getElem?_of_length h.bindings hb
    exact (h.binding k b b' hb hb').trans (h'.binding k b' b'' hb' hb'')
  route := fun k r r'' hr hr'' => by
    obtain ⟨r', hr'⟩ := exists_getElem?_of_length h.routes hr
    exact (h.route k r r' hr hr').trans (h'.route k r' r'' hr' hr'')

theorem length_mixers (h : s.Kept curve t) : t.mixers.length = s.mixers.length := by
  have hlength := congrArg List.length h.mixers
  simpa only [List.length_map] using hlength

theorem indexed (h : s.Kept curve t) (hs : s.Indexed curve) : t.Indexed curve where
  bindings := h.bindings.trans (hs.bindings.trans h.routes.symm)
  key := fun k r' hr' => by
    obtain ⟨r, hr⟩ := exists_getElem?_of_length h.routes.symm hr'
    rw [(h.route k r r' hr hr').key, hs.key k r hr]
  bound := fun b' hb' => by
    obtain ⟨k, hk⟩ := List.mem_iff_getElem?.mp hb'
    obtain ⟨b, hb⟩ := exists_getElem?_of_length h.bindings.symm hk
    rw [h.length_mixers]
    exact (h.binding k b b' hb hk).bound (hs.bound b (List.mem_of_getElem? hb))
  native := fun r' hr' => by
    obtain ⟨k, hk⟩ := List.mem_iff_getElem?.mp hr'
    obtain ⟨r, hr⟩ := exists_getElem?_of_length h.routes.symm hk
    exact (h.route k r r' hr hk).native (hs.native r (List.mem_of_getElem? hr))

/-- A mixer keeps its place. -/
theorem handle_eq (h : s.Kept curve t) {i : Nat} {m m' : MixerHandle}
    (hm : s.mixers[i]? = some m) (hm' : t.mixers[i]? = some m') : m'.mixer = m.mixer := by
  have hmap := congrArg (·[i]?) h.mixers
  simp only [List.getElem?_map, hm', hm, Option.map_some] at hmap
  exact Option.some.inj hmap

/-- Where a route stood, there stands one with the same mixer. -/
theorem located (h : s.Kept curve t) {k : Nat} {r : RouteSnapshot V} {b : RouteBinding}
    {m : MixerHandle} (hs : s.At k r b m) : ∃ r' b' m', t.At k r' b' m' ∧
      r.Restated curve r' ∧ b.Resolved b' ∧ m'.mixer = m.mixer := by
  obtain ⟨r', hr'⟩ := exists_getElem?_of_length h.routes hs.route
  obtain ⟨b', hb'⟩ := exists_getElem?_of_length h.bindings hs.binding
  obtain ⟨m', hm'⟩ := exists_getElem?_of_length h.length_mixers hs.handle
  have hresolved := h.binding k b b' hs.binding hb'
  exact ⟨r', b', m', ⟨hr', hb', hresolved.mixer ▸ hm'⟩, h.route k r r' hs.route hr', hresolved,
    h.handle_eq hs.handle hm'⟩

end Panel.Kept

/-! ## `resolve_controls` and `refresh` -/

section
variable {curve : Curve V} {io : Ioctls} {s : Panel V} {pos : Nat} {r : RouteSnapshot V}
  {b : RouteBinding} {h : MixerHandle}

theorem resolveControls_runs (hat : s.At pos r b h) :
    Runs (resolveControls io pos) s fun _ t => ∃ b' n, b.Resolved b' ∧
      t = { s with bindings := s.bindings.set pos b', calls := n } := by
  have hsame : ∀ n, { s with calls := n } =
      { s with bindings := s.bindings.set pos b, calls := n } := fun n => by
    rw [set_eq_self hat.binding]
  unfold resolveControls
  refine index_runs hat.binding (.ite (fun hfollows => ?_) fun _ => ?_)
  · refine index_runs hat.handle (Mixer.inputControl_reads.bind fun picked n hpicked => ?_)
    rcases picked with _ | ⟨control, _ | _⟩
    · exact .pure ⟨b, n, .refl b, hsame n⟩
    · exact .pure ⟨b, n, .refl b, hsame n⟩
    · have hcontrol : control < soundMixerNrdevices := hpicked _ rfl
      refine (Mixer.level_reads control).bind fun levels n _ => ?_
      refine (Mixer.muted_reads control).bind fun mute n _ => .of_eq rfl ⟨_, n, ?_, rfl⟩
      refine ⟨rfl, rfl, rfl, fun hf => ?_, fun c hc => ?_, fun c hc => ?_⟩
      · rw [hf] at hfollows
        cases hfollows
      · obtain ⟨_, _, rfl⟩ := Option.map_eq_some_iff.mp hc
        exact .inr hcontrol
      · obtain ⟨_, _, rfl⟩ := Option.map_eq_some_iff.mp hc
        exact .inr hcontrol
  · exact .pure ⟨b, s.calls, .refl b, hsame s.calls⟩

/-- A route read back through its binding: its levels and its mute are as they were
or as the hardware has them. -/
structure Reread (curve : Curve V) (hw : Hardware) (unit : Nat) (b : RouteBinding)
    (r r' : RouteSnapshot V) : Prop where
  eq : r' = { r with volume := r'.volume, mute := r'.mute }
  volume : r'.volume.values = r.volume.values ∨ ∃ c ∈ b.volumeControl, ∃ levels,
    levelsOf (hw.register unit c) = some levels ∧ r'.volume.values = curve.volumes levels
  mute : r'.mute.value = r.mute.value ∨ ∃ c ∈ b.muteControl,
    r'.mute.value = (hw.register unit soundMixerMute).getLsbD c

theorem Reread.restated {hw : Hardware} {unit : Nat} {r' : RouteSnapshot V}
    (hr : Reread curve hw unit b r r') : r.Restated curve r' where
  eq := by
    have hactive : r'.active = r.active := by rw [hr.eq]
    rw [hactive]
    exact hr.eq
  native := by
    rintro ⟨levels, hlevels⟩
    rcases hr.volume with hsame | ⟨_, _, levels', _, hnew⟩
    · exact ⟨levels, hsame.trans hlevels⟩
    · exact ⟨levels', hnew⟩

theorem readLevels_reads (hmixer : s.mixers[b.mixer]? = some h) :
    Reads (readLevels io b) s fun levels => ∀ l ∈ levels, ∃ c ∈ b.volumeControl,
      levelsOf (s.hw.register h.mixer.unit c) = some l := by
  unfold readLevels
  cases hc : b.volumeControl with
  | none => exact .pure nofun
  | some c =>
    exact index_runs hmixer ((Mixer.level_reads c).mono fun levels hl l hmem => ⟨c, rfl, hl l hmem⟩)

theorem readMuted_reads (hmixer : s.mixers[b.mixer]? = some h) :
    Reads (readMuted io b) s fun muted => ∀ m ∈ muted, ∃ c ∈ b.muteControl,
      m = (s.hw.register h.mixer.unit soundMixerMute).getLsbD c := by
  unfold readMuted
  cases hc : b.muteControl with
  | none => exact .pure nofun
  | some c =>
    exact index_runs hmixer ((Mixer.muted_reads c).mono fun muted hl m hmem => ⟨c, rfl, hl m hmem⟩)

theorem refresh_runs (hat : s.At pos r b h) :
    Runs (refresh io curve pos) s fun _ t => ∃ r' b' n, b.Resolved b' ∧
      Reread curve s.hw h.mixer.unit b' r r' ∧
      t = { s with
        routes := s.routes.set pos r'
        bindings := s.bindings.set pos b'
        calls := n } := by
  unfold refresh
  refine .bind_of (resolveControls_runs hat) ?_
  rintro _ t ⟨b', n, hres, rfl⟩
  refine index_runs (getElem?_set_of hat.binding) ?_
  refine .bind (modifyRoute_runs hat.route ?_)
  refine (readLevels_reads (hres.mixer ▸ hat.handle)).bind fun levels n hlevels => ?_
  -- the route after the levels were read, whether or not the call succeeded
  refine .bind_of (R := fun _ t => ∃ r₁ : RouteSnapshot V,
    t = { s with routes := s.routes.set pos r₁, bindings := s.bindings.set pos b', calls := n } ∧
    r₁ = { r with volume := r₁.volume, mute := r₁.mute } ∧ r₁.mute.value = r.mute.value ∧
    (r₁.volume.values = r.volume.values ∨ ∃ c ∈ b'.volumeControl, ∃ levels,
      levelsOf (s.hw.register h.mixer.unit c) = some levels ∧
      r₁.volume.values = curve.volumes levels)) ?_ ?_
  · cases levels with
    | none => exact .of_eq rfl ⟨_, rfl, rfl, rfl, .inl rfl⟩
    | some l =>
      obtain ⟨c, hc, hl⟩ := hlevels l rfl
      refine modifyRoute_runs (getElem?_set_of hat.route)
        ⟨{ r with
            volume := ⟨curve.volumes l, b'.volumeControl.isSome⟩
            mute := ⟨r.mute.value, b'.muteControl.isSome⟩ },
          ?_, rfl, rfl, .inr ⟨c, hc, l, hl, rfl⟩⟩
      rw [List.set_set]
      rfl
  rintro _ t ⟨r₁, rfl, hr₁, hmute₁, hvolume₁⟩
  refine (readMuted_reads (hres.mixer ▸ hat.handle)).bind fun muted n hmuted => ?_
  cases muted with
  | none => exact .of_eq rfl ⟨r₁, b', n, hres, ⟨hr₁, hvolume₁, .inl hmute₁⟩, rfl⟩
  | some m =>
    obtain ⟨c, hc, hm⟩ := hmuted m rfl
    refine modifyRoute_runs (getElem?_set_of hat.route)
      ⟨{ r₁ with mute := ⟨m, r₁.mute.hardware⟩ }, b', n, hres, ⟨?_, hvolume₁, ?_⟩, ?_⟩
    · rw [hr₁]
    · exact .inr ⟨c, hc, hm⟩
    · rw [List.set_set]

/-- Reading back one route leaves the panel's shape. -/
theorem Panel.Kept.set (hat : s.At pos r b h) {b' : RouteBinding} {r' : RouteSnapshot V}
    (hb : b.Resolved b') (hr : r.Restated curve r') (n : Nat) :
    s.Kept curve
      { s with routes := s.routes.set pos r', bindings := s.bindings.set pos b', calls := n } where
  mixers := rfl
  routes := List.length_set
  bindings := List.length_set
  binding := fun k c c' hc hc' => by
    by_cases hk : pos = k
    · subst hk
      rw [getElem?_set_of hc] at hc'
      cases hc'
      cases Option.some.inj (hat.binding.symm.trans hc)
      exact hb
    · rw [List.getElem?_set_ne hk] at hc'
      cases Option.some.inj (hc.symm.trans hc')
      exact .refl c
  route := fun k q q' hq hq' => by
    by_cases hk : pos = k
    · subst hk
      rw [getElem?_set_of hq] at hq'
      cases hq'
      cases Option.some.inj (hat.route.symm.trans hq)
      exact hr
    · rw [List.getElem?_set_ne hk] at hq'
      cases Option.some.inj (hq.symm.trans hq')
      exact .refl q

end

/-! ## `sync_source` -/

/-- A route after `sync_source_routes`. -/
def syncRoute (mixerIndex : Nat) (selected : Word) (b : RouteBinding) (r : RouteSnapshot V) :
    RouteSnapshot V :=
  match b.source with
  | none => r
  | some source =>
    if b.mixer = mixerIndex then { r with active := selected.getLsbD source } else r

section
variable {m : Nat} {selected : Word} {b : RouteBinding} {r : RouteSnapshot V}

theorem syncRoute_eq :
    syncRoute m selected b r = { r with active := (syncRoute m selected b r).active } := by
  unfold syncRoute
  split
  · rfl
  · split <;> rfl

theorem syncRoute_restated {curve : Curve V} : r.Restated curve (syncRoute m selected b r) := by
  rw [syncRoute_eq]
  exact ⟨rfl, id⟩

theorem syncRoute_active {source : Nat} (hs : b.source = some source) (hm : b.mixer = m) :
    (syncRoute m selected b r).active = selected.getLsbD source := by
  simp only [syncRoute, hs, hm, if_true]

/-- Only the source routes of the mixer change. -/
theorem owned_of_syncRoute (h : (syncRoute m selected b r).active ≠ r.active) :
    b.mixer = m ∧ b.source.isSome := by
  unfold syncRoute at h
  split at h
  · exact absurd rfl h
  · next hsource =>
    split at h
    · next hm => exact ⟨hm, by rw [hsource]; rfl⟩
    · exact absurd rfl h

/-- The head of the list keeps its place whether or not it changes. -/
theorem syncSourceRoutes_cons (m : Nat) (selected : Word) (pos : Nat) (r : RouteSnapshot V)
    (routes : List (RouteSnapshot V)) (b : RouteBinding) (bindings : List RouteBinding) :
    syncSourceRoutes m selected pos (r :: routes) (b :: bindings) =
      (syncRoute m selected b r :: (syncSourceRoutes m selected (pos + 1) routes bindings).1,
        if (syncRoute m selected b r).active ≠ r.active then
          pos :: (syncSourceRoutes m selected (pos + 1) routes bindings).2
        else (syncSourceRoutes m selected (pos + 1) routes bindings).2) := by
  rw [syncSourceRoutes]
  unfold syncRoute
  generalize syncSourceRoutes m selected (pos + 1) routes bindings = rest
  cases hsource : b.source with
  | none => simp only [ne_eq, not_true_eq_false, if_false]
  | some source =>
    by_cases hmixer : b.mixer = m
    · by_cases hactive : r.active = selected.getLsbD source
      · have hsame : { r with active := selected.getLsbD source } = r := by rw [← hactive]
        simp only [hmixer, ne_eq, not_true_eq_false, if_false, if_true, hactive, hsame]
      · simp only [hmixer, ne_eq, not_true_eq_false, if_false, if_true, hactive, not_false_eq_true,
          Ne.symm hactive]
    · simp only [hmixer, ne_eq, not_false_eq_true, not_true_eq_false, if_true, if_false]

/-- `sync_source_routes` gives each route its new activity, and the positions, all
different, of those that changed. -/
theorem syncSourceRoutes_spec (m : Nat) (selected : Word) :
    ∀ (routes : List (RouteSnapshot V)) (bindings : List RouteBinding) (pos : Nat),
      (syncSourceRoutes m selected pos routes bindings).1.length = routes.length ∧
      (syncSourceRoutes m selected pos routes bindings).2.Pairwise (· < ·) ∧
      (∀ p ∈ (syncSourceRoutes m selected pos routes bindings).2,
        ∃ k, p = pos + k ∧ k < routes.length) ∧
      ∀ k r b, routes[k]? = some r → bindings[k]? = some b →
        (syncSourceRoutes m selected pos routes bindings).1[k]? = some (syncRoute m selected b r) ∧
        (pos + k ∈ (syncSourceRoutes m selected pos routes bindings).2 ↔
          (syncRoute m selected b r).active ≠ r.active)
  | [], bindings, pos => by
    refine ⟨by cases bindings <;> rfl, by cases bindings <;> exact .nil, ?_, nofun⟩
    cases bindings <;> exact fun _ h => absurd h List.not_mem_nil
  | route :: routes, [], pos => ⟨rfl, .nil, fun _ h => absurd h List.not_mem_nil, nofun⟩
  | route :: routes, binding :: bindings, pos => by
    obtain ⟨hlength, hsorted, hrange, hcell⟩ :=
      syncSourceRoutes_spec m selected routes bindings (pos + 1)
    rw [syncSourceRoutes_cons]
    generalize syncSourceRoutes m selected (pos + 1) routes bindings = rest at *
    have hlater : ∀ p ∈ rest.2, pos < p := fun p hp => by
      obtain ⟨k, rfl, -⟩ := hrange p hp
      omega
    refine ⟨by rw [List.length_cons, List.length_cons, hlength], ?_, fun p hp => ?_, ?_⟩
    · split
      · exact List.pairwise_cons.mpr ⟨hlater, hsorted⟩
      · exact hsorted
    · have hp : p = pos ∨ p ∈ rest.2 := by
        split at hp
        · exact List.mem_cons.mp hp
        · exact .inr hp
      rcases hp with rfl | hp
      · exact ⟨0, rfl, Nat.succ_pos _⟩
      · obtain ⟨k, rfl, hk⟩ := hrange p hp
        exact ⟨k + 1, by omega, by rw [List.length_cons]; omega⟩
    · intro k r b hr hb
      cases k with
      | zero =>
        cases hr
        cases hb
        refine ⟨rfl, ?_⟩
        have hnot : pos ∉ rest.2 := fun h => Nat.lt_irrefl pos (hlater pos h)
        split
        · next hne => exact iff_of_true List.mem_cons_self hne
        · next heq => exact iff_of_false hnot heq
      | succ k =>
        obtain ⟨hget, hiff⟩ := hcell k r b hr hb
        refine ⟨hget, ?_⟩
        rw [← hiff, Nat.add_assoc, Nat.add_comm 1 k]
        split
        · rw [List.mem_cons, or_iff_right (by omega)]
        · rfl

end

/-- One route across `sync_source`; `named` says that it is reported. -/
structure SyncedRoute (curve : Curve V) (hw : Hardware) (unit m : Nat) (b : RouteBinding)
    (r r' : RouteSnapshot V) (named : Prop) : Prop where
  changed : named ↔ r'.active ≠ r.active
  still : ¬ named → r' = r
  owned : named → b.mixer = m ∧ b.source.isSome
  read : Reread curve hw unit b { r with active := r'.active } r'

/-- A panel across `sync_source` of the mixer `h`, and the positions it reports. -/
structure SyncedPanel (curve : Curve V) (io : Ioctls) (m : Nat) (h : MixerHandle) (s : Panel V)
    (changed : List Nat) (t : Panel V) : Prop where
  eq : t = { s with routes := t.routes, calls := t.calls }
  length : t.routes.length = s.routes.length
  nodup : changed.Nodup
  lt : ∀ p ∈ changed, p < s.routes.length
  route : ∀ (k : Nat) (r : RouteSnapshot V) (b : RouteBinding), s.routes[k]? = some r →
    s.bindings[k]? = some b → ∃ r', t.routes[k]? = some r' ∧
      SyncedRoute curve s.hw h.mixer.unit m b r r' (k ∈ changed)
  active : ∀ recsrc ∈ h.mixer.reading io s soundMixerRecsrc,
    ∀ (k : Nat) (r' : RouteSnapshot V) (b : RouteBinding), t.routes[k]? = some r' →
      s.bindings[k]? = some b → b.mixer = m → ∀ source ∈ b.source,
        r'.active = (selectedRecordingSources h.mixer.recmask recsrc).getLsbD source

section
variable {curve : Curve V} {io : Ioctls} {s : Panel V} {m : Nat} {h : MixerHandle}

theorem Reread.refl {hw : Hardware} {unit : Nat} {b : RouteBinding} (r : RouteSnapshot V) :
    Reread curve hw unit b r r := ⟨rfl, .inl rfl, .inl rfl⟩

/-- Nothing was synchronised: no source could be read, or the mixer has none. -/
theorem SyncedPanel.same (n : Nat)
    (hnone : ∀ recsrc ∈ h.mixer.reading io s soundMixerRecsrc, ∀ b ∈ s.bindings,
      b.mixer = m → b.source = none) :
    SyncedPanel curve io m h s [] { s with calls := n } where
  eq := rfl
  length := rfl
  nodup := .nil
  lt := fun _ hp => absurd hp List.not_mem_nil
  route := fun k r b hr _ => by
    refine ⟨r, hr, ⟨?_, fun _ => rfl, fun hk => absurd hk List.not_mem_nil, .refl r⟩⟩
    exact iff_of_false List.not_mem_nil fun hne => hne rfl
  active := fun recsrc hrecsrc k r' b _ hb hm source hsource => by
    rw [hnone recsrc hrecsrc b (List.mem_of_getElem? hb) hm] at hsource
    cases hsource

/-- The routes that became active are read back, each once. -/
theorem refreshChanged_runs (hs : s.Indexed curve) (hm : s.mixers[m]? = some h)
    {changed : List Nat} (hnodup : changed.Nodup)
    (hlt : ∀ p ∈ changed, p < s.routes.length)
    (howned : ∀ p ∈ changed, ∀ b, s.bindings[p]? = some b → b.mixer = m ∧ b.source.isSome) :
    Runs (visit changed fun pos => do
        let route ← routeAt pos
        if route.active then refresh io curve pos else pure ()) s fun _ t =>
      t = { s with routes := t.routes, calls := t.calls } ∧
      t.routes.length = s.routes.length ∧
      (∀ (k : Nat) (r : RouteSnapshot V) (b : RouteBinding), s.routes[k]? = some r →
        s.bindings[k]? = some b → ∃ r', t.routes[k]? = some r' ∧
          Reread curve s.hw h.mixer.unit b r r') ∧
      ∀ k : Nat, k ∉ changed → t.routes[k]? = s.routes[k]? := by
  let Inv (u : Panel V) : Prop :=
    u = { s with routes := u.routes, calls := u.calls } ∧ u.routes.length = s.routes.length
  let Post (k : Nat) (old new : Option (RouteSnapshot V)) : Prop :=
    ∀ r b, old = some r → s.bindings[k]? = some b →
      ∃ r', new = some r' ∧ Reread curve s.hw h.mixer.unit b r r'
  have hstep : ∀ p ∈ changed, ∀ u, Inv u → Runs (do
        let route ← routeAt p
        if route.active then refresh io curve p else pure ()) u fun _ t => Inv t ∧
      (∀ k, id k = p → Post k u.routes[k]? t.routes[k]?) ∧
      ∀ k, id k ≠ p → t.routes[k]? = u.routes[k]? := by
    rintro p hp u ⟨hu, hlength⟩
    have hin : p < u.routes.length := hlength ▸ hlt p hp
    obtain ⟨r, hr⟩ : ∃ r, u.routes[p]? = some r := ⟨_, List.getElem?_eq_getElem hin⟩
    obtain ⟨b, hb⟩ := exists_getElem?_of_length hs.bindings (k := p)
      (List.getElem?_eq_getElem (hlt p hp))
    obtain ⟨hmixer, hsource⟩ := howned p hp b hb
    have hat : u.At p r b h := by
      refine ⟨hr, ?_, ?_⟩ <;> rw [hu]
      · exact hb
      · rw [hmixer]; exact hm
    refine index_runs hr (.ite (fun _ => ?_) fun _ => ?_)
    · refine (refresh_runs hat).mono ?_
      rintro _ t ⟨r', b', n, hres, hread, rfl⟩
      -- a source route keeps its controls
      cases hres.fixed ((hs.bound b (List.mem_of_getElem? hb)).selectable hsource)
      rw [set_eq_self hat.binding]
      refine ⟨⟨by rw [hu], List.length_set.trans hlength⟩, ?_, fun k hk => ?_⟩
      · rintro k rfl q c hq hc
        cases Option.some.inj (hr.symm.trans hq)
        cases Option.some.inj (hb.symm.trans hc)
        refine ⟨r', getElem?_set_of hr, ?_⟩
        rw [hu] at hread
        exact hread
      · exact List.getElem?_set_ne (Ne.symm hk)
    · refine .pure ⟨⟨hu, hlength⟩, fun k _ q c hq _ => ⟨q, hq, .refl q⟩, fun _ _ => rfl⟩
  refine (Runs.visit hnodup hstep s ⟨rfl, rfl⟩).mono ?_
  rintro _ t ⟨⟨ht, hlength⟩, hin, hout⟩
  refine ⟨ht, hlength, fun k r b hr hb => ?_, hout⟩
  by_cases hk : k ∈ changed
  · exact hin k hk r b hr hb
  · exact ⟨r, (hout k hk).trans hr, .refl r⟩

theorem syncSource_runs (hs : s.Indexed curve) (hm : s.mixers[m]? = some h) :
    Runs (syncSource io curve m) s fun changed t =>
      SyncedPanel curve io m h s (changed.getD []) t := by
  unfold syncSource
  refine .get (.ite (fun hany => ?_) fun hnone => ?_)
  · refine index_runs hm ((Mixer.readInt_reads soundMixerRecsrc).bind fun recsrc n hread => ?_)
    cases recsrc with
    | none =>
      refine .pure (.same n fun v hv => ?_)
      rw [← hread] at hv
      cases hv
    | some recsrc =>
      dsimp only
      generalize hselected : selectedRecordingSources h.mixer.recmask recsrc = selected
      obtain ⟨hlength, hsorted, hrange, hcell⟩ :=
        syncSourceRoutes_spec m selected s.routes s.bindings 0
      generalize syncSourceRoutes m selected 0 s.routes s.bindings = synced at *
      simp only [Nat.zero_add] at hrange hcell
      have hnodup : synced.2.Nodup := hsorted.imp Nat.ne_of_lt
      have hlt : ∀ p ∈ synced.2, p < s.routes.length := by
        intro p hp
        obtain ⟨_, rfl, hk⟩ := hrange p hp
        exact hk
      have howned : ∀ p ∈ synced.2, ∀ b, s.bindings[p]? = some b →
          b.mixer = m ∧ b.source.isSome := by
        intro p hp b hb
        obtain ⟨r, hr⟩ : ∃ r, s.routes[p]? = some r := ⟨_, List.getElem?_eq_getElem (hlt p hp)⟩
        exact owned_of_syncRoute (((hcell p r b hr hb).2).mp hp)
      refine .modify ?_
      have hkept : s.Kept curve { s with routes := synced.1, calls := n } := by
        refine ⟨rfl, hlength, rfl, fun k b b' hb hb' => ?_, fun k r q hr hq => ?_⟩
        · cases Option.some.inj (hb.symm.trans hb')
          exact .refl b
        · obtain ⟨b, hb⟩ := exists_getElem?_of_length hs.bindings hr
          cases Option.some.inj ((hcell k r b hr hb).1.symm.trans hq)
          exact syncRoute_restated
      refine .bind_of (refreshChanged_runs (h := h) (m := m) (hkept.indexed hs) hm hnodup
        (fun p hp => hlength.symm ▸ hlt p hp) howned) ?_
      rintro _ t ⟨ht, hlen, hreread, hout⟩
      refine .pure ⟨ht, hlen.trans hlength, hnodup, hlt, fun k r b hr hb => ?_, ?_⟩
      · obtain ⟨hget, hiff⟩ := hcell k r b hr hb
        obtain ⟨r', hr', hreread⟩ := hreread k _ b hget hb
        have hactive : r'.active = (syncRoute m selected b r).active := by rw [hreread.eq]
        have hbefore : { r with active := r'.active } = syncRoute m selected b r := by
          rw [hactive, ← syncRoute_eq]
        refine ⟨r', hr', ⟨hactive ▸ hiff, fun hk => ?_, fun hk => ?_, hbefore ▸ hreread⟩⟩
        · have hsame : r' = syncRoute m selected b r :=
            Option.some.inj ((hr'.symm.trans (hout k hk)).trans hget)
          have hnot : (syncRoute m selected b r).active = r.active :=
            Classical.not_not.mp (mt hiff.mpr hk)
          rw [hsame, syncRoute_eq, hnot]
        · exact owned_of_syncRoute (hiff.mp hk)
      · intro v hv k r' b hr' hb hmixer source hsource
        cases Option.some.inj (hread.trans hv)
        obtain ⟨r, hr⟩ := exists_getElem?_of_length hs.bindings.symm hb
        obtain ⟨hget, -⟩ := hcell k r b hr hb
        obtain ⟨q, hq, hreread⟩ := hreread k _ b hget hb
        cases Option.some.inj (hr'.symm.trans hq)
        have hactive : r'.active = (syncRoute m selected b r).active := by rw [hreread.eq]
        rw [hactive, syncRoute_active hsource hmixer, hselected]
  · refine .pure (.same s.calls fun _ _ b hb hmixer => ?_)
    have hnot : ¬ b.source.isSome = true := fun hsome =>
      hnone (List.any_eq_true.mpr ⟨b, hb, by simp [hmixer, hsome]⟩)
    exact Option.not_isSome_iff_eq_none.mp hnot

theorem SyncedPanel.kept {changed : List Nat} {t : Panel V} (hs : s.Indexed curve)
    (ht : SyncedPanel curve io m h s changed t) : s.Kept curve t where
  mixers := by rw [ht.eq]
  routes := ht.length
  bindings := by rw [ht.eq]
  binding := fun k b b' hb hb' => by
    rw [ht.eq] at hb'
    cases Option.some.inj (hb.symm.trans hb')
    exact .refl b
  route := fun k r r' hr hr' => by
    obtain ⟨b, hb⟩ := exists_getElem?_of_length hs.bindings hr
    obtain ⟨q, hq, hsynced⟩ := ht.route k r b hr hb
    cases Option.some.inj (hr'.symm.trans hq)
    have hactive : r.Restated curve { r with active := r'.active } := ⟨rfl, id⟩
    exact hactive.trans hsynced.read.restated

/-- Noting a counter leaves the panel's shape. -/
theorem setCounter_runs (curve : Curve V) (hm : s.mixers[m]? = some h) (counter : Int) :
    Runs (setCounter m counter) s fun _ t =>
      t = { s with mixers := s.mixers.set m { h with counter } } ∧ s.Kept curve t := by
  refine index_runs hm (.of_eq rfl ⟨rfl, ?_⟩)
  have hmap : (s.mixers.set m { h with counter }).map (·.mixer) = s.mixers.map (·.mixer) := by
    rw [List.map_set]
    exact set_eq_self (by rw [List.getElem?_map, hm, Option.map_some])
  exact .of_eq hmap rfl rfl

end

end PwOss.Oss
