import PwOss.Lib.Lists
import PwOss.Lib.Paging

/-
  Param enumeration: `enum_params_loop` of `spa/params.rs`, which nodes, ports and
  devices share.

  A call walks the indices from `start`, builds a pod at each, and emits those that
  the host's filter accepts until `max` are emitted or the builder stops. The state
  may change between two steps, because a result listener may re-enter. The results
  below are about a state that does not change: then a call finds the first `max`
  entries of the `listing` from `start` (`enumParamsLoop_eq`), and a listing can be
  resumed after each of its entries.

  Correspondence (Rust ↔ Lean):
    `ParamStep`                       ↔ `ParamStep`
    `enum_params_loop`                ↔ `enumParamsLoop`
    `spa_result_node_params`, `spa_result_device_params` ↔ `ParamResult`
  The loop takes fuel, one unit for each step.
-/

namespace PwOss.Spa

open PwOss.Lists PwOss.Paging

variable {S P Q : Type}

/-- `ParamStep`. -/
inductive ParamStep (P : Type) where
  | built (pod : P)
  | skip
  | stop (res : Int)
  deriving DecidableEq, Repr

/-- A result, as it is emitted for the id that was asked for. -/
structure ParamResult (Q : Type) where
  index : UInt32
  next : UInt32
  param : Q
  deriving DecidableEq, Repr

/-- The result that is emitted for a param at `index`. -/
def paramResult (index : UInt32) (param : Q) : ParamResult Q := ⟨index, index + 1, param⟩

/-- `enum_params_loop`: its return value, the results it emits, and the state. -/
def enumParamsLoop (build : S → UInt32 → ParamStep P) (filter : P → Option Q)
    (listen : S → ParamResult Q → S) (max : UInt32) :
    Nat → UInt32 → UInt32 → S → Option (Int × List (ParamResult Q) × S)
  | 0, _, _, _ => none
  | fuel + 1, index, count, state =>
    if count < max then
      match build state index with
      | .skip => enumParamsLoop build filter listen max fuel (index + 1) count state
      | .stop res => some (res, [], state)
      | .built pod =>
        match filter pod with
        | none => enumParamsLoop build filter listen max fuel (index + 1) count state
        | some param =>
          let result := paramResult index param
          (enumParamsLoop build filter listen max fuel (index + 1) (count + 1)
            (listen state result)).map fun r => (r.1, result :: r.2.1, r.2.2)
    else some (0, [], state)

/-! ## Listings -/

section
variable (build : UInt32 → ParamStep P) (filter : P → Option Q)

/-- The accepted entries of the first `n` indices from `index`, up to a stop. -/
def scan : Nat → UInt32 → List (ParamResult Q)
  | 0, _ => []
  | n + 1, index =>
    match build index with
    | .stop _ => []
    | .skip => scan n (index + 1)
    | .built pod => ((filter pod).map (paramResult index)).toList ++ scan n (index + 1)

/-- The accepted entries from `index` on, up to a stop. -/
def listing (index : UInt32) : List (ParamResult Q) :=
  scan build filter (2 ^ 32 - index.toNat) index

/-- The builder stops at `last`, so a walk from `index` gets no further. -/
structure StopsBy (last index : UInt32) : Prop where
  le : index.toNat ≤ last.toNat
  stop : ∃ res, build last = .stop res

end

section
variable {build : UInt32 → ParamStep P} {filter : P → Option Q} {last index : UInt32}

theorem toNat_succ {i : UInt32} (h : i.toNat < last.toNat) : (i + 1).toNat = i.toNat + 1 := by
  have hlast := last.toNat_lt
  rw [UInt32.toNat_add]
  exact Nat.mod_eq_of_lt (by show i.toNat + 1 < 2 ^ 32; omega)

/-- Where the builder does not stop, the walk goes on. -/
theorem StopsBy.succ (h : StopsBy build last index) (hgo : ∀ res, build index ≠ .stop res) :
    index.toNat < last.toNat ∧ StopsBy build last (index + 1) := by
  obtain ⟨res, hres⟩ := h.stop
  have hne : index ≠ last := fun heq => hgo res (heq ▸ hres)
  have hlt : index.toNat < last.toNat :=
    Nat.lt_of_le_of_ne h.le fun heq => hne (UInt32.toNat_inj.mp heq)
  exact ⟨hlt, by rw [toNat_succ hlt]; omega, h.stop⟩

theorem listing_stop {res : Int} (h : build index = .stop res) :
    listing build filter index = [] := by
  unfold listing
  cases 2 ^ 32 - index.toNat with
  | zero => rfl
  | succ n => rw [scan, h]

theorem listing_eq (hlt : index.toNat < last.toNat) :
    listing build filter index =
      match build index with
      | .stop _ => []
      | .skip => listing build filter (index + 1)
      | .built pod =>
        ((filter pod).map (paramResult index)).toList ++ listing build filter (index + 1) := by
  have hlast := last.toNat_lt
  have hfuel : 2 ^ 32 - index.toNat = (2 ^ 32 - (index + 1).toNat) + 1 := by
    rw [toNat_succ hlt]
    omega
  unfold listing
  rw [hfuel, scan]

/-- An induction along a walk: a stop, a step that finds nothing, and one that finds an
entry. -/
theorem StopsBy.walk {motive : UInt32 → List (ParamResult Q) → Prop}
    (hstop : ∀ i res, build i = .stop res → motive i [])
    (hgap : ∀ i, StopsBy build last i → i.toNat < last.toNat →
      motive (i + 1) (listing build filter (i + 1)) → motive i (listing build filter (i + 1)))
    (hitem : ∀ i pod param, StopsBy build last i → i.toNat < last.toNat →
      build i = .built pod → filter pod = some param →
      motive (i + 1) (listing build filter (i + 1)) →
      motive i (paramResult i param :: listing build filter (i + 1))) :
    ∀ i, StopsBy build last i → motive i (listing build filter i) := by
  have hwalk : ∀ n i, last.toNat - i.toNat = n → StopsBy build last i →
      motive i (listing build filter i) := by
    intro n
    induction n with
    | zero =>
      intro i hn hi
      obtain ⟨res, hres⟩ := hi.stop
      have heq : i = last := UInt32.toNat_inj.mp (Nat.le_antisymm hi.le (by omega))
      have hstopped : build i = .stop res := heq ▸ hres
      rw [listing_stop hstopped]
      exact hstop i res hstopped
    | succ n ih =>
      intro i hn hi
      have hlt : i.toNat < last.toNat := by omega
      have hnext : last.toNat - (i + 1).toNat = n := by rw [toNat_succ hlt]; omega
      have hrest : StopsBy build last (i + 1) := ⟨by rw [toNat_succ hlt]; omega, hi.stop⟩
      have hih := ih (i + 1) hnext hrest
      rw [listing_eq hlt]
      cases hbuild : build i with
      | stop res => exact hstop i res hbuild
      | skip => exact hgap i hi hlt hih
      | built pod =>
        show motive i (((filter pod).map (paramResult i)).toList ++ listing build filter (i + 1))
        cases hfilter : filter pod with
        | none => exact hgap i hi hlt hih
        | some param => exact hitem i pod param hi hlt hbuild hfilter hih
  exact fun i hi => hwalk _ i rfl hi

/-- A listing has its entries from its start on, at increasing indices. -/
theorem listing_increasing (h : StopsBy build last index) :
    (listing build filter index).Pairwise (fun a b => a.index.toNat < b.index.toNat) ∧
      ∀ e ∈ listing build filter index, index.toNat ≤ e.index.toNat := by
  refine StopsBy.walk (motive := fun i l => l.Pairwise (fun a b => a.index.toNat < b.index.toNat) ∧
    ∀ e ∈ l, i.toNat ≤ e.index.toNat) ?_ ?_ ?_ index h
  · exact fun i res _ => ⟨.nil, fun e he => absurd he List.not_mem_nil⟩
  · rintro i - hlt ⟨hsorted, hfrom⟩
    refine ⟨hsorted, fun e he => ?_⟩
    have hle := hfrom e he
    rw [toNat_succ hlt] at hle
    omega
  · rintro i pod param - hlt - - ⟨hsorted, hfrom⟩
    have habove : ∀ e ∈ listing build filter (i + 1), i.toNat < e.index.toNat := fun e he => by
      have hle := hfrom e he
      rw [toNat_succ hlt] at hle
      omega
    refine ⟨List.pairwise_cons.mpr ⟨habove, hsorted⟩, fun e he => ?_⟩
    rcases List.mem_cons.mp he with rfl | he
    · exact Nat.le_refl _
    · exact Nat.le_of_lt (habove e he)

/-- A listing has no more entries than there are indices before the stop. -/
theorem listing_length (filter : P → Option Q) (h : StopsBy build last index) :
    (listing build filter index).length ≤ last.toNat - index.toNat := by
  refine StopsBy.walk (motive := fun i l => l.length ≤ last.toNat - i.toNat) ?_ ?_ ?_ index h
  · exact fun _ _ _ => Nat.zero_le _
  · intro i _ hlt hle
    rw [toNat_succ hlt] at hle
    omega
  · intro i _ _ _ hlt _ _ hle
    rw [toNat_succ hlt] at hle
    rw [List.length_cons]
    omega

/-- A builder that builds nothing lists nothing. -/
theorem listing_nil (h : StopsBy build last index) (hnone : ∀ i pod, build i ≠ .built pod) :
    listing build filter index = [] := by
  refine StopsBy.walk (motive := fun _ l => l = []) (fun _ _ _ => rfl) (fun _ _ _ hnil => hnil) ?_
    index h
  exact fun i pod _ _ _ hbuild => absurd hbuild (hnone i pod)

/-- What follows an entry is the listing from its cursor. -/
theorem listing_resume (h : StopsBy build last index) {xs ys : List (ParamResult Q)}
    {b : ParamResult Q} (hsplit : listing build filter index = xs ++ b :: ys) :
    StopsBy build last b.next ∧ listing build filter b.next = ys := by
  refine StopsBy.walk (motive := fun _ l => ∀ xs, l = xs ++ b :: ys →
    StopsBy build last b.next ∧ listing build filter b.next = ys) ?_ ?_ ?_ index h xs hsplit
  · intro i res _ xs hnil
    exact absurd hnil.symm (by simp)
  · exact fun i _ _ ih xs hxs => ih xs hxs
  · intro i pod param hi hlt hbuild _ ih xs hxs
    cases xs with
    | nil =>
      obtain ⟨rfl, rfl⟩ := List.cons.inj hxs
      exact ⟨(hi.succ fun res hres => by rw [hbuild] at hres; cases hres).2, rfl⟩
    | cons x xs => exact ih xs (List.cons.inj hxs).2

/-- With a state that does not change, a call ends, and emits the first `max - count`
entries from its index. -/
theorem enumParamsLoop_eq (filter : P → Option Q) {build : S → UInt32 → ParamStep P} {state : S}
    (h : StopsBy (build state) last index) {max count : UInt32} {fuel : Nat}
    (hcount : count ≤ max) (hfuel : last.toNat - index.toNat < fuel) :
    ∃ res, enumParamsLoop build filter (fun s _ => s) max fuel index count state =
      some (res, (listing (build state) filter index).take (max.toNat - count.toNat), state) := by
  induction fuel generalizing index count with
  | zero => omega
  | succ fuel ih =>
    rw [enumParamsLoop]
    have hgo : (∀ res, build state index ≠ .stop res) → index.toNat < last.toNat ∧
        StopsBy (build state) last (index + 1) ∧ last.toNat - (index + 1).toNat < fuel := by
      intro hne
      obtain ⟨hlt, hnext⟩ := h.succ hne
      exact ⟨hlt, hnext, by rw [toNat_succ hlt]; omega⟩
    refine if hlt : count < max then ?_ else ?_
    · rw [if_pos hlt]
      cases hbuild : build state index with
      | stop res => exact ⟨res, by rw [listing_stop hbuild, List.take_nil]⟩
      | skip =>
        obtain ⟨hlast, hnext, hless⟩ := hgo (by simp [hbuild])
        obtain ⟨res, heq⟩ := ih hnext hcount hless
        refine ⟨res, ?_⟩
        rw [listing_eq hlast, hbuild]
        exact heq
      | built pod =>
        obtain ⟨hlast, hnext, hless⟩ := hgo (by simp [hbuild])
        rw [listing_eq hlast, hbuild]
        dsimp only
        cases hfilter : filter pod with
        | none => exact ih hnext hcount hless
        | some param =>
          have hless' : count.toNat < max.toNat := UInt32.lt_iff_toNat_lt.mp hlt
          have hsucc := toNat_succ hless'
          have hcount' : count + 1 ≤ max := UInt32.le_iff_toNat_le.mpr (by omega)
          obtain ⟨res, heq⟩ := ih hnext hcount' hless
          refine ⟨res, ?_⟩
          have hroom : max.toNat - count.toNat = (max.toNat - (count + 1).toNat) + 1 := by omega
          simp only [heq, Option.map_some, Option.toList_some, List.singleton_append, hroom,
            List.take_succ_cons]
    · have hzero : max.toNat - count.toNat = 0 := by
        have hge : ¬ count.toNat < max.toNat := fun hlt' => hlt (UInt32.lt_iff_toNat_lt.mpr hlt')
        omega
      rw [if_neg hlt, hzero, List.take_zero]
      exact ⟨0, rfl⟩

/-- The listings of a builder that stops at `last`, from any index up to there. -/
def listings (build : UInt32 → ParamStep P) (filter : P → Option Q) (last : UInt32) :
    Resumable UInt32 (ParamResult Q) where
  Valid := StopsBy build last
  rest := listing build filter
  next := ParamResult.next
  resume := fun h hsplit => listing_resume h hsplit

end

/-! ## Finite runs -/

section
variable {A : Type}

/-- A builder that is a finite run of built and skipped steps followed by a stop: `pod`
is what each step of `run` builds, if anything. -/
structure FiniteRun (build : UInt32 → ParamStep P) (run : List A) (pod : A → Nat → Option P) :
    Prop where
  length_lt : run.length < 2 ^ 32
  step : ∀ (i : Nat) (h : i < run.length),
    build (UInt32.ofNat i) = ((pod run[i] i).map ParamStep.built).getD .skip
  stop : ∃ res, build (UInt32.ofNat run.length) = .stop res

/-- The pods of a run from index `i` on, with their indices. -/
def builtFrom (pod : A → Nat → Option P) (run : List A) (i : Nat) : List (UInt32 × P) :=
  (run.zipIdx i).filterMap fun a => (pod a.1 a.2).map fun p => (UInt32.ofNat a.2, p)

/-- The results for those pods that the filter accepts. -/
def accepted (filter : P → Option Q) (built : List (UInt32 × P)) : List (ParamResult Q) :=
  built.filterMap fun b => (filter b.2).map (paramResult b.1)

variable {build : UInt32 → ParamStep P} {filter : P → Option Q} {run : List A}
  {pod : A → Nat → Option P}

theorem FiniteRun.stopsBy (h : FiniteRun build run pod) {start : UInt32}
    (hstart : start.toNat ≤ run.length) :
    StopsBy build (UInt32.ofNat run.length) start := by
  refine ⟨?_, h.stop⟩
  rw [UInt32.toNat_ofNat_of_lt' h.length_lt]
  exact hstart

/-- The listing of a run is what the filter accepts of it. -/
theorem FiniteRun.listing_eq (filter : P → Option Q) (h : FiniteRun build run pod) :
    ∀ n i, i + n = run.length →
      listing build filter (UInt32.ofNat i) = accepted filter (builtFrom pod (run.drop i) i) := by
  intro n
  induction n with
  | zero =>
    intro i hi
    obtain ⟨res, hres⟩ := h.stop
    have heq : i = run.length := hi
    rw [heq, listing_stop hres, List.drop_length]
    rfl
  | succ n ih =>
    intro i hi
    have hlt : i < run.length := by omega
    have hlength := h.length_lt
    have htoNat : (UInt32.ofNat i).toNat = i :=
      UInt32.toNat_ofNat_of_lt' (Nat.lt_trans hlt hlength)
    have hlast : (UInt32.ofNat run.length).toNat = run.length := UInt32.toNat_ofNat_of_lt' hlength
    have hnext : UInt32.ofNat i + 1 = UInt32.ofNat (i + 1) := by
      rw [UInt32.ofNat_add]
      rfl
    have hstep := h.step i hlt
    have htail : builtFrom pod (run.drop i) i =
        ((pod run[i] i).map fun p => (UInt32.ofNat i, p)).toList ++
          builtFrom pod (run.drop (i + 1)) (i + 1) := by
      rw [List.drop_eq_getElem_cons hlt]
      unfold builtFrom
      rw [List.zipIdx_cons]
      exact filterMap_cons_toList ..
    have hbefore : (UInt32.ofNat i).toNat < (UInt32.ofNat run.length).toNat := by omega
    rw [Spa.listing_eq hbefore, hnext, ih (i + 1) (by omega),
      htail, hstep]
    cases pod run[i] i with
    | none => rfl
    | some p =>
      show ((filter p).map (paramResult (UInt32.ofNat i))).toList ++ _ =
        accepted filter ((UInt32.ofNat i, p) :: builtFrom pod (run.drop (i + 1)) (i + 1))
      unfold accepted
      rw [filterMap_cons_toList]

end

/-! ## Pages -/

/-- The calls of an enumeration end, from each index in `Start`. Together they find
`entries`, page by page of any size as well as all at once, each entry once. -/
structure Enumerates (call : UInt32 → UInt32 → Option (List (ParamResult Q)))
    (Start : UInt32 → Prop) (entries : List (ParamResult Q)) : Prop where
  ends : ∀ max start, Start start → (call max start).isSome
  whole : call (UInt32.ofNat (2 ^ 32 - 1)) 0 = some entries
  paged : ∀ max, 0 < max → ∀ turns, entries.length < turns →
    pages ParamResult.next (call max) turns 0 = some entries
  once : entries.Pairwise fun a b => a.index.toNat < b.index.toNat

/-- The loop enumerates the listing from index 0, once a stop lies ahead. -/
theorem enumerates_listing (build : S → UInt32 → ParamStep P) (filter : P → Option Q) (state : S)
    {last : UInt32} (h : StopsBy (build state) last 0) {fuel : Nat} (hfuel : last.toNat < fuel)
    {Start : UInt32 → Prop} (hstart : ∀ start, Start start → ∃ last,
      StopsBy (build state) last start ∧ last.toNat - start.toNat < fuel) :
    Enumerates (fun max start =>
        (enumParamsLoop build filter (fun s _ => s) max fuel start 0 state).map (·.2.1))
      Start (listing (build state) filter 0) := by
  have hcall : ∀ max start last, StopsBy (build state) last start →
      last.toNat - start.toNat < fuel →
      (enumParamsLoop build filter (fun s _ => s) max fuel start 0 state).map (·.2.1) =
        some ((listing (build state) filter start).take max.toNat) := by
    intro max start last hstop hless
    have hzero : (0 : UInt32) ≤ max := UInt32.le_iff_toNat_le.mpr (Nat.zero_le _)
    obtain ⟨res, heq⟩ := enumParamsLoop_eq filter hstop hzero hless
    rw [heq]
    rfl
  refine ⟨fun max start hs => ?_, ?_, fun max hmax turns hturns => ?_, (listing_increasing h).1⟩
  · obtain ⟨last, hstop, hless⟩ := hstart start hs
    rw [hcall max start last hstop hless]
    rfl
  · have hlength := listing_length filter h
    have hlast := last.toNat_lt
    have hmax : (UInt32.ofNat (2 ^ 32 - 1)).toNat = 2 ^ 32 - 1 := by decide
    rw [hcall _ 0 last h (by omega), hmax, List.take_of_length_le (by omega)]
  · refine (listings (build state) filter last).pages_eq (UInt32.lt_iff_toNat_lt.mp hmax) ?_ turns 0
      h hturns
    intro i hi
    exact hcall max i last hi (by omega)

end PwOss.Spa
