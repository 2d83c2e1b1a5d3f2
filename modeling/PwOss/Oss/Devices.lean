import PwOss.Lib.Lists
import PwOss.Lib.OrdMap
import PwOss.Lib.Transition
import PwOss.Backend.Playback
import PwOss.Sys.Errno

/-
  The device catalog of `freebsd_oss/devices.rs`: PCM units grouped by the card
  that owns them, and the changes that a rescan emits.

  A rescan first retracts the groups that a detach notice names, then reads
  sndstat and retracts and announces what differs. A listener that starts from the
  catalog's snapshots applies the changes in order. It refuses to add an id that it
  holds and to remove one that it does not, and still it holds the catalog's
  snapshots after every rescan.

  Correspondence (Rust ↔ Lean):
    `DeviceCatalog.groups`            ↔ `Groups`
    `group_snapshot`, `snapshots`     ↔ `groupSnapshot`, `snapshots`
    `rescan_with`, its detach loop    ↔ `rescanWith`, `detachGroup`
    `CatalogChange`, `CatalogRescan`  ↔ the same names
  A read error is kept as its errno; its text is the C library's.
-/

namespace PwOss.Oss

open PwOss.Backend PwOss.Lists PwOss.OrdMap PwOss.Sys PwOss.Transition

/-! ## Groups -/

/-- The PCM units of each card, by its name. -/
abbrev Groups := OrdMap String (List Nat)

/-- `CatalogGroupSnapshot`. -/
structure CatalogGroupSnapshot where
  key : String
  objectId : Nat
  properties : List (String × String)
  deriving DecidableEq, Repr

/-- `CatalogChange`. -/
inductive CatalogChange where
  | added (snapshot : CatalogGroupSnapshot) (diagnostic : String)
  | removed (objectId : Nat) (diagnostic : String)
  deriving DecidableEq, Repr

/-- `CatalogRescan`. -/
structure CatalogRescan where
  changes : List CatalogChange
  error : Option Errno

/-- `DEVICE_API`. -/
def deviceApi : String := "freebsd-oss"

/-- `PARENT_DEVICE`. -/
def parentDevice : String := "api.freebsd-oss.pcm-parent"

/-- `DEVICE_INDEXES`. -/
def deviceIndexes : String := "api.freebsd-oss.pcm-devices"

/-- `DeviceKey::qualified`. -/
def deviceKey (backend value : String) : String := backend ++ ":" ++ value

/-- `group_snapshot`: the first unit is the group's object id. -/
def groupSnapshot (key : String) (indexes : List Nat) : Option CatalogGroupSnapshot :=
  indexes.head?.map fun objectId =>
    { key := deviceKey deviceApi key
      objectId
      properties := [(parentDevice, key), (deviceIndexes, ",".intercalate (indexes.map toString))] }

/-- `snapshots`. -/
def snapshots (groups : Groups) : List CatalogGroupSnapshot :=
  groups.entries.filterMap fun e => groupSnapshot e.1 e.2

/-! ## Rescans -/

/-- `u32::from_str`. -/
def parseU32 (text : List Char) : Option Nat :=
  let digits : List Char :=
    match text with
    | '+' :: rest => rest
    | _ => text
  let value := digits.foldl (fun value c => value * 10 + (c.toNat - '0'.toNat)) 0
  if digits ≠ [] ∧ digits.all Char.isDigit = true ∧ value ≤ u32Max then some value else none

/-- The unit of a subject `pcmN`. -/
def pcmUnit (subject : String) : Option Nat :=
  match subject.toList with
  | 'p' :: 'c' :: 'm' :: unit => parseU32 unit
  | _ => none

/-- The group that a detach subject names: the one with its unit, or the one with
its name. -/
def detachKey (groups : Groups) (subject : String) : Option String :=
  match pcmUnit subject with
  | some unit => (groups.entries.find? fun e => e.2.contains unit).map (·.1)
  | none => if (groups.get subject).isSome then some subject else none

/-- The text of a group in a diagnostic. -/
def groupText (key : String) (indexes : List Nat) : String := key ++ " (" ++ toString indexes ++ ")"

/-- The retraction of a group, if it has an id. -/
def retraction (key : String) (indexes : List Nat) (note : String) : Option CatalogChange :=
  indexes.head?.map fun objectId => .removed objectId (groupText key indexes ++ note)

/-- The announcement of a group, if it has an id. -/
def announcement (key : String) (indexes : List Nat) : Option CatalogChange :=
  (groupSnapshot key indexes).map fun snapshot => .added snapshot (groupText key indexes)

/-- One subject of the detach loop: the groups left, and what is emitted. -/
def detachGroup (groups : Groups) (subject : String) : Groups × List CatalogChange :=
  match detachKey groups subject with
  | none => (groups, [])
  | some key =>
    match groups.get key with
    | none => (groups, [])
    | some indexes => (groups.erase key, (retraction key indexes " on detach").toList)

/-- The detach loop. -/
def detachGroups : Groups → List String → Groups × List CatalogChange
  | groups, [] => (groups, [])
  | groups, subject :: rest =>
    let first := detachGroup groups subject
    let last := detachGroups first.1 rest
    (last.1, first.2 ++ last.2)

/-- The groups of `old` that `new` does not have as they are. -/
def changed (old new : Groups) : List (String × List Nat) :=
  old.entries.filter fun e => new.get e.1 ≠ some e.2

/-- `rescan_with`. -/
def rescanWith (groups : Groups) (detached : List String) (read : Except Errno Groups) :
    Groups × CatalogRescan :=
  let kept := detachGroups groups detached
  match read with
  | .error error => (kept.1, ⟨kept.2, some error⟩)
  | .ok new =>
    let removed := (changed kept.1 new).filterMap fun e => retraction e.1 e.2 ""
    let added := (changed new kept.1).filterMap fun e => announcement e.1 e.2
    (new, ⟨kept.2 ++ removed ++ added, none⟩)

/-! ## Listeners -/

/-- The snapshots that a listener holds, by object id. -/
abbrev Listener := Nat → Option CatalogGroupSnapshot

namespace Listener

/-- One change. `none`: it adds an id that is held, or removes one that is not. -/
def apply (l : Listener) : CatalogChange → Option Listener
  | .added snapshot _ =>
    match l snapshot.objectId with
    | none => some fun id => if id = snapshot.objectId then some snapshot else l id
    | some _ => none
  | .removed objectId _ =>
    match l objectId with
    | none => none
    | some _ => some fun id => if id = objectId then none else l id

/-- Changes in order. -/
def replay : Listener → List CatalogChange → Option Listener
  | l, [] => some l
  | l, change :: rest => (l.apply change).bind fun l => l.replay rest

/-- The listener that was told of `snapshots` only. -/
def of (snapshots : List CatalogGroupSnapshot) : Listener := fun id =>
  snapshots.find? (·.objectId = id)

/-- The listener holds exactly `snapshots`, each under its object id. -/
def Holds (l : Listener) (snapshots : List CatalogGroupSnapshot) : Prop :=
  ∀ id snapshot, l id = some snapshot ↔ snapshot ∈ snapshots ∧ snapshot.objectId = id

end Listener

/-! ## Well-formed catalogs -/

/-- Every group has units, and no two groups share one. -/
structure WellFormed (groups : Groups) : Prop where
  nonempty : ∀ e ∈ groups.entries, e.2 ≠ []
  disjoint : ∀ e ∈ groups.entries, ∀ e' ∈ groups.entries, ∀ unit ∈ e.2, unit ∈ e'.2 → e = e'

theorem WellFormed.erase {groups : Groups} (h : WellFormed groups) (key : String) :
    WellFormed (groups.erase key) where
  nonempty e he := h.nonempty e (OrdMap.mem_erase.mp he).1
  disjoint e he e' he' :=
    h.disjoint e (OrdMap.mem_erase.mp he).1 e' (OrdMap.mem_erase.mp he').1

/-- The groups' object ids tell them apart. -/
theorem WellFormed.head_inj {groups : Groups} (h : WellFormed groups) {e e' : String × List Nat}
    (he : e ∈ groups.entries) (he' : e' ∈ groups.entries) {id : Nat} (hid : e.2.head? = some id)
    (hid' : e'.2.head? = some id) : e = e' :=
  h.disjoint e he e' he' id (List.mem_of_mem_head? hid) (List.mem_of_mem_head? hid')

theorem mem_snapshots {groups : Groups} {snapshot : CatalogGroupSnapshot} :
    snapshot ∈ snapshots groups ↔
      ∃ e ∈ groups.entries, groupSnapshot e.1 e.2 = some snapshot := by
  simp only [snapshots, List.mem_filterMap]

theorem groupSnapshot_id {key : String} {indexes : List Nat} {snapshot : CatalogGroupSnapshot}
    (h : groupSnapshot key indexes = some snapshot) : indexes.head? = some snapshot.objectId := by
  obtain ⟨id, hid, rfl⟩ := Option.map_eq_some_iff.mp h
  exact hid

/-! ## Replaying a rescan -/

namespace Listener
variable {l : Listener}

theorem replay_append : ∀ (xs ys : List CatalogChange) (l : Listener),
    l.replay (xs ++ ys) = (l.replay xs).bind fun l => l.replay ys
  | [], _, _ => rfl
  | x :: xs, ys, l => by
    simp only [List.cons_append, replay]
    cases l.apply x with
    | none => rfl
    | some l' => exact replay_append xs ys l'

/-- The listener holds the snapshots of the groups in `P`. -/
def Reflects (l : Listener) (P : String × List Nat → Prop) : Prop :=
  ∀ id snapshot, l id = some snapshot ↔
    ∃ e, P e ∧ groupSnapshot e.1 e.2 = some snapshot ∧ snapshot.objectId = id

theorem reflects_congr {P Q : String × List Nat → Prop} (h : l.Reflects P) (hPQ : ∀ e, P e ↔ Q e) :
    l.Reflects Q := by
  intro id snapshot
  rw [h id snapshot]
  simp only [hPQ]

theorem holds_of_reflects {groups : Groups} (h : l.Reflects (· ∈ groups.entries)) :
    l.Holds (snapshots groups) := by
  intro id snapshot
  rw [h id snapshot, mem_snapshots]
  constructor
  · rintro ⟨e, he, hs, hid⟩
    exact ⟨⟨e, he, hs⟩, hid⟩
  · rintro ⟨⟨e, he, hs⟩, hid⟩
    exact ⟨e, he, hs, hid⟩

/-- The groups of `P` have units, and their object ids tell them apart. -/
structure Distinct (P : String × List Nat → Prop) : Prop where
  nonempty : ∀ e, P e → e.2 ≠ []
  head_inj : ∀ e e', P e → P e' → e.2.head? = e'.2.head? → e = e'

theorem Distinct.mono {P Q : String × List Nat → Prop} (h : Distinct P) (hQP : ∀ e, Q e → P e) :
    Distinct Q :=
  ⟨fun e he => h.nonempty e (hQP e he),
    fun e e' he he' => h.head_inj e e' (hQP e he) (hQP e' he')⟩

theorem head?_of_ne_nil {indexes : List Nat} (h : indexes ≠ []) :
    ∃ id, indexes.head? = some id := by
  cases indexes with
  | nil => exact absurd rfl h
  | cons id rest => exact ⟨id, rfl⟩

theorem distinct_of_wellFormed {groups : Groups} (h : WellFormed groups) :
    Distinct (· ∈ groups.entries) := by
  refine ⟨h.nonempty, fun e e' he he' heq => ?_⟩
  obtain ⟨id, hid⟩ := head?_of_ne_nil (h.nonempty e he)
  exact h.head_inj he he' hid (heq ▸ hid)

variable {P : String × List Nat → Prop}

/-- The retraction of a group that is held. -/
theorem replay_retraction (h : l.Reflects P) (hd : Distinct P) {e : String × List Nat} (he : P e)
    (note : String) :
    ∃ l', l.replay (retraction e.1 e.2 note).toList = some l' ∧
      l'.Reflects fun e' => P e' ∧ e' ≠ e := by
  obtain ⟨id, hid⟩ := head?_of_ne_nil (hd.nonempty e he)
  have hsnap : groupSnapshot e.1 e.2 = some ⟨deviceKey deviceApi e.1, id,
      [(parentDevice, e.1), (deviceIndexes, ",".intercalate (e.2.map toString))]⟩ := by
    simp only [groupSnapshot, hid, Option.map_some]
  have hheld := (h id _).mpr ⟨e, he, hsnap, rfl⟩
  refine ⟨fun id' => if id' = id then none else l id', ?_, ?_⟩
  · simp only [retraction, hid, Option.map_some, Option.toList_some, replay, apply, hheld,
      Option.bind_some]
  · intro id' snapshot
    by_cases heq : id' = id
    · subst heq
      simp only [if_true, reduceCtorEq, false_iff, not_exists, not_and]
      rintro e' ⟨he', hne⟩ hs' hid'
      -- another group under the same id
      have hhead := groupSnapshot_id hs'
      rw [hid', ← hid] at hhead
      exact hne (hd.head_inj e' e he' he hhead)
    · simp only [if_neg heq]
      rw [h id' snapshot]
      constructor
      · rintro ⟨e', he', hs', hid'⟩
        refine ⟨e', ⟨he', ?_⟩, hs', hid'⟩
        rintro rfl
        rw [groupSnapshot_id hs', hid', Option.some.injEq] at hid
        exact heq hid
      · rintro ⟨e', ⟨he', -⟩, hs', hid'⟩
        exact ⟨e', he', hs', hid'⟩

/-- The announcement of a group whose id is not held. -/
theorem replay_announcement (h : l.Reflects P) {e : String × List Nat} (he : ¬ P e)
    (hd : Distinct fun e' => P e' ∨ e' = e) :
    ∃ l', l.replay (announcement e.1 e.2).toList = some l' ∧
      l'.Reflects fun e' => P e' ∨ e' = e := by
  obtain ⟨id, hid⟩ := head?_of_ne_nil (hd.nonempty e (.inr rfl))
  obtain ⟨snapshot, hsnap⟩ : ∃ snapshot, groupSnapshot e.1 e.2 = some snapshot :=
    ⟨_, by simp only [groupSnapshot, hid, Option.map_some]; rfl⟩
  have hfree : l snapshot.objectId = none := by
    cases hl : l snapshot.objectId with
    | none => rfl
    | some other =>
      obtain ⟨e', he', hs', hid'⟩ := (h _ _).mp hl
      have hhead : e'.2.head? = e.2.head? := by
        rw [groupSnapshot_id hs', groupSnapshot_id hsnap, hid']
      exact absurd (hd.head_inj e' e (.inl he') (.inr rfl) hhead ▸ he') he
  refine ⟨fun id' => if id' = snapshot.objectId then some snapshot else l id', ?_, ?_⟩
  · simp only [announcement, hsnap, Option.map_some, Option.toList_some, replay, apply, hfree,
      Option.bind_some]
  · intro id' other
    by_cases heq : id' = snapshot.objectId
    · subst heq
      simp only [if_true, Option.some.injEq]
      constructor
      · rintro rfl
        exact ⟨e, .inr rfl, hsnap, rfl⟩
      · rintro ⟨e', he', hs', hid'⟩
        have hhead : e'.2.head? = e.2.head? := by
          rw [groupSnapshot_id hs', groupSnapshot_id hsnap, hid']
        rw [hd.head_inj e' e he' (.inr rfl) hhead, hsnap] at hs'
        exact Option.some.inj hs'
    · simp only [if_neg heq]
      rw [h id' other]
      constructor
      · rintro ⟨e', he', hs', hid'⟩
        exact ⟨e', .inl he', hs', hid'⟩
      · rintro ⟨e', he', hs', hid'⟩
        rcases he' with he' | rfl
        · exact ⟨e', he', hs', hid'⟩
        · rw [hsnap] at hs'
          cases hs'
          exact absurd hid'.symm heq

/-- The retraction of groups that are all held. -/
theorem replay_retractions : ∀ {rs : List (String × List Nat)} {l : Listener}
    {P : String × List Nat → Prop}, l.Reflects P → Distinct P → rs.Nodup → (∀ e ∈ rs, P e) →
    ∃ l', l.replay (rs.filterMap fun e => retraction e.1 e.2 "") = some l' ∧
      l'.Reflects fun e => P e ∧ e ∉ rs
  | [], l, P, h, _, _, _ => ⟨l, rfl, reflects_congr h fun e => by simp⟩
  | e :: rs, l, P, h, hd, hn, hP => by
    obtain ⟨hhead, hrest⟩ := List.nodup_cons.mp hn
    obtain ⟨l₁, hl₁, h₁⟩ := replay_retraction h hd (hP e (List.mem_cons_self ..)) ""
    obtain ⟨l₂, hl₂, h₂⟩ := replay_retractions h₁ (hd.mono fun _ => And.left) hrest (by
      intro e' he'
      refine ⟨hP e' (List.mem_cons_of_mem _ he'), ?_⟩
      rintro rfl
      exact hhead he')
    refine ⟨l₂, ?_, reflects_congr h₂ fun e' => ?_⟩
    · rw [filterMap_cons_toList, replay_append, hl₁]
      exact hl₂
    · simp only [List.mem_cons, not_or, and_assoc]

/-- The announcement of groups that are not held, under ids of their own. -/
theorem replay_announcements : ∀ {as : List (String × List Nat)} {l : Listener}
    {P : String × List Nat → Prop}, l.Reflects P → Distinct (fun e => P e ∨ e ∈ as) → as.Nodup →
    (∀ e ∈ as, ¬ P e) →
    ∃ l', l.replay (as.filterMap fun e => announcement e.1 e.2) = some l' ∧
      l'.Reflects fun e => P e ∨ e ∈ as
  | [], l, P, h, _, _, _ => ⟨l, rfl, reflects_congr h fun e => by simp⟩
  | e :: as, l, P, h, hd, hn, hP => by
    obtain ⟨hhead, hrest⟩ := List.nodup_cons.mp hn
    have hone : ∀ e', P e' ∨ e' = e → P e' ∨ e' ∈ e :: as := by
      rintro e' (he' | rfl)
      · exact .inl he'
      · exact .inr (List.mem_cons_self ..)
    obtain ⟨l₁, hl₁, h₁⟩ :=
      replay_announcement h (hP e (List.mem_cons_self ..)) (hd.mono hone)
    obtain ⟨l₂, hl₂, h₂⟩ := replay_announcements h₁ (hd.mono fun e' he' => by
      rcases he' with he' | he'
      · exact hone e' he'
      · exact .inr (List.mem_cons_of_mem _ he')) hrest (by
      rintro e' he' (hp | rfl)
      · exact hP e' (List.mem_cons_of_mem _ he') hp
      · exact hhead he')
    refine ⟨l₂, ?_, reflects_congr h₂ fun e' => ?_⟩
    · rw [filterMap_cons_toList, replay_append, hl₁]
      exact hl₂
    · simp only [List.mem_cons, or_assoc]

/-- The detach loop keeps the listener at the groups that are left. -/
theorem replay_detachGroups : ∀ (detached : List String) {groups : Groups} {l : Listener},
    WellFormed groups → l.Reflects (· ∈ groups.entries) →
    WellFormed (detachGroups groups detached).1 ∧
      ∃ l', l.replay (detachGroups groups detached).2 = some l' ∧
        l'.Reflects (· ∈ (detachGroups groups detached).1.entries)
  | [], _, l, hw, h => ⟨hw, l, rfl, h⟩
  | subject :: rest, groups, l, hw, h => by
    -- one subject retracts a group that is held, or nothing
    have hone : WellFormed (detachGroup groups subject).1 ∧
        ∃ l', l.replay (detachGroup groups subject).2 = some l' ∧
          l'.Reflects (· ∈ (detachGroup groups subject).1.entries) := by
      unfold detachGroup
      split
      · exact ⟨hw, l, rfl, h⟩
      · next key _ =>
        split
        · exact ⟨hw, l, rfl, h⟩
        · next indexes hg =>
          have hmem := OrdMap.get_eq_some.mp hg
          obtain ⟨l₁, hl₁, h₁⟩ :=
            replay_retraction h (distinct_of_wellFormed hw) hmem " on detach"
          refine ⟨hw.erase key, l₁, hl₁, reflects_congr h₁ fun e => ?_⟩
          rw [OrdMap.mem_erase]
          constructor
          · rintro ⟨he, hne⟩
            refine ⟨he, ?_⟩
            rintro rfl
            exact hne (Prod.ext rfl (groups.val_unique he hmem))
          · rintro ⟨he, hne⟩
            refine ⟨he, ?_⟩
            rintro rfl
            exact hne rfl
    obtain ⟨hw₁, l₁, hl₁, h₁⟩ := hone
    obtain ⟨hw₂, l₂, hl₂, h₂⟩ := replay_detachGroups rest hw₁ h₁
    refine ⟨hw₂, l₂, ?_, h₂⟩
    show l.replay ((detachGroup groups subject).2 ++ _) = some l₂
    rw [replay_append, hl₁]
    exact hl₂

theorem mem_changed {old new : Groups} {e : String × List Nat} :
    e ∈ changed old new ↔ e ∈ old.entries ∧ e ∉ new.entries := by
  simp only [changed, List.mem_filter, ne_eq, decide_eq_true_eq, OrdMap.get_eq_some]

/-- The listener follows a rescan to the groups it read, or left. -/
theorem replay_rescanWith {groups : Groups} (hw : WellFormed groups)
    (h : l.Reflects (· ∈ groups.entries)) (detached : List String) {read : Except Errno Groups}
    (hread : ∀ new, read = .ok new → WellFormed new) :
    WellFormed (rescanWith groups detached read).1 ∧
      ∃ l', l.replay (rescanWith groups detached read).2.changes = some l' ∧
        l'.Reflects (· ∈ (rescanWith groups detached read).1.entries) := by
  obtain ⟨hw₁, l₁, hl₁, h₁⟩ := replay_detachGroups detached hw h
  cases read with
  | error error => exact ⟨hw₁, l₁, hl₁, h₁⟩
  | ok new =>
    have hnew := hread new rfl
    have hold : (changed (detachGroups groups detached).1 new).Nodup :=
      (detachGroups groups detached).1.nodup.filter _
    have hfresh : (changed new (detachGroups groups detached).1).Nodup := new.nodup.filter _
    obtain ⟨l₂, hl₂, h₂⟩ := replay_retractions h₁ (distinct_of_wellFormed hw₁) hold
      fun e he => (mem_changed.mp he).1
    -- what is kept and what is announced are the groups read
    have hunion : ∀ e : String × List Nat,
        (e ∈ (detachGroups groups detached).1.entries ∧
          e ∉ changed (detachGroups groups detached).1 new) ∨
          e ∈ changed new (detachGroups groups detached).1 ↔ e ∈ new.entries := by
      intro e
      rw [mem_changed, mem_changed]
      by_cases he : e ∈ (detachGroups groups detached).1.entries <;>
        by_cases hn : e ∈ new.entries <;> simp [he, hn]
    obtain ⟨l₃, hl₃, h₃⟩ := replay_announcements h₂
      ((distinct_of_wellFormed hnew).mono fun e => (hunion e).mp) hfresh
      fun e he hkept => (mem_changed.mp he).2 hkept.1
    refine ⟨hnew, l₃, ?_, reflects_congr h₃ hunion⟩
    show l.replay ((detachGroups groups detached).2 ++ _ ++ _) = some l₃
    rw [replay_append, replay_append, hl₁, Option.bind_some, hl₂, Option.bind_some, hl₃]

/-- The listener that was told of a catalog's snapshots reflects its groups. -/
theorem reflects_of {groups : Groups} (hw : WellFormed groups) :
    (Listener.of (snapshots groups)).Reflects (· ∈ groups.entries) := by
  intro id snapshot
  constructor
  · intro h
    obtain ⟨e, he, hs⟩ := mem_snapshots.mp (List.mem_of_find?_eq_some h)
    exact ⟨e, he, hs, by simpa using List.find?_some h⟩
  · rintro ⟨e, he, hs, rfl⟩
    have hmem : snapshot ∈ snapshots groups := mem_snapshots.mpr ⟨e, he, hs⟩
    have hsome : ((snapshots groups).find? (·.objectId = snapshot.objectId)).isSome = true :=
      List.find?_isSome.mpr ⟨snapshot, hmem, by simp⟩
    obtain ⟨found, hf⟩ := Option.isSome_iff_exists.mp hsome
    obtain ⟨e', he', hs'⟩ := mem_snapshots.mp (List.mem_of_find?_eq_some hf)
    have hid : found.objectId = snapshot.objectId := by simpa using List.find?_some hf
    have heq := hw.head_inj he' he (groupSnapshot_id hs') (hid ▸ groupSnapshot_id hs)
    rw [heq, hs] at hs'
    cases hs'
    exact hf

end Listener

/-! ## Detached groups -/

/-- The subject names the group: it has the unit `pcmN`, or the name. -/
def Names (subject : String) (e : String × List Nat) : Prop :=
  match pcmUnit subject with
  | some unit => unit ∈ e.2
  | none => e.1 = subject

/-- The changes remove the group. -/
def Retracts (changes : List CatalogChange) (e : String × List Nat) : Prop :=
  ∃ id diagnostic, e.2.head? = some id ∧ .removed id diagnostic ∈ changes

section Detach
variable {groups : Groups} {subject : String} {e : String × List Nat}

theorem detachKey_of_names (hw : WellFormed groups) (he : e ∈ groups.entries)
    (hn : Names subject e) : detachKey groups subject = some e.1 := by
  unfold detachKey
  unfold Names at hn
  cases hu : pcmUnit subject with
  | none =>
    rw [hu] at hn
    have hg : groups.get subject = some e.2 := OrdMap.get_eq_some.mpr (hn ▸ he)
    simp only [hg, Option.isSome_some, if_true, hn]
  | some unit =>
    simp only [hu] at hn
    have hsome : (groups.entries.find? fun e => e.2.contains unit).isSome = true :=
      List.find?_isSome.mpr ⟨e, he, by simpa using hn⟩
    obtain ⟨e', hf⟩ := Option.isSome_iff_exists.mp hsome
    have hmem : unit ∈ e'.2 := by simpa using List.find?_some hf
    have heq := hw.disjoint e' (List.mem_of_find?_eq_some hf) e he unit hmem hn
    simp only [hf, Option.map_some, heq]

/-- A group whose key was resolved is retracted. -/
theorem detachGroup_retracts (hw : WellFormed groups) (he : e ∈ groups.entries)
    (hk : detachKey groups subject = some e.1) : Retracts (detachGroup groups subject).2 e := by
  obtain ⟨id, hid⟩ := Listener.head?_of_ne_nil (hw.nonempty e he)
  refine ⟨id, groupText e.1 e.2 ++ " on detach", hid, ?_⟩
  have hg : groups.get e.1 = some e.2 := OrdMap.get_eq_some.mpr he
  simp only [detachGroup, hk, hg, retraction, hid, Option.map_some, Option.toList_some,
    List.mem_singleton]

/-- One subject leaves a group alone, or retracts it. -/
theorem detachGroup_keeps (hw : WellFormed groups) (he : e ∈ groups.entries) :
    e ∈ (detachGroup groups subject).1.entries ∨ Retracts (detachGroup groups subject).2 e := by
  by_cases hk : detachKey groups subject = some e.1
  · exact .inr (detachGroup_retracts hw he hk)
  · left
    unfold detachGroup
    split
    · exact he
    · next key hkey =>
      split
      · exact he
      · refine OrdMap.mem_erase.mpr ⟨he, ?_⟩
        rintro rfl
        exact hk hkey

theorem Retracts.append {xs ys : List CatalogChange} (h : Retracts xs e ∨ Retracts ys e) :
    Retracts (xs ++ ys) e := by
  rcases h with ⟨id, diagnostic, hid, hm⟩ | ⟨id, diagnostic, hid, hm⟩
  · exact ⟨id, diagnostic, hid, List.mem_append_left _ hm⟩
  · exact ⟨id, diagnostic, hid, List.mem_append_right _ hm⟩

theorem detachGroup_wellFormed (hw : WellFormed groups) :
    WellFormed (detachGroup groups subject).1 := by
  unfold detachGroup
  split
  · exact hw
  · split
    · exact hw
    · exact hw.erase _

end Detach

/-- Every group that a subject names is retracted. -/
theorem detachGroups_retracts : ∀ {detached : List String} {groups : Groups} {subject : String}
    {e : String × List Nat}, WellFormed groups → subject ∈ detached → e ∈ groups.entries →
    Names subject e → Retracts (detachGroups groups detached).2 e
  | first :: rest, groups, subject, e, hw, hs, he, hn => by
    show Retracts ((detachGroup groups first).2 ++ _) e
    have hfirst : e ∈ (detachGroup groups first).1.entries ∨
        Retracts (detachGroup groups first).2 e := detachGroup_keeps hw he
    rcases hfirst with hkept | hgone
    · rcases List.mem_cons.mp hs with rfl | hs'
      · exact .append (.inl (detachGroup_retracts hw he (detachKey_of_names hw he hn)))
      · exact .append (.inr (detachGroups_retracts (detachGroup_wellFormed hw) hs' hkept hn))
    · exact .append (.inl hgone)

/-! ## Runs of a watched catalog -/

/-- A catalog, and a listener that follows its changes. -/
structure Watch where
  groups : Groups
  listener : Listener

/-- A `rescan_with` call: the detach subjects, and what sndstat reads as. -/
structure RescanCall where
  detached : List String
  read : Except Errno Groups

namespace Watch

/-- A rescan, whose changes the listener applies. `none`: it refuses one. -/
def step (s : Watch) (call : RescanCall) : Option Watch :=
  let next := rescanWith s.groups call.detached call.read
  (s.listener.replay next.2.changes).map fun listener => ⟨next.1, listener⟩

/-- A scanned catalog, with a listener that was told of its snapshots. -/
def system : System Watch RescanCall where
  init s := WellFormed s.groups ∧ s.listener = .of (snapshots s.groups)
  step := step

/-- A successful read gives well-formed groups. -/
def ReadsWell (_ : Watch) (call : RescanCall) : Prop :=
  ∀ groups, call.read = .ok groups → WellFormed groups

/-- The listener reflects the catalog. -/
structure Followed (s : Watch) : Prop where
  wellFormed : WellFormed s.groups
  reflects : s.listener.Reflects (· ∈ s.groups.entries)

theorem Followed.step {s : Watch} (h : s.Followed) {call : RescanCall} (hr : s.ReadsWell call) :
    ∃ s', s.step call = some s' ∧ s'.Followed := by
  obtain ⟨hw, l, hl, href⟩ := Listener.replay_rescanWith h.wellFormed h.reflects call.detached hr
  refine ⟨⟨_, l⟩, ?_, hw, href⟩
  unfold Watch.step
  simp only [hl, Option.map_some]

theorem followed {s : Watch} (h : Via system ReadsWell s) : s.Followed := by
  refine h.invariant ⟨?_, ?_⟩
  · rintro s ⟨hw, hl⟩
    exact ⟨hw, by rw [hl]; exact Listener.reflects_of hw⟩
  · intro s call s' hf hr hs
    obtain ⟨t, ht, hfollowed⟩ := hf.step hr
    rw [show s.step call = some s' from hs] at ht
    cases ht
    exact hfollowed

end Watch

/-- Catalog changes replay to the catalog. After every rescan the listener holds
exactly the catalog's snapshots, each under its object id. The next rescan never
asks it to add an id that it holds or to remove one that it does not, and retracts
every group that a detach subject names, whatever is read. -/
theorem catalog_replays {s : Watch} (h : Via Watch.system Watch.ReadsWell s) :
    s.listener.Holds (snapshots s.groups) ∧
    ∀ call, s.ReadsWell call → (s.step call).isSome = true ∧
      ∀ subject ∈ call.detached, ∀ e ∈ s.groups.entries, Names subject e →
        Retracts (rescanWith s.groups call.detached call.read).2.changes e := by
  have hf := Watch.followed h
  refine ⟨Listener.holds_of_reflects hf.reflects, fun call hr => ⟨?_, ?_⟩⟩
  · obtain ⟨s', hs', -⟩ := hf.step hr
    exact Option.isSome_iff_exists.mpr ⟨s', hs'⟩
  · intro subject hs e he hn
    have hretracts := detachGroups_retracts hf.wellFormed hs he hn
    unfold rescanWith
    cases call.read with
    | error error => exact hretracts
    | ok new => exact .append (.inl (.append (.inl hretracts)))

/-- The group of one USB card. -/
def usbDac : Groups := ⟨[("usb-dac", [3, 4])], List.pairwise_singleton _ _⟩

theorem usbDac_wellFormed : WellFormed usbDac := by
  have hall : ∀ e ∈ usbDac.entries, e = ("usb-dac", [3, 4]) := fun e he => List.mem_singleton.mp he
  refine ⟨fun e he => ?_, fun e he e' he' _ _ _ => (hall e he).trans (hall e' he').symm⟩
  rw [hall e he]
  exact List.cons_ne_nil _ _

/-- A replug with the same name and units. -/
def replug : RescanCall := ⟨["pcm3"], .ok usbDac⟩

/-- The replaced card is retracted and announced again. -/
theorem catalog_replays_replug :
    ∃ s, Watch.system.run ⟨usbDac, .of (snapshots usbDac)⟩ [replug] = some s ∧
      s.listener.Holds (snapshots s.groups) ∧
      Retracts (rescanWith usbDac replug.detached replug.read).2.changes ("usb-dac", [3, 4]) := by
  have hinit : Watch.system.init ⟨usbDac, .of (snapshots usbDac)⟩ := ⟨usbDac_wellFormed, rfl⟩
  have hreads : ∀ t : Watch, t.ReadsWell replug := by
    intro t groups hg
    cases hg
    exact usbDac_wellFormed
  have hunit : pcmUnit "pcm3" = some 3 := by decide +kernel
  have hnames : Names "pcm3" ("usb-dac", [3, 4]) := by
    simp only [Names, hunit, List.mem_cons, true_or]
  obtain ⟨-, hcalls⟩ := catalog_replays (.init hinit)
  obtain ⟨hstep, hretracts⟩ := hcalls replug (hreads _)
  obtain ⟨s, hs⟩ := Option.isSome_iff_exists.mp hstep
  refine ⟨s, ?_, (catalog_replays (.step (.init hinit) (hreads _) hs)).1,
    hretracts "pcm3" (List.mem_singleton_self _) _ (List.mem_singleton_self _) hnames⟩
  simp only [System.run, Watch.system, hs]

end PwOss.Oss
