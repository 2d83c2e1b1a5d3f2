import PwOss.Oss.Devices

/-
  The devd lines of a batch, folded into one signal for the catalog, from
  `freebsd_oss/event.rs`.

  A `-` line names the hardware that went away, so that the rescan retracts its group even
  if a replacement has the same name and units. One signal names one subject: with another
  subject, or with an attach, the batch becomes a full rescan, which only compares.

  What is proved:
    1. `batchSignal_sums`: what the fold keeps of a batch.
    2. `detached_groups_retracted`: a batch with an attach is a full re-read. Every group
       that a detach line names is retracted exactly if no attach and no other detach is in
       the batch, or the re-read does not have those groups as they were.
    3. `replug_in_one_batch`: the card of a quick replug is not retracted.

  Correspondence (Rust ↔ Lean):
    `CatalogSignal`, `CatalogRefresh`         ↔ the same names
    `merge_catalog_signal`, `catalog_refresh` ↔ `mergeCatalogSignal`, `catalogRefresh`
    `decode_catalog_signal`                   ↔ `decodeCatalogSignal`; `digit` is the regex's `\d`
    `read_catalog_rescan`                     ↔ `batchSignal`, `readCatalogRescan`
-/

namespace PwOss.Oss

open PwOss.Lists PwOss.OrdMap PwOss.Sys

/-! ## Signals -/

inductive CatalogSignal where
  | attached
  | detached (subject : String)
  deriving DecidableEq, Repr

inductive CatalogRefresh where
  | full
  | detached (subject : String)
  deriving DecidableEq, Repr

def catalogRefresh (signal : Option CatalogSignal) (reconnected : Bool) : Option CatalogRefresh :=
  if reconnected then some .full
  else
    match signal with
    | some .attached => some .full
    | some (.detached subject) => some (.detached subject)
    | none => none

def mergeCatalogSignal (current next : Option CatalogSignal) : Option CatalogSignal :=
  match current, next with
  | current, none => current
  | none, next => next
  | some (.detached a), some (.detached b) =>
    if a = b then some (.detached a) else some .attached
  | some .attached, some _ => some .attached
  | some (.detached _), some .attached => some .attached

section Lines
variable (digit : Char → Bool)

/-- `card` and the digits after it, where `text` begins with them. -/
def namedUnit (card : String) (text : List Char) : Option String :=
  if card.toList.isPrefixOf text then
    let unit := (text.drop card.length).takeWhile digit
    if unit = [] then none else some (card ++ String.ofList unit)
  else none

/-- The second group of the regex. -/
def namedDevice (text : List Char) : Option String :=
  (namedUnit digit "pcm" text).or (namedUnit digit "uaudio" text)

def decodeCatalogSignal (line : String) : Option CatalogSignal :=
  match line.toList with
  | '-' :: text => (namedDevice digit text).map .detached
  | '+' :: text => (namedDevice digit text).map fun _ => .attached
  | _ => none

/-- The signal of the lines of a batch. -/
def batchSignal (lines : List String) : Option CatalogSignal :=
  lines.foldl (fun signal line => mergeCatalogSignal signal (decodeCatalogSignal digit line)) none

/-- `read_catalog_rescan`: the rescan of a batch, if there is one. -/
def readCatalogRescan (lines : List String) (reconnected : Bool) (groups : Groups)
    (read : Except Errno Groups) : Option (Groups × CatalogRescan) :=
  match catalogRefresh (batchSignal digit lines) reconnected with
  | some .full => some (rescanWith groups [] read)
  | some (.detached subject) => some (rescanWith groups [subject] read)
  | none => none

end Lines

/-! ## What the fold keeps -/

/-- All signals detach the subject. -/
def AllDetach (subject : String) (signals : List CatalogSignal) : Prop :=
  ∀ signal ∈ signals, signal = .detached subject

/-- What one signal says about those it stands for. -/
def Sums (signals : List CatalogSignal) : Option CatalogSignal → Prop
  | none => signals = []
  | some (.detached subject) => signals ≠ [] ∧ AllDetach subject signals
  | some .attached => ¬ ∃ subject, AllDetach subject signals

theorem AllDetach.append {subject : String} {signals more : List CatalogSignal} :
    AllDetach subject (signals ++ more) ↔ AllDetach subject signals ∧ AllDetach subject more :=
  List.forall_mem_append

theorem allDetach_singleton {subject : String} {signal : CatalogSignal} :
    AllDetach subject [signal] ↔ signal = .detached subject :=
  List.forall_mem_singleton

theorem Sums.merge {signals : List CatalogSignal} {current : Option CatalogSignal}
    (h : Sums signals current) (next : Option CatalogSignal) :
    Sums (signals ++ next.toList) (mergeCatalogSignal current next) := by
  cases next with
  | none =>
    rw [Option.toList_none, List.append_nil]
    cases current with
    | none => exact h
    | some signal => cases signal <;> exact h
  | some next =>
    rw [Option.toList_some]
    match current, next with
    | none, .attached =>
      obtain rfl : signals = [] := h
      rintro ⟨subject, hall⟩
      cases allDetach_singleton.mp hall
    | none, .detached b =>
      obtain rfl : signals = [] := h
      exact ⟨List.cons_ne_nil _ _, allDetach_singleton.mpr rfl⟩
    | some (.detached a), .attached =>
      rintro ⟨subject, hall⟩
      cases allDetach_singleton.mp (AllDetach.append.mp hall).2
    | some .attached, _ =>
      rintro ⟨subject, hall⟩
      exact h ⟨subject, (AllDetach.append.mp hall).1⟩
    | some (.detached a), .detached b =>
      obtain ⟨hne, hall⟩ := h
      unfold mergeCatalogSignal
      dsimp only
      split
      · next heq =>
        exact ⟨List.append_ne_nil_of_left_ne_nil hne _,
          AllDetach.append.mpr ⟨hall, allDetach_singleton.mpr (heq ▸ rfl)⟩⟩
      · next hdiffer =>
        rintro ⟨subject, hboth⟩
        obtain ⟨hfirst, hlast⟩ := AllDetach.append.mp hboth
        obtain ⟨signal, hsignal⟩ := List.exists_mem_of_ne_nil signals hne
        have ha := (hall signal hsignal).symm.trans (hfirst signal hsignal)
        have hb := allDetach_singleton.mp hlast
        cases ha
        cases hb
        exact hdiffer rfl

theorem batchSignal_sums (digit : Char → Bool) (lines : List String) :
    Sums (lines.filterMap (decodeCatalogSignal digit)) (batchSignal digit lines) := by
  have hfold : ∀ (lines : List String) (signals : List CatalogSignal)
      (current : Option CatalogSignal), Sums signals current →
      Sums (signals ++ lines.filterMap (decodeCatalogSignal digit))
        (lines.foldl (fun signal line =>
          mergeCatalogSignal signal (decodeCatalogSignal digit line)) current) := by
    intro lines
    induction lines with
    | nil =>
      intro signals current h
      rw [List.filterMap_nil, List.append_nil]
      exact h
    | cons line lines ih =>
      intro signals current h
      rw [filterMap_cons_toList, ← List.append_assoc]
      exact ih _ _ (h.merge _)
  exact hfold lines [] none rfl

/-! ## The groups that a batch names -/

section Batch
variable {digit : Char → Bool} {lines : List String} {groups : Groups} {read : Except Errno Groups}

/-- A detach line of the batch names the group. -/
def NamedIn (digit : Char → Bool) (lines : List String) (e : String × List Nat) : Prop :=
  ∃ line ∈ lines, ∃ subject,
    decodeCatalogSignal digit line = some (.detached subject) ∧ Names subject e

/-- No line of the batch attaches, and all that detach name this subject. -/
def OnlyDetaches (digit : Char → Bool) (lines : List String) (subject : String) : Prop :=
  ∀ line ∈ lines, ∀ signal, decodeCatalogSignal digit line = some signal →
    signal = .detached subject

theorem onlyDetaches_iff {subject : String} :
    OnlyDetaches digit lines subject ↔
      AllDetach subject (lines.filterMap (decodeCatalogSignal digit)) := by
  constructor
  · intro h signal hsignal
    obtain ⟨line, hline, hdecode⟩ := List.mem_filterMap.mp hsignal
    exact h line hline signal hdecode
  · intro h line hline signal hdecode
    exact h signal (List.mem_filterMap.mpr ⟨line, hline, hdecode⟩)

/-- A batch of one subject is the rescan that retracts it. -/
theorem readCatalogRescan_detached {subject : String} (h : OnlyDetaches digit lines subject)
    {line : String} (hline : line ∈ lines) {signal : CatalogSignal}
    (hdecode : decodeCatalogSignal digit line = some signal) :
    readCatalogRescan digit lines false groups read = some (rescanWith groups [subject] read) := by
  have hmem : signal ∈ lines.filterMap (decodeCatalogSignal digit) :=
    List.mem_filterMap.mpr ⟨line, hline, hdecode⟩
  have hall := onlyDetaches_iff.mp h
  have hsums := batchSignal_sums digit lines
  unfold readCatalogRescan
  cases hbatch : batchSignal digit lines with
  | none =>
    rw [hbatch] at hsums
    rw [show lines.filterMap (decodeCatalogSignal digit) = [] from hsums] at hmem
    cases hmem
  | some current =>
    rw [hbatch] at hsums
    cases current with
    | attached => exact absurd ⟨subject, hall⟩ hsums
    | detached subject' =>
      have hsame := (hsums.2 signal hmem).symm.trans (hall signal hmem)
      cases hsame
      rfl

/-- Any other batch with a signal is a full re-read. -/
theorem readCatalogRescan_full (h : ¬ ∃ subject, OnlyDetaches digit lines subject) :
    readCatalogRescan digit lines false groups read = some (rescanWith groups [] read) := by
  have hsums := batchSignal_sums digit lines
  unfold readCatalogRescan
  cases hbatch : batchSignal digit lines with
  | none =>
    rw [hbatch] at hsums
    refine absurd ⟨"", onlyDetaches_iff.mpr ?_⟩ h
    rw [show lines.filterMap (decodeCatalogSignal digit) = [] from hsums]
    exact nofun
  | some current =>
    rw [hbatch] at hsums
    cases current with
    | attached => rfl
    | detached subject => exact absurd ⟨subject, onlyDetaches_iff.mpr hsums.2⟩ h

/-- A full re-read retracts exactly the groups that it does not find as they were. -/
theorem rescanWith_full_retracts (hw : WellFormed groups) {e : String × List Nat}
    (he : e ∈ groups.entries) :
    Retracts (rescanWith groups [] read).2.changes e ↔
      ∃ new, read = .ok new ∧ e ∉ new.entries := by
  cases read with
  | error error =>
    refine iff_of_false ?_ (by rintro ⟨_, h, -⟩; cases h)
    rintro ⟨id, diagnostic, -, hmem⟩
    cases hmem
  | ok new =>
    constructor
    · rintro ⟨id, diagnostic, hid, hmem⟩
      refine ⟨new, rfl, ?_⟩
      rcases List.mem_append.mp hmem with hremoved | hadded
      · obtain ⟨e', he', hretraction⟩ := List.mem_filterMap.mp hremoved
        obtain ⟨id', hid', hchange⟩ := Option.map_eq_some_iff.mp hretraction
        cases hchange
        obtain ⟨hold, hgone⟩ := Listener.mem_changed.mp he'
        rw [hw.head_inj he hold hid hid']
        exact hgone
      · obtain ⟨e', -, hannouncement⟩ := List.mem_filterMap.mp hadded
        obtain ⟨_, -, hchange⟩ := Option.map_eq_some_iff.mp hannouncement
        cases hchange
    · rintro ⟨_, heq, hgone⟩
      cases heq
      obtain ⟨id, hid⟩ := Listener.head?_of_ne_nil (hw.nonempty e he)
      refine ⟨id, groupText e.1 e.2 ++ "", hid, List.mem_append_left _ ?_⟩
      refine List.mem_filterMap.mpr ⟨e, Listener.mem_changed.mpr ⟨he, hgone⟩, ?_⟩
      unfold retraction
      rw [hid, Option.map_some]

/-- A batch rescans the catalog, and removes the group. -/
def BatchRetracts (digit : Char → Bool) (lines : List String) (groups : Groups)
    (read : Except Errno Groups) (e : String × List Nat) : Prop :=
  ∃ outcome, readCatalogRescan digit lines false groups read = some outcome ∧
    Retracts outcome.2.changes e

theorem batchRetracts_detached (hw : WellFormed groups) {subject : String}
    (h : OnlyDetaches digit lines subject) {e : String × List Nat} (he : e ∈ groups.entries)
    (hnamed : NamedIn digit lines e) : BatchRetracts digit lines groups read e := by
  obtain ⟨line, hline, subject', hdecode, hnames⟩ := hnamed
  cases h line hline _ hdecode
  refine ⟨_, readCatalogRescan_detached h hline hdecode, ?_⟩
  have hretracts := detachGroups_retracts hw (List.mem_singleton_self _) he hnames
  unfold rescanWith
  cases read with
  | error error => exact hretracts
  | ok new => exact .append (.inl (.append (.inl hretracts)))

end Batch

/-- A detach of a batch is not lost, if it is the only subject of the batch or the re-read
shows the change. A batch with an attach line is a full re-read; and every group that a
detach line names is removed exactly if no other signal is in the batch, or the re-read
succeeds without those groups as they were. -/
theorem detached_groups_retracted (digit : Char → Bool) (lines : List String) {groups : Groups}
    (hw : WellFormed groups) (read : Except Errno Groups) :
    (∀ line ∈ lines, decodeCatalogSignal digit line = some .attached →
      readCatalogRescan digit lines false groups read = some (rescanWith groups [] read)) ∧
    ((∀ e ∈ groups.entries, NamedIn digit lines e → BatchRetracts digit lines groups read e) ↔
      (∃ subject, OnlyDetaches digit lines subject) ∨
        ∀ e ∈ groups.entries, NamedIn digit lines e →
          ∃ new, read = .ok new ∧ e ∉ new.entries) := by
  constructor
  · intro line hline hattach
    refine readCatalogRescan_full ?_
    rintro ⟨subject, honly⟩
    cases honly line hline _ hattach
  by_cases honly : ∃ subject, OnlyDetaches digit lines subject
  · obtain ⟨subject, h⟩ := honly
    exact iff_of_true (fun e he hnamed => batchRetracts_detached hw h he hnamed)
      (.inl ⟨subject, h⟩)
  · have hfull : readCatalogRescan digit lines false groups read =
        some (rescanWith groups [] read) := readCatalogRescan_full honly
    rw [or_iff_right honly]
    refine forall_congr' fun e => forall_congr' fun he => forall_congr' fun _ => ?_
    rw [← rescanWith_full_retracts hw he]
    unfold BatchRetracts
    rw [hfull]
    exact ⟨fun ⟨_, heq, h⟩ => Option.some.inj heq ▸ h, fun h => ⟨_, rfl, h⟩⟩

/-- The card goes away, and its replacement attaches. -/
def replugLines : List String := ["-pcm3 at hdaa0", "+pcm3 at hdaa0"]

theorem replugLines_detach :
    decodeCatalogSignal Char.isDigit "-pcm3 at hdaa0" = some (.detached "pcm3") := by
  decide +kernel

theorem replugLines_attach :
    decodeCatalogSignal Char.isDigit "+pcm3 at hdaa0" = some .attached := by
  decide +kernel

theorem usbDac_named : Names "pcm3" ("usb-dac", [3, 4]) := by
  have hunit : pcmUnit "pcm3" = some 3 := by decide +kernel
  simp only [Names, hunit, List.mem_cons, true_or]

/-- The replacement reads as the card did, and nothing is removed. -/
theorem replug_in_one_batch :
    NamedIn Char.isDigit replugLines ("usb-dac", [3, 4]) ∧
      ¬ BatchRetracts Char.isDigit replugLines usbDac (.ok usbDac) ("usb-dac", [3, 4]) := by
  have hmem : ("usb-dac", [3, 4]) ∈ usbDac.entries := List.mem_singleton_self _
  refine ⟨⟨_, List.mem_cons_self .., "pcm3", replugLines_detach, usbDac_named⟩, ?_⟩
  have hmixed : ¬ ∃ subject, OnlyDetaches Char.isDigit replugLines subject := by
    rintro ⟨subject, honly⟩
    cases honly _ (List.mem_cons_of_mem _ (List.mem_cons_self ..)) _ replugLines_attach
  rintro ⟨outcome, houtcome, hretracts⟩
  cases (readCatalogRescan_full hmixed).symm.trans houtcome
  obtain ⟨new, hread, hgone⟩ := (rescanWith_full_retracts usbDac_wellFormed hmem).mp hretracts
  cases hread
  exact hgone hmem

/-- A batch of one detach line. -/
theorem detached_groups_retracted_unplug :
    BatchRetracts Char.isDigit ["-pcm3 at hdaa0"] usbDac (.ok usbDac) ("usb-dac", [3, 4]) := by
  refine (detached_groups_retracted Char.isDigit ["-pcm3 at hdaa0"] usbDac_wellFormed
    (.ok usbDac)).2.mpr (.inl ⟨"pcm3", ?_⟩) _ (List.mem_singleton_self _)
    ⟨_, List.mem_singleton_self _, "pcm3", replugLines_detach, usbDac_named⟩
  intro line hline signal hdecode
  cases List.mem_singleton.mp hline
  exact Option.some.inj (hdecode.symm.trans replugLines_detach)

end PwOss.Oss
