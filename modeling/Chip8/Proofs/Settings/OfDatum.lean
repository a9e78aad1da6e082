import Chip8.Proofs.Action
import Chip8.Proofs.Settings.Datum
import Chip8.Settings.OfDatum

/-!
# Settings that can be refused with a reason

The only faults of a document that are not reported are those of texts: a value that should be shown cannot be written.
So whatever a document holds, its settings are refused with a reported fault, or something that it holds cannot be
written where it is shown.

Main statements: `Settings.ofEntries_reports`, `Settings.ofDatum_reports`.
-/

namespace Chip8

open Settings

/-! ## Reported faults -/

/-- A fault is reported, or comes from a value of a table that cannot be written where it is shown. -/
inductive Explained [Room] (table : Array Collection) : SettingsFault → Prop
  | reported {fault : SettingsFault} (h : fault.isReported) : Explained table fault
  | unwritable {fault : TextFault} {site : Site} {d : Datum} (hd : d.HeldIn table)
      (h : d.Unwritable (Room.left site) fault) : Explained table (.unwritable fault)

/-- A result is a value or a fault that can be explained. -/
def Reports [Room] (table : Array Collection) {α : Type} (x : Except SettingsFault α) : Prop :=
  ∀ fault, x = .error fault → Explained table fault

namespace Reports

variable [Room] {table : Array Collection} {α β : Type} {x : Except SettingsFault α}

theorem ok (a : α) : Reports table (.ok a : Except SettingsFault α) := nofun

theorem fault {fault : SettingsFault} (h : Explained table fault) :
    Reports table (.error fault : Except SettingsFault α) := by
  rintro _ ⟨⟩
  exact h

theorem error {fault : SettingsFault} (h : fault.isReported) : Reports table (.error fault : Except SettingsFault α) :=
  .fault (.reported h)

theorem bind {f : α → Except SettingsFault β} (hx : Reports table x) (hf : ∀ a, Reports table (f a)) :
    Reports table (x >>= f) := by
  cases x with
  | ok a => exact hf a
  | error fault => exact .fault (hx fault rfl)

theorem map {f : α → β} (hx : Reports table x) : Reports table (f <$> x) := by
  cases x with
  | ok a => exact .ok (f a)
  | error fault => exact .fault (hx fault rfl)

theorem entry {e : Option Datum} {f : Datum → Except SettingsFault α} {next : α → Except SettingsFault β}
    (hf : ∀ d ∈ e, Reports table (f d)) (hx : Reports table x) (hnext : ∀ a, Reports table (next a)) :
    Reports table (match e with | some d => f d >>= next | none => x >>= next) := by
  split
  · next d => exact (hf d rfl).bind hnext
  · exact hx.bind hnext

theorem mapM {f : β → Except SettingsFault α} {l : List β} (hf : ∀ b ∈ l, Reports table (f b)) :
    Reports table (l.mapM f) := by
  induction l with
  | nil => exact .ok []
  | cons b l ih =>
    rw [List.mapM_cons]
    refine (hf b List.mem_cons_self).bind fun a => ?_
    exact (ih fun b' hb' => hf b' (List.mem_cons_of_mem b hb')).bind fun as => .ok (a :: as)

end Reports

namespace Settings

variable [Room] {table : Array Collection} {d : Datum} {site : Site}

theorem path_reports (field : String) (d : Datum) : Reports table (path field d) := by
  unfold path
  split
  · split
    · exact .error rfl
    · exact .ok _
  · exact .error rfl

theorem optionalPath_reports (field : String) (d : Datum) : Reports table (optionalPath field d) := by
  unfold optionalPath
  split
  · exact .ok none
  · exact (path_reports field d).map

theorem positive_reports (field : String) (n : Int) : Reports table (positive field n) := by
  unfold positive
  split
  · exact .ok _
  · exact .error rfl

theorem shown_reports (hd : d.HeldIn table) : Reports table (shown site d) := by
  intro fault h
  obtain ⟨textFault, htext, rfl⟩ := mapError_eq_error h
  exact .unwritable hd (Datum.literal_error (Datum.shown_error htext))

theorem literal_reports (hd : d.HeldIn table) : Reports table (literal site d) := by
  intro fault h
  obtain ⟨textFault, htext, rfl⟩ := mapError_eq_error h
  exact .unwritable hd (Datum.literal_error htext)

theorem integer_collection {place : Nat} (hd : d.value = .collection place) : integer site d =
    match d.literal (Room.left site) with
    | .ok text => .error (.notInteger (Text.ofString text))
    | .error fault => .error (.unwritable fault) := by
  have hshown : d.shown (Room.left site) = Text.ofString <$> d.literal (Room.left site) := by
    unfold Datum.shown
    rw [hd]
  unfold integer shown
  rw [hd, hshown]
  cases d.literal (Room.left site) <;> rfl

theorem integer_reports (hd : d.HeldIn table) : Reports table (integer site d) := by
  unfold integer
  split
  · exact .ok _
  · split
    · exact .ok _
    · exact .error rfl
  · exact (shown_reports hd).bind fun _ => .error rfl

theorem padKey_reports {name value : Datum} (hname : name.HeldIn table) (hvalue : value.HeldIn table) :
    Reports table (padKey name value) := by
  refine (integer_reports hvalue).bind fun n => ?_
  split
  · exact .ok _
  · exact (literal_reports hname).bind fun _ => (literal_reports hvalue).bind fun _ => .error rfl

theorem bindKeys_reports {entries : List (Datum × Datum)}
    (h : ∀ entry ∈ entries, entry.1.HeldIn table ∧ entry.2.HeldIn table) (m : KeyMap) :
    Reports table (bindKeys m entries) := by
  induction entries generalizing m with
  | nil => exact .ok m
  | cons entry entries ih =>
    obtain ⟨⟨hname, hvalue⟩, hrest⟩ := List.forall_mem_cons.mp h
    refine (padKey_reports hname hvalue).bind fun key => ?_
    exact (shown_reports hname).bind fun _ => ih hrest _

theorem keyMapOf_reports {entry : Option Datum} (h : ∀ d ∈ entry, d.HeldIn table) : Reports table (keyMapOf entry) := by
  unfold keyMapOf
  split
  · exact .ok _
  · next d hd =>
    have hin := h d (Option.filter_eq_some_iff.mp hd).1
    split
    · next entries hentries => exact bindKeys_reports (hin.table ▸ Datum.held_of_entries hentries) _
    · exact .error rfl

theorem breakpointsOf_reports {entry : Option Datum} (h : ∀ d ∈ entry, d.HeldIn table) :
    Reports table (breakpointsOf entry) := by
  unfold breakpointsOf
  split
  · exact .ok _
  · next d hd =>
    have hin := h d (Option.filter_eq_some_iff.mp hd).1
    split
    · next items hitems =>
      exact .mapM fun item hitem => integer_reports (hin.table ▸ Datum.held_of_items hitems item hitem)
    · exact .error rfl

/-- Entries of a table make settings, or are refused with a fault that can be explained. -/
theorem ofEntries_reports {entries : List (Datum × Datum)}
    (h : ∀ entry ∈ entries, entry.1.HeldIn table ∧ entry.2.HeldIn table) : Reports table (ofEntries entries) := by
  -- what a field is read from is held in the table
  have hentry : ∀ field : String, ∀ d ∈ Datum.get? field entries, d.HeldIn table := by
    intro field d hd
    obtain ⟨entry, hmem, rfl⟩ := Datum.mem_of_get? hd
    exact (h entry hmem).2
  have hnumber : ∀ (field : String) (other : Nat), Reports table
      (match Datum.get? field entries with | some value => integer .number value | none => .ok (other : Int)) := by
    intro field other
    split
    · next value hvalue => exact integer_reports (hentry field value hvalue)
    · exact .ok _
  have hname : ∀ (field : String) (other : Text), Reports table
      (match Datum.get? field entries with | some value => shown .keyName value | none => .ok other) := by
    intro field other
    split
    · next value hvalue => exact shown_reports (hentry field value hvalue)
    · exact .ok _
  unfold ofEntries
  -- The fields in the order in which they are read, and last the four that must be positive.
  refine (keyMapOf_reports (hentry _)).bind fun keyMap => ?_
  refine (breakpointsOf_reports (hentry _)).bind fun breakpoints => ?_
  refine (hnumber _ _).bind fun scale => (hnumber _ _).bind fun cycles => (hnumber _ _).bind fun timers => ?_
  dsimp only
  refine .entry (x := pure _) (fun _ _ => optionalPath_reports _ _) (.ok _) fun fontPath => ?_
  refine .entry (x := pure _) (fun _ _ => path_reports _ _) (.ok _) fun dumpPath => ?_
  refine (hnumber _ _).bind fun history => (hname _ _).bind fun quit => (hname _ _).bind fun step => ?_
  refine (hname _ _).bind fun dump => (positive_reports _ _).bind fun _ => (positive_reports _ _).bind fun _ => ?_
  exact (positive_reports _ _).bind fun _ => (positive_reports _ _).bind fun _ => .ok _

/-- A document makes settings, or is refused with a fault that can be explained. -/
theorem ofDatum_reports (d : Datum) : Reports d.table (ofDatum d) := by
  unfold ofDatum
  split
  · next entries hentries => exact ofEntries_reports (Datum.held_of_entries hentries)
  · exact .error rfl

end Settings

end Chip8
