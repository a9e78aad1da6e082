import Chip8.CommandLine.Launch
import Chip8.Proofs.Settings.OfDatum

/-!
# Which settings files are reported

Every settings file gives settings or a fault, whatever reads its document. A fault is reported to the user but for
two kinds that nobody expected: the reader can have a fault other than that the text is no document, as for bytes that
are no text, and something that the document holds can be impossible to write where it is shown.

Main statement: `Settings.ofFile_reported`.
-/

namespace Chip8.Settings

open CommandLine

/-- The faults of a settings file that are not reported, each with what the file makes of itself. -/
inductive Unforeseen [Room] (read : DocumentReader) (data : List UInt8) : SettingsFileFault → Prop
  | reader {fault : Yaml.Fault} (h : read data = .error fault) (hother : fault ≠ .malformed) :
      Unforeseen read data (.document fault)
  | unwritable {d item : Datum} {site : Site} {fault : TextFault} (h : read data = .ok (some d))
      (hitem : item.HeldIn d.table) (hreason : item.Unwritable (Room.left site) fault) :
      Unforeseen read data (.ofSettings (.unwritable fault))

/-- A reader that has no other fault for a text than that it is no document. -/
def ReadsTexts (read : DocumentReader) : Prop :=
  ∀ data fault, (String.fromUTF8? ⟨data.toArray⟩).isSome → read data = .error fault → fault = .malformed

theorem reported?_ofSettings {refused : SettingsFault} (h : refused.isReported) :
    (LaunchFault.settings (.ofSettings refused)).reported? = some refused.message := by
  cases refused with
  | unwritable | unpaintable => cases h
  | _ => rfl

section Reported

variable [Room] {read : DocumentReader} {data : List UInt8}

theorem ofEntries_nil : ofEntries [] = .ok {} := rfl

theorem Unforeseen.reported? {fault : SettingsFileFault} (h : Unforeseen read data fault) :
    (LaunchFault.settings fault).reported? = none := by
  cases h with
  | reader => rfl
  | @unwritable _ _ _ fault => cases fault <;> rfl

/-- If a reader has no other fault for a text, then only bytes that are no text and values that cannot be written are
left. -/
theorem Unforeseen.of_readsTexts (hread : ReadsTexts read) {fault : SettingsFileFault}
    (h : Unforeseen read data fault) :
    String.fromUTF8? ⟨data.toArray⟩ = none ∨ ∃ reason, fault = .ofSettings (.unwritable reason) := by
  cases h with
  | unwritable => exact .inr ⟨_, rfl⟩
  | reader h hother =>
    refine .inl (Option.not_isSome_iff_eq_none.mp fun htext => ?_)
    exact hother (hread data _ htext h)

/-- What the document of a file is refused with is reported, or the file holds what cannot be written. -/
theorem refused_reported {d : Datum} {refused : SettingsFault} (h : read data = .ok (some d))
    (hrefused : (if d.value.isNull then ofEntries [] else ofDatum d) = .error refused) :
    (LaunchFault.settings (.ofSettings refused)).reported?.isSome ∨ Unforeseen read data (.ofSettings refused) := by
  split at hrefused
  · cases ofEntries_nil.symm.trans hrefused
  · cases ofDatum_reports d refused hrefused with
    | reported hreported => exact .inl (Option.isSome_of_eq_some (reported?_ofSettings hreported))
    | unwritable hitem hreason => exact .inr (.unwritable h hitem hreason)

theorem reported_or_unforeseen {path : Text} {fault : SettingsFileFault} (h : ofFile path data read = .error fault) :
    (LaunchFault.settings fault).reported?.isSome ∨ Unforeseen read data fault := by
  unfold ofFile at h
  split at h
  · cases h
    exact .inl rfl
  · next f hother hread =>
    cases h
    exact .inr (.reader hread hother)
  · rw [ofEntries_nil] at h
    cases h
  · next d hread =>
    obtain ⟨refused, hrefuses, rfl⟩ := mapError_eq_error h
    exact refused_reported hread hrefuses

/-- Whatever bytes a settings file holds and whatever reads its document, they make settings or a fault, and the fault
is reported to the user unless nobody expected it: the reader has a fault of another kind than that there is no
document, or the document holds what cannot be written where it is shown. If the reader has no such fault for a text,
the bytes are no text or it is a value that cannot be written. -/
theorem ofFile_reported (read : DocumentReader) (path : Text) (data : List UInt8) :
    (∃ settings, ofFile path data read = .ok settings)
      ∨ ∃ fault, ofFile path data read = .error fault
        ∧ ((LaunchFault.settings fault).reported?.isSome ↔ ¬Unforeseen read data fault)
        ∧ (ReadsTexts read → Unforeseen read data fault →
          String.fromUTF8? ⟨data.toArray⟩ = none ∨ ∃ reason, fault = .ofSettings (.unwritable reason)) := by
  cases hfile : ofFile path data read with
  | ok settings => exact .inl ⟨settings, rfl⟩
  | error fault =>
    refine .inr ⟨fault, rfl, ⟨fun hreported hunforeseen => ?_, (reported_or_unforeseen hfile).resolve_right⟩,
      fun hread h => h.of_readsTexts hread⟩
    rw [hunforeseen.reported?] at hreported
    cases hreported

end Reported

/-- A byte that no text has is not reported. -/
theorem ofFile_stray_byte : ofFile "c.yaml" [0xff] = .error (.document .notText)
    ∧ (LaunchFault.settings (.document .notText)).reported? = none := ⟨rfl, rfl⟩

end Chip8.Settings
