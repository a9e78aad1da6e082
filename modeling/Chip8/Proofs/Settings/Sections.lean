import Chip8.Proofs.Settings.Fields

/-!
# Sections of the wrong kind

The key map and the breakpoints are sections: mappings or lists inside the document. A section that counts as given must
be of its kind, or the document is refused. One that does not count as given is not looked at, so it is the same as
none: null, but also a truth value, a number or a collection of another kind that is false, zero or empty.

Main statement: `Settings.ofDatum_wrongSection`.
-/

namespace Chip8.Settings

/-- A field that is a collection. -/
inductive Section where
  | keyMap
  | breakpoints

namespace Section

def name : Section → Text
  | keyMap => "key_map"
  | breakpoints => "breakpoints"

/-- The value is a collection of the kind of the section. -/
def Fits (s : Section) (d : Datum) : Prop :=
  match s with
  | keyMap => d.entries?.isSome
  | breakpoints => d.items?.isSome

/-- The fault of a section of the wrong kind. -/
def fault : Section → SettingsFault
  | keyMap => .keyMapNotMapping
  | breakpoints => .breakpointsNotList

end Section

variable {entries entries' : List (Datum × Datum)} {d v : Datum} {field key : Text} {s : Section} {m : KeyMap}
  {fault : SettingsFault}

def isAbout (field : Text) (entry : Datum × Datum) : Bool :=
  match entry.1.value with
  | .text t => t = field
  | _ => false

/-- The entries without those about a field. -/
def without (field : Text) (entries : List (Datum × Datum)) : List (Datum × Datum) :=
  entries.filter fun entry => !isAbout field entry

theorem get?_cons {entry : Datum × Datum} :
    Datum.get? key (entry :: entries) = if isAbout key entry then some entry.2 else Datum.get? key entries := by
  rw [Datum.get?, isAbout]
  cases entry.1.value with
  | text t => by_cases h : t = key <;> simp [h]
  | _ => rfl

theorem isAbout_of_isAbout {entry : Datum × Datum} (h : isAbout field entry = true) :
    isAbout key entry = decide (field = key) := by
  unfold isAbout at h ⊢
  split at h
  · next t ht => rw [of_decide_eq_true h]
  · cases h

theorem get?_without :
    Datum.get? key (without field entries) = if field = key then none else Datum.get? key entries := by
  induction entries with
  | nil => exact (ite_self none).symm
  | cons entry entries ih =>
    unfold without at ih ⊢
    rw [List.filter_cons, get?_cons]
    split
    · next hother =>
      rw [get?_cons, ih]
      split
      · next hkey =>
        have hne : field ≠ key := by
          rintro rfl
          simp [hkey] at hother
        rw [if_neg hne]
      · rfl
    · next habout =>
      have hfield : isAbout field entry = true := by simpa using habout
      rw [ih, isAbout_of_isAbout hfield]
      by_cases hkey : field = key <;> simp [hkey]

/-! ## Sections that are judged and sections that are not -/

section Judged

variable [Room]

theorem ofEntries_keyMap_refused (h : keyMapOf (Datum.get? "key_map" entries) = .error fault) :
    ofEntries entries = .error fault := by
  unfold ofEntries
  dsimp only
  rw [h]
  rfl

theorem ofEntries_breakpoints_refused (hkeyMap : keyMapOf (Datum.get? "key_map" entries) = .ok m)
    (h : breakpointsOf (Datum.get? "breakpoints" entries) = .error fault) : ofEntries entries = .error fault := by
  unfold ofEntries
  dsimp only
  rw [hkeyMap, h]
  rfl

/-- Documents make the same settings if their sections are read alike and their other fields have the same values. -/
theorem ofEntries_congr
    (hkeyMap : keyMapOf (Datum.get? "key_map" entries) = keyMapOf (Datum.get? "key_map" entries'))
    (hbreakpoints : breakpointsOf (Datum.get? "breakpoints" entries)
      = breakpointsOf (Datum.get? "breakpoints" entries'))
    (hfields : ∀ field : Text, field ≠ "key_map" ∧ field ≠ "breakpoints" →
      Datum.get? field entries = Datum.get? field entries') :
    ofEntries entries = ofEntries entries' := by
  simp (disch := decide) only [ofEntries, hkeyMap, hbreakpoints, hfields]

theorem keyMapOf_wrong (h : v.entries? = none) :
    keyMapOf (some v) = if v.given then .error .keyMapNotMapping else keyMapOf none := by
  cases hgiven : v.given <;> simp [keyMapOf, Option.filter, hgiven, h]

theorem breakpointsOf_wrong (h : v.items? = none) :
    breakpointsOf (some v) = if v.given then .error .breakpointsNotList else breakpointsOf none := by
  cases hgiven : v.given <;> simp [breakpointsOf, Option.filter, hgiven, h]

/-- A section that is not of its kind but counts as given is a fault, unless the key map has one before it. -/
theorem ofEntries_given (hv : Datum.get? s.name entries = some v) (hwrong : ¬s.Fits v) (hgiven : v.given = true) :
    ofEntries entries = .error s.fault
      ∨ s = .breakpoints ∧ ∃ fault, ofEntries entries = .error fault
        ∧ keyMapOf (Datum.get? "key_map" entries) = .error fault := by
  cases s with
  | keyMap =>
    have hread := keyMapOf_wrong (Option.not_isSome_iff_eq_none.mp hwrong)
    rw [if_pos hgiven, ← hv] at hread
    exact .inl (ofEntries_keyMap_refused hread)
  | breakpoints =>
    have hread := breakpointsOf_wrong (Option.not_isSome_iff_eq_none.mp hwrong)
    rw [if_pos hgiven, ← hv] at hread
    -- the key map is read first, so a fault of its own comes before that of the breakpoints
    cases hkeyMap : keyMapOf (Datum.get? "key_map" entries) with
    | error fault => exact .inr ⟨rfl, fault, ofEntries_keyMap_refused hkeyMap, rfl⟩
    | ok m => exact .inl (ofEntries_breakpoints_refused hkeyMap hread)

theorem ofEntries_notGiven (hv : Datum.get? s.name entries = some v) (hwrong : ¬s.Fits v) (hgiven : v.given = false) :
    ofEntries entries = ofEntries (without s.name entries) := by
  have hother : ∀ field, s.name ≠ field → Datum.get? field entries = Datum.get? field (without s.name entries) := by
    intro field hfield
    rw [get?_without, if_neg hfield]
  -- without its entries the section is read as none, and so it is with a value that is not given
  have hsame : Datum.get? s.name (without s.name entries) = none := by rw [get?_without, if_pos rfl]
  cases s with
  | keyMap =>
    have hread := keyMapOf_wrong (Option.not_isSome_iff_eq_none.mp hwrong)
    rw [hgiven, if_neg Bool.false_ne_true, ← hv, ← hsame] at hread
    exact ofEntries_congr hread (congrArg _ (hother _ (by decide))) fun field h => hother field h.1.symm
  | breakpoints =>
    have hread := breakpointsOf_wrong (Option.not_isSome_iff_eq_none.mp hwrong)
    rw [hgiven, if_neg Bool.false_ne_true, ← hv, ← hsame] at hread
    exact ofEntries_congr (congrArg _ (hother _ (by decide))) hread fun field h => hother field h.2.symm

/-- A section that is not of its kind. If it counts as given, the document is refused: with the fault of the section,
which is reported, or if that section is the breakpoints with one that the key map has before it, which is reported
unless something that the document holds cannot be written where it is shown. If it does not count as given, it is the
same as none. -/
theorem ofDatum_wrongSection (hentries : d.entries? = some entries) (hv : Datum.get? s.name entries = some v)
    (hwrong : ¬s.Fits v) :
    (v.given = true → (ofDatum d = .error s.fault ∧ s.fault.isReported)
        ∨ s = .breakpoints ∧ ∃ fault, ofDatum d = .error fault
          ∧ keyMapOf (Datum.get? "key_map" entries) = .error fault ∧ Explained d.table fault)
      ∧ (v.given = false → ofDatum d = ofEntries (without s.name entries)) := by
  have hmade : ofDatum d = ofEntries entries := by
    unfold ofDatum
    rw [hentries]
  constructor
  · intro hgiven
    rcases ofEntries_given hv hwrong hgiven with hrefused | ⟨hs, fault, hrefused, hkeyMap⟩
    · exact .inl ⟨hmade.trans hrefused, by cases s <;> rfl⟩
    · exact .inr ⟨hs, fault, hmade.trans hrefused, hkeyMap, ofDatum_reports d fault (hmade.trans hrefused)⟩
  · intro hgiven
    exact hmade.trans (ofEntries_notGiven hv hwrong hgiven)

end Judged

/-- A document with one entry, whose value holds no others. -/
def singleDocument (field : Text) (value : Value) : Datum where
  value := .collection 0
  table := #[.map [(.text field, value)]]

/-- A text is no key map, and a zero is as good as no breakpoints. -/
theorem ofDatum_wrongSection_textAndZero :
    (ofDatum (singleDocument "key_map" (.text "Q")) = .error .keyMapNotMapping
        ∧ SettingsFault.keyMapNotMapping.isReported)
      ∧ ofDatum (singleDocument "breakpoints" (.int 0)) = .ok {} := by
  obtain ⟨hgiven, -⟩ := ofDatum_wrongSection (s := .keyMap) (d := singleDocument "key_map" (.text "Q"))
    rfl rfl Bool.false_ne_true
  obtain ⟨-, hnotGiven⟩ := ofDatum_wrongSection (s := .breakpoints) (d := singleDocument "breakpoints" (.int 0))
    rfl rfl Bool.false_ne_true
  have hkeyMap : Section.keyMap ≠ .breakpoints := nofun
  exact ⟨(hgiven rfl).resolve_right fun h => hkeyMap h.1, hnotGiven rfl⟩

/-- Not every section of the wrong kind that is there and not null is refused: a zero is not. -/
theorem zero_section_accepted : ¬∀ (d : Datum) (entries : List (Datum × Datum)) (s : Section) (v : Datum),
    d.entries? = some entries → Datum.get? s.name entries = some v → v.value ≠ .null → ¬s.Fits v →
      ∃ fault, ofDatum d = .error fault ∧ fault.isReported := by
  intro h
  have hmade : ofDatum (singleDocument "key_map" (.int 0)) = .ok {} := rfl
  obtain ⟨fault, hrefused, -⟩ :=
    h (singleDocument "key_map" (.int 0)) _ .keyMap _ rfl rfl nofun Bool.false_ne_true
  cases hmade.symm.trans hrefused

end Chip8.Settings
