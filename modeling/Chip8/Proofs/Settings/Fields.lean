import Chip8.CommandLine.Launch
import Chip8.Proofs.Settings.KeyMap
import Chip8.Proofs.Settings.OfDatum

/-!
# Fields and entries

A document describes settings if each field has what its own entry says, or its standard value without that entry: a
number that is positive, a file name that is not empty, the numbers of a list in their order, the standard key map with
the rows of a mapping bound one after the other, the text of a key name, and a colour as it stands. A document makes
settings if and only if it describes them.

A field is read from its entry alone, so two documents that say the same in one entry make settings that agree in its
field, whatever else they hold.

Main statements: `Settings.ofEntries_eq_ok_iff`, `Settings.described_alone`, `Settings.ofDatum_described`.
-/

namespace Chip8.Settings

open CommandLine

/-! ## What an entry says -/

/-- A field has what the value of its entry stands for, or without an entry its standard value. -/
def Says {α : Type} (stands : Datum → α → Prop) (standard : α) (entry : Option Datum) (a : α) : Prop :=
  match entry with
  | some d => stands d a
  | none => a = standard

/-- The value stands for a number that is positive. -/
def Counts (d : Datum) (n : Nat) : Prop := StandsFor d n ∧ 0 < n

/-- The value is a file name that is not empty. -/
def Names (d : Datum) (path : Text) : Prop := d.value = .text path ∧ path.isEmpty = false

/-- The value is a file name that is not empty, or null. -/
def MayName (d : Datum) : (path : Option Text) → Prop
  | none => d.value = .null
  | some path => Names d path

/-- The text of a value as a key name, if it can be written there. -/
def keyName? [Room] (d : Datum) : Option Text := d.shown? (Room.left .keyName)

/-- The value has the text as a key name. -/
def Shows [Room] (d : Datum) (name : Text) : Prop := keyName? d = some name

/-- The items that a document gives for its breakpoints: none without the section, or if that does not count as
given. -/
def listed? (entry : Option Datum) : Option (List Datum) :=
  match entry.filter Datum.given with
  | none => some []
  | some d => d.items?

/-- Settings in which every field has what its own entry says. -/
structure Describes [Room] (entries : List (Datum × Datum)) (s : Settings) : Prop where
  scale : Says Counts 10 (Datum.get? "scale" entries) s.scale
  cyclesPerSecond : Says Counts 700 (Datum.get? "cycles_per_second" entries) s.cyclesPerSecond
  timerHz : Says Counts 60 (Datum.get? "timer_hz" entries) s.timerHz
  historySize : Says Counts 64 (Datum.get? "history_size" entries) s.historySize
  fontPath : Says MayName none (Datum.get? "font_path" entries) s.fontPath
  dumpPath : Says Names "memdump.dmp" (Datum.get? "dump_path" entries) s.dumpPath
  breakpoints : ∃ items, listed? (Datum.get? "breakpoints" entries) = some items
    ∧ List.Forall₂ StandsFor items s.breakpoints
  keyMap : ∃ rows bindings, keyRows? (Datum.get? "key_map" entries) = some rows
    ∧ List.Forall₂ Binds rows bindings ∧ s.keyMap = standardKeyMap.bindAll bindings
  quitKey : Says Shows "Escape" (Datum.get? "quit_key" entries) s.quitKey
  stepKey : Says Shows "K" (Datum.get? "step_key" entries) s.stepKey
  dumpKey : Says Shows "M" (Datum.get? "dump_key" entries) s.dumpKey
  foreground : s.foreground = (Datum.get? "foreground" entries).getD (Value.text "#FFFFFF")
  background : s.background = (Datum.get? "background" entries).getD (Value.text "#000000")

/-- Settings that a system and its window can be made of. -/
structure Sound (s : Settings) : Prop where
  scale : 0 < s.scale
  cyclesPerSecond : 0 < s.cyclesPerSecond
  timerHz : 0 < s.timerHz
  historySize : 0 < s.historySize
  fontPath : ∀ path ∈ s.fontPath, path.isEmpty = false
  dumpPath : s.dumpPath.isEmpty = false
  keyMap : s.keyMap.names.Nodup

/-- What is read from the entry of a field. -/
def said {α : Type} (reading : Datum → α) (field : String) (entries : List (Datum × Datum)) : Option α :=
  (Datum.get? field entries).map reading

/-- The settings of two documents agree in each field for which the documents say the same. -/
structure AgreeWhereSame [Room] (entries entries' : List (Datum × Datum)) (s s' : Settings) : Prop where
  scale : said Datum.value "scale" entries = said Datum.value "scale" entries' → s.scale = s'.scale
  cyclesPerSecond : said Datum.value "cycles_per_second" entries = said Datum.value "cycles_per_second" entries' →
    s.cyclesPerSecond = s'.cyclesPerSecond
  timerHz : said Datum.value "timer_hz" entries = said Datum.value "timer_hz" entries' → s.timerHz = s'.timerHz
  historySize : said Datum.value "history_size" entries = said Datum.value "history_size" entries' →
    s.historySize = s'.historySize
  fontPath : said Datum.value "font_path" entries = said Datum.value "font_path" entries' → s.fontPath = s'.fontPath
  dumpPath : said Datum.value "dump_path" entries = said Datum.value "dump_path" entries' → s.dumpPath = s'.dumpPath
  breakpoints : (listed? (Datum.get? "breakpoints" entries)).map (List.map Datum.value)
      = (listed? (Datum.get? "breakpoints" entries')).map (List.map Datum.value) → s.breakpoints = s'.breakpoints
  keyMap : (keyRows? (Datum.get? "key_map" entries)).map (List.map fun row => (keyName? row.1, row.2.value))
      = (keyRows? (Datum.get? "key_map" entries')).map (List.map fun row => (keyName? row.1, row.2.value)) →
    s.keyMap = s'.keyMap
  quitKey : said keyName? "quit_key" entries = said keyName? "quit_key" entries' → s.quitKey = s'.quitKey
  stepKey : said keyName? "step_key" entries = said keyName? "step_key" entries' → s.stepKey = s'.stepKey
  dumpKey : said keyName? "dump_key" entries = said keyName? "dump_key" entries' → s.dumpKey = s'.dumpKey
  foreground : Datum.get? "foreground" entries = Datum.get? "foreground" entries' → s.foreground = s'.foreground
  background : Datum.get? "background" entries = Datum.get? "background" entries' → s.background = s'.background

/-! ## The readings of single values -/

section Value

variable {d : Datum} {field : String}

theorem shown_eq_ok_iff [Room] {name : Text} : shown .keyName d = .ok name ↔ Shows d name := by
  unfold shown Shows keyName? Datum.shown?
  cases d.shown (Room.left .keyName) <;> simp [Except.mapError, Except.toOption]

theorem path_eq_ok_iff {p : Text} : path field d = .ok p ↔ Names d p := by
  unfold path Names
  split
  · next t ht =>
    rw [ht, Value.text.injEq]
    split
    · next hempty =>
      refine ⟨nofun, ?_⟩
      rintro ⟨rfl, hfull⟩
      exact absurd hempty (by simp [hfull])
    · next hfull =>
      rw [Except.ok.injEq]
      constructor
      · rintro rfl
        exact ⟨rfl, Bool.eq_false_iff.mpr hfull⟩
      · exact And.left
  · next hother => exact ⟨nofun, fun ⟨ht, _⟩ => absurd ht (hother p)⟩

theorem optionalPath_eq_ok_iff {p : Option Text} : optionalPath field d = .ok p ↔ MayName d p := by
  unfold optionalPath
  split
  · next hnull => cases p <;> simp [MayName, Names, hnull]
  · next hother =>
    rw [map_eq_ok_iff]
    cases p with
    | none => simpa [MayName] using hother
    | some p => simp [MayName, path_eq_ok_iff]

theorem positive_eq_ok_iff {n : Int} {m : Nat} : positive field n = .ok m ↔ n = m ∧ 0 < m := by
  unfold positive
  split
  · rw [Except.ok.injEq]
    omega
  · refine ⟨nofun, fun h => ?_⟩
    omega

theorem breakpointsOf_eq_ok_iff [Room] {entry : Option Datum} {addresses : List Int} :
    breakpointsOf entry = .ok addresses
      ↔ ∃ items, listed? entry = some items ∧ List.Forall₂ StandsFor items addresses := by
  unfold breakpointsOf listed?
  cases entry.filter Datum.given with
  | none => simp
  | some d => cases hitems : d.items? <;> simp [hitems, mapM_eq_ok_iff, integer_eq_ok_iff]

end Value

/-! ## The readings of entries -/

section Entry

variable {α β : Type} {entry : Option Datum} {read : Datum → Except SettingsFault α} {stands : Datum → α → Prop}
  {standard a : α} {b : β}

theorem read_eq_ok_iff (hread : ∀ {d a}, read d = .ok a ↔ stands d a) :
    (match entry with | some d => read d | none => .ok standard) = .ok a ↔ Says stands standard entry a := by
  cases entry with
  | none => exact ⟨fun h => (Except.ok.inj h).symm, fun h => congrArg _ h.symm⟩
  | some d => exact hread

theorem read_bind_eq_ok_iff (hread : ∀ {d a}, read d = .ok a ↔ stands d a) {next : α → Except SettingsFault β} :
    (match entry with | some d => read d >>= next | none => pure standard >>= next) = .ok b
      ↔ ∃ a, Says stands standard entry a ∧ next a = .ok b := by
  cases entry with
  | none =>
    rw [bind_eq_ok_iff]
    exact exists_congr fun a => and_congr_left fun _ => ⟨fun h => (Except.ok.inj h).symm, fun h => congrArg _ h.symm⟩
  | some d =>
    rw [bind_eq_ok_iff]
    exact exists_congr fun a => and_congr_left fun _ => hread

/-- A number is read with its entry, and judged when all entries are read. -/
theorem says_counts_iff [Room] {field : String} {standard n : Nat} (hstandard : 0 < standard) :
    Says Counts standard entry n
      ↔ ∃ i : Int, (match entry with | some d => integer .number d | none => .ok (standard : Int)) = .ok i
        ∧ positive field i = .ok n := by
  simp only [read_eq_ok_iff integer_eq_ok_iff, positive_eq_ok_iff]
  cases entry with
  | none =>
    constructor
    · rintro rfl
      exact ⟨_, rfl, rfl, hstandard⟩
    · rintro ⟨_, rfl, h, -⟩
      exact (Int.ofNat.inj h).symm
  | some d =>
    constructor
    · intro ⟨hn, hpos⟩
      exact ⟨_, hn, rfl, hpos⟩
    · rintro ⟨_, hn, rfl, hpos⟩
      exact ⟨hn, hpos⟩

/-- A property of all that values stand for holds of the field if it holds of the standard value. -/
theorem Says.all {P : α → Prop} (h : Says stands standard entry a) (hstandard : P standard)
    (hstands : ∀ {d a}, stands d a → P a) : P a := by
  cases entry with
  | none =>
    cases h
    exact hstandard
  | some d => exact hstands h

end Entry

/-! ## Documents that make settings -/

variable {entries entries' : List (Datum × Datum)} {s s' : Settings} {d : Datum}

/-- Entries make settings if and only if they describe them. -/
theorem ofEntries_eq_ok_iff [Room] : ofEntries entries = .ok s ↔ Describes entries s := by
  unfold ofEntries
  constructor
  · intro h
    -- The parts in the order in which they are judged.
    obtain ⟨keyMap, hkeyMap, h⟩ := bind_eq_ok_iff.mp h
    obtain ⟨breakpoints, hbreakpoints, h⟩ := bind_eq_ok_iff.mp h
    obtain ⟨scale, hscale, h⟩ := bind_eq_ok_iff.mp h
    obtain ⟨cycles, hcycles, h⟩ := bind_eq_ok_iff.mp h
    obtain ⟨timers, htimers, h⟩ := bind_eq_ok_iff.mp h
    obtain ⟨fontPath, hfontPath, h⟩ := (read_bind_eq_ok_iff optionalPath_eq_ok_iff).mp h
    obtain ⟨dumpPath, hdumpPath, h⟩ := (read_bind_eq_ok_iff path_eq_ok_iff).mp h
    obtain ⟨history, hhistory, h⟩ := bind_eq_ok_iff.mp h
    obtain ⟨quitKey, hquitKey, h⟩ := bind_eq_ok_iff.mp h
    obtain ⟨stepKey, hstepKey, h⟩ := bind_eq_ok_iff.mp h
    obtain ⟨dumpKey, hdumpKey, h⟩ := bind_eq_ok_iff.mp h
    obtain ⟨scale, hscale', h⟩ := bind_eq_ok_iff.mp h
    obtain ⟨cycles, hcycles', h⟩ := bind_eq_ok_iff.mp h
    obtain ⟨timers, htimers', h⟩ := bind_eq_ok_iff.mp h
    obtain ⟨history, hhistory', h⟩ := bind_eq_ok_iff.mp h
    cases h
    exact {
      scale := (says_counts_iff (by decide)).mpr ⟨_, hscale, hscale'⟩
      cyclesPerSecond := (says_counts_iff (by decide)).mpr ⟨_, hcycles, hcycles'⟩
      timerHz := (says_counts_iff (by decide)).mpr ⟨_, htimers, htimers'⟩
      historySize := (says_counts_iff (by decide)).mpr ⟨_, hhistory, hhistory'⟩
      fontPath := hfontPath
      dumpPath := hdumpPath
      breakpoints := breakpointsOf_eq_ok_iff.mp hbreakpoints
      keyMap := keyMapOf_eq_ok_iff.mp hkeyMap
      quitKey := (read_eq_ok_iff shown_eq_ok_iff).mp hquitKey
      stepKey := (read_eq_ok_iff shown_eq_ok_iff).mp hstepKey
      dumpKey := (read_eq_ok_iff shown_eq_ok_iff).mp hdumpKey
      foreground := rfl
      background := rfl }
  · intro h
    obtain ⟨_, hscale, hscale'⟩ := (says_counts_iff (by decide)).mp h.scale
    obtain ⟨_, hcycles, hcycles'⟩ := (says_counts_iff (by decide)).mp h.cyclesPerSecond
    obtain ⟨_, htimers, htimers'⟩ := (says_counts_iff (by decide)).mp h.timerHz
    obtain ⟨_, hhistory, hhistory'⟩ := (says_counts_iff (by decide)).mp h.historySize
    refine bind_eq_ok_iff.mpr ⟨_, keyMapOf_eq_ok_iff.mpr h.keyMap, ?_⟩
    refine bind_eq_ok_iff.mpr ⟨_, breakpointsOf_eq_ok_iff.mpr h.breakpoints, ?_⟩
    refine bind_eq_ok_iff.mpr ⟨_, hscale, ?_⟩
    refine bind_eq_ok_iff.mpr ⟨_, hcycles, ?_⟩
    refine bind_eq_ok_iff.mpr ⟨_, htimers, ?_⟩
    refine (read_bind_eq_ok_iff optionalPath_eq_ok_iff).mpr ⟨_, h.fontPath, ?_⟩
    refine (read_bind_eq_ok_iff path_eq_ok_iff).mpr ⟨_, h.dumpPath, ?_⟩
    refine bind_eq_ok_iff.mpr ⟨_, hhistory, ?_⟩
    refine bind_eq_ok_iff.mpr ⟨_, (read_eq_ok_iff shown_eq_ok_iff).mpr h.quitKey, ?_⟩
    refine bind_eq_ok_iff.mpr ⟨_, (read_eq_ok_iff shown_eq_ok_iff).mpr h.stepKey, ?_⟩
    refine bind_eq_ok_iff.mpr ⟨_, (read_eq_ok_iff shown_eq_ok_iff).mpr h.dumpKey, ?_⟩
    refine bind_eq_ok_iff.mpr ⟨_, hscale', ?_⟩
    refine bind_eq_ok_iff.mpr ⟨_, hcycles', ?_⟩
    refine bind_eq_ok_iff.mpr ⟨_, htimers', ?_⟩
    refine bind_eq_ok_iff.mpr ⟨_, hhistory', ?_⟩
    rw [← h.foreground]
    exact congrArg (fun colour => Except.ok { s with background := colour }) h.background.symm

theorem ofDatum_eq_ok_iff [Room] : ofDatum d = .ok s ↔ ∃ entries, d.entries? = some entries ∧ Describes entries s := by
  unfold ofDatum
  split
  · next found hfound => simp [hfound, ofEntries_eq_ok_iff]
  · next hnone => simp [hnone]

theorem standardKeyMap_nodup : standardKeyMap.names.Nodup := by decide

theorem mayName_full {p : Option Text} (h : MayName d p) : ∀ path ∈ p, path.isEmpty = false := by
  rintro path ⟨⟩
  exact h.2

theorem Describes.sound [Room] (h : Describes entries s) : s.Sound := by
  obtain ⟨rows, bindings, -, -, hkeyMap⟩ := h.keyMap
  exact {
    scale := h.scale.all (by decide) And.right
    cyclesPerSecond := h.cyclesPerSecond.all (by decide) And.right
    timerHz := h.timerHz.all (by decide) And.right
    historySize := h.historySize.all (by decide) And.right
    fontPath := h.fontPath.all (P := fun p => ∀ path ∈ p, path.isEmpty = false) nofun mayName_full
    dumpPath := h.dumpPath.all (P := fun path => path.isEmpty = false) rfl And.right
    keyMap := hkeyMap ▸ KeyMap.nodup_bindAll standardKeyMap_nodup }

/-! ## Fields that depend on their entries alone -/

section Alone

variable {α β γ : Type}

/-- What is read in the same way stands for the same. -/
def Reads (reading : α → γ) (stands : α → β → Prop) : Prop :=
  ∀ {a a' b b'}, reading a = reading a' → stands a b → stands a' b' → b = b'

theorem reads_standsFor : Reads Datum.value StandsFor := by
  intro d d' n n' hvalue h h'
  rw [StandsFor, ← hvalue] at h'
  rcases h with h | ⟨t, ht, h⟩ <;> rcases h' with h' | ⟨t', ht', h'⟩
  · exact Value.int.inj (h.symm.trans h')
  · cases h.symm.trans ht'
  · cases ht.symm.trans h'
  · cases ht.symm.trans ht'
    exact Option.some.inj (h.symm.trans h')

theorem reads_counts : Reads Datum.value Counts :=
  fun hvalue h h' => Int.ofNat.inj (reads_standsFor hvalue h.1 h'.1)

theorem reads_names : Reads Datum.value Names :=
  fun hvalue h h' => Value.text.inj (h.1.symm.trans (hvalue.trans h'.1))

theorem reads_mayName : Reads Datum.value MayName := by
  intro d d' p p' hvalue h h'
  cases p with
  | none =>
    cases p' with
    | none => rfl
    | some path' => cases h.symm.trans (hvalue.trans h'.1)
  | some path =>
    cases p' with
    | none => cases h.1.symm.trans (hvalue.trans h')
    | some path' => exact congrArg some (reads_names hvalue h h')

theorem reads_shows [Room] : Reads keyName? Shows :=
  fun hshown h h' => Option.some.inj (h.symm.trans (hshown.trans h'))

theorem reads_binds [Room] : Reads (fun row : Datum × Datum => (keyName? row.1, row.2.value)) Binds := by
  intro row row' b b' hrow ⟨⟨name, hname, hupper⟩, hkey⟩ ⟨⟨name', hname', hupper'⟩, hkey'⟩
  obtain ⟨hshown, hvalue⟩ := Prod.mk.inj hrow
  have hsame : name = name' := reads_shows hshown (shown_eq_ok_iff.mp hname) (shown_eq_ok_iff.mp hname')
  refine Prod.ext ?_ (Fin.ext (Int.ofNat.inj (reads_standsFor hvalue hkey hkey')))
  rw [hupper, hupper', hsame]

theorem Says.alone {reading : Datum → γ} {stands : Datum → α → Prop} {standard a a' : α} {entry entry' : Option Datum}
    (hreads : Reads reading stands) (h : Says stands standard entry a) (h' : Says stands standard entry' a')
    (hsame : entry.map reading = entry'.map reading) : a = a' := by
  cases entry with
  | none =>
    cases entry' with
    | none => exact h.trans h'.symm
    | some d' => cases hsame
  | some d =>
    cases entry' with
    | none => cases hsame
    | some d' => exact hreads (Option.some.inj hsame) h h'

theorem forall₂_alone {reading : α → γ} {stands : α → β → Prop} (hreads : Reads reading stands) {l l' : List α}
    {bs bs' : List β} (h : List.Forall₂ stands l bs) (h' : List.Forall₂ stands l' bs')
    (hsame : l.map reading = l'.map reading) : bs = bs' := by
  induction h generalizing l' bs' with
  | nil =>
    cases h' with
    | nil => rfl
    | cons => cases hsame
  | cons hb hbs ih =>
    cases h' with
    | nil => cases hsame
    | cons hb' hbs' =>
      obtain ⟨hhead, htail⟩ := List.cons.inj hsame
      rw [hreads hhead hb hb', ih hbs' htail]

end Alone

/-- Where two documents say the same in an entry, the settings that they describe agree in its field. -/
theorem described_alone [Room] (h : Describes entries s) (h' : Describes entries' s') :
    AgreeWhereSame entries entries' s s' := by
  -- whatever two fields are read from, the same reading stands for the same value
  obtain ⟨items, hitems, hbreakpoints⟩ := h.breakpoints
  obtain ⟨items', hitems', hbreakpoints'⟩ := h'.breakpoints
  obtain ⟨rows, bindings, hrows, hbindings, hkeyMap⟩ := h.keyMap
  obtain ⟨rows', bindings', hrows', hbindings', hkeyMap'⟩ := h'.keyMap
  exact {
    scale := h.scale.alone reads_counts h'.scale
    cyclesPerSecond := h.cyclesPerSecond.alone reads_counts h'.cyclesPerSecond
    timerHz := h.timerHz.alone reads_counts h'.timerHz
    historySize := h.historySize.alone reads_counts h'.historySize
    fontPath := h.fontPath.alone reads_mayName h'.fontPath
    dumpPath := h.dumpPath.alone reads_names h'.dumpPath
    breakpoints := by
      rw [hitems, hitems']
      exact fun hsame => forall₂_alone reads_standsFor hbreakpoints hbreakpoints' (Option.some.inj hsame)
    keyMap := by
      rw [hrows, hrows', hkeyMap, hkeyMap']
      exact fun hsame => congrArg _ (forall₂_alone reads_binds hbindings hbindings' (Option.some.inj hsame))
    quitKey := h.quitKey.alone reads_shows h'.quitKey
    stepKey := h.stepKey.alone reads_shows h'.stepKey
    dumpKey := h.dumpKey.alone reads_shows h'.dumpKey
    foreground := fun hsame => by rw [h.foreground, h'.foreground, hsame]
    background := fun hsame => by rw [h.background, h'.background, hsame] }

/-! ## The settings of a document -/

/-- The window over settings whose timers tick is never refused because they do not. -/
theorem window_rate [Host.Toolkit] (hs : 0 < s.timerHz) (debugger : Debugger) (singleStep : Bool) (clock : Source Float)
    (disk : Source (Option FileFault)) :
    window s debugger singleStep clock disk ≠ .error (.vm .timerRate) := by
  have hrate : (s.timerHz : Int) ≠ 0 := by omega
  unfold window ControlLoop.everyHz
  rw [if_neg hrate]
  cases Host.View.ofSettings s with
  | error fault => exact nofun
  | ok view => split <;> exact nofun

/-- A document whose integers are not too long makes settings or is refused. It makes those that it describes: sound
ones, in which a name stands for the key of the last row that has it in upper case, or for its standard key, and in
which each field depends on its own entry alone. A refusal is reported, unless something that the document holds is
too deep to be shown. -/
theorem ofDatum_described [Room] [Host.Toolkit] (hlong : ¬Datum.HoldsLong d.table) :
    ((∃ s, ofDatum d = .ok s) ∨ ∃ fault, ofDatum d = .error fault ∧ (fault.isReported
        ∨ fault = .unwritable .tooDeep ∧ ∃ (site : Site) (item : Datum), item.HeldIn d.table
          ∧ item.Unwritable (Room.left site) .tooDeep))
      ∧ (∀ s, ofDatum d = .ok s ↔ ∃ entries, d.entries? = some entries ∧ Describes entries s)
      ∧ ∀ s entries, ofDatum d = .ok s → d.entries? = some entries → s.Sound
        ∧ (∃ rows bindings, keyRows? (Datum.get? "key_map" entries) = some rows ∧ List.Forall₂ Binds rows bindings
          ∧ ∀ name, s.keyMap.lookup name = (bindings.reverse.lookup name).or (standardKeyMap.lookup name))
        ∧ (∀ d' s' entries', ofDatum d' = .ok s' → d'.entries? = some entries' →
          AgreeWhereSame entries entries' s s')
        ∧ ∀ debugger singleStep clock disk,
          window s debugger singleStep clock disk ≠ .error (.vm .timerRate) := by
  refine ⟨?_, fun s => ofDatum_eq_ok_iff, ?_⟩
  · cases hresult : ofDatum d with
    | ok s => exact .inl ⟨s, rfl⟩
    | error fault =>
      refine .inr ⟨fault, rfl, ?_⟩
      cases ofDatum_reports d fault hresult with
      | reported h => exact .inl h
      | @unwritable textFault site item hitem h =>
        cases textFault with
        -- the table holds no such integer
        | longInteger => exact absurd h (hitem.short hlong)
        | tooDeep => exact .inr ⟨rfl, site, item, hitem, h⟩
  · intro s entries hs hentries
    have hdescribes : ∀ {d s entries}, ofDatum d = .ok s → d.entries? = some entries → Describes entries s := by
      intro d s entries hs hentries
      obtain ⟨found, hfound, h⟩ := ofDatum_eq_ok_iff.mp hs
      exact Option.some.inj (hfound.symm.trans hentries) ▸ h
    have h := hdescribes hs hentries
    obtain ⟨rows, bindings, hrows, hbindings, hkeyMap⟩ := h.keyMap
    refine ⟨h.sound, ⟨rows, bindings, hrows, hbindings, fun name => ?_⟩, ?_, window_rate h.sound.timerHz⟩
    · rw [hkeyMap]
      exact KeyMap.lookup_bindAll
    · exact fun d' s' entries' hs' hentries' => described_alone h (hdescribes hs' hentries')

/-- A document with numbers of both kinds, a key bound twice, a null, and an entry that is about no field. -/
def mixedDocument : Datum where
  value := .collection 0
  table := #[
    .map [(.text "scale", .text "0x20"), (.text "key_map", .collection 1), (.text "breakpoints", .collection 2),
      (.text "font_path", .null), (.text "colour", .collection 2)],
    .map [(.text "q", .int 1), (.text "Q", .text "0xB")],
    .list [.text "0x200", .int 516]]

/-- The document makes settings, with a number in base sixteen, the breakpoints in their order, and the later of the two
keys. -/
theorem ofDatum_described_mixed :
    ¬Datum.HoldsLong mixedDocument.table
      ∧ ∃ s, ofDatum mixedDocument = .ok s ∧ s.scale = 32 ∧ s.breakpoints = [0x200, 516]
        ∧ s.keyMap.lookup (Text.ofString "Q") = some 0xB ∧ s.Sound
        ∧ ∀ debugger singleStep clock disk, window s debugger singleStep clock disk ≠ .error (.vm .timerRate) := by
  have hshort : ∀ c ∈ mixedDocument.table, ∀ v ∈ c.values, ∀ n : Int, v = .int n → n = 1 ∨ n = 516 := by
    simp [mixedDocument, Collection.values, eq_comm]
  have hlong : ¬Datum.HoldsLong mixedDocument.table := by
    rintro ⟨c, hc, v, hv, n, hn, hlength⟩
    rcases hshort c hc v hv n hn with rfl | rfl
    · exact absurd hlength (by decide +kernel)
    · exact absurd hlength (by decide +kernel)
  have hmade : (fun s : Settings => (s.scale, s.breakpoints, s.keyMap.lookup (Text.ofString "Q")))
      <$> ofDatum mixedDocument = .ok (32, [0x200, 516], some 0xB) := by decide +kernel
  obtain ⟨s, hs, hfields⟩ := map_eq_ok_iff.mp hmade
  obtain ⟨-, hdescribed, hgood⟩ := ofDatum_described hlong
  obtain ⟨entries, hentries, -⟩ := (hdescribed s).mp hs
  obtain ⟨hsound, -, -, hwindow⟩ := hgood s entries hs hentries
  obtain ⟨hscale, hrest⟩ := Prod.mk.inj hfields
  obtain ⟨hbreakpoints, hkey⟩ := Prod.mk.inj hrest
  exact ⟨hlong, s, hs, hscale, hbreakpoints, hkey, hsound, hwindow⟩

theorem ofDatum_nested [Room] {levels : Nat} (h : Room.left .number < levels) :
    ofDatum (Datum.nestedDocument "scale" levels) = .error (.unwritable .tooDeep) := by
  have hscale : integer .number (Datum.nestedLists "scale" levels) = .error (.unwritable .tooDeep) := by
    rw [integer_collection rfl, Datum.nested_tooDeep h]
  have hget : Datum.get? "scale" [({ Datum.nestedDocument "scale" levels with value := .text "scale" },
    Datum.nestedLists "scale" levels)] = some (Datum.nestedLists "scale" levels) := rfl
  show ofEntries [({ Datum.nestedDocument "scale" levels with value := .text "scale" },
    Datum.nestedLists "scale" levels)] = _
  simp only [ofEntries, hget, hscale]
  rfl

/-- Not every document without long integers makes settings or is refused with a reported fault: a thousand lists inside
each other are too deep to be shown as a number. -/
theorem nested_scale_unreported : ¬∀ d : Datum, ¬Datum.HoldsLong d.table →
    (∃ s, ofDatum d = .ok s) ∨ ∃ fault, ofDatum d = .error fault ∧ fault.isReported := by
  intro h
  have hnested : ofDatum (Datum.nestedDocument "scale" 1000) = .error (.unwritable .tooDeep) :=
    ofDatum_nested (by decide)
  rcases h _ Datum.nested_short with ⟨s, hs⟩ | ⟨fault, hfault, hreported⟩
  · cases hnested.symm.trans hs
  · cases hnested.symm.trans hfault
    cases hreported

end Chip8.Settings
