import Chip8.Proofs.Host.KeyMap
import Chip8.Proofs.Host.Keys
import Chip8.Proofs.Settings.Sections

/-!
# Control keys among other keys

The names of the key map and of the three control keys are chosen freely, so several of them can stand for one key of
the keyboard. Of the names in a table the last one counts, and the key map comes before the control keys. So a control
key whose name is known always means one event, but only its own if no name of the key map and no later control key
stands for the same key. The standard names of the pad are in every key map.

Main statements: `entry?_eq_named?`, `known_of_checkKeys`, `control_key_heard`.
-/

namespace Chip8.Host

variable {settings : Settings} {view : View} {code : Int}

/-! ## The last name that stands for a key -/

section Named

variable [Toolkit] {α : Type} {names before later : List (Text × α)} {name : Text} {a : α}

/-- What the last of the names is for that stands for the key with a code. -/
def named? (code : Int) (names : List (Text × α)) : Option α :=
  (names.reverse.find? fun p => isNamed p.1 code).map Prod.snd

theorem named?_cons : named? code ((name, a) :: names)
    = (named? code names).or (if isNamed name code then some a else none) := by
  unfold named?
  rw [List.reverse_cons, List.find?_append, Option.map_or, List.find?_singleton]
  by_cases h : isNamed name code = true <;> simp [h]

theorem named?_append : named? code (before ++ later) = (named? code later).or (named? code before) := by
  unfold named?
  rw [List.reverse_append, List.find?_append, Option.map_or]

theorem isNamed_eq_false_iff {code : Nat} : isNamed name code = false ↔ resolve name ≠ .ok code := by
  rw [← Bool.not_eq_true, isNamed_iff, not_iff_not]
  exact ⟨fun ⟨c, hc, hcode⟩ => Int.ofNat_inj.mp hcode ▸ hc, fun h => ⟨code, h, rfl⟩⟩

theorem named?_eq_none_iff {code : Nat} : named? code names = none ↔ ∀ p ∈ names, resolve p.1 ≠ .ok code := by
  simp [named?, isNamed_eq_false_iff]

theorem mem_of_named? (h : named? code names = some a) : ∃ p ∈ names, isNamed p.1 code = true ∧ p.2 = a := by
  obtain ⟨p, hfind, rfl⟩ := Option.map_eq_some_iff.mp h
  have hnamed := List.find?_some hfind
  exact ⟨p, List.mem_reverse.mp (List.mem_of_find?_eq_some hfind), hnamed, rfl⟩

/-- In a table of the codes of names, the entry for a code is that of the last name that stands for its key. -/
theorem entry?_eq_named? {codes : List (Nat × α)}
    (h : codes.map some = names.map fun p => (resolve p.1).toOption.map fun c => (c, p.2)) :
    View.entry? codes code = named? code names := by
  induction names generalizing codes with
  | nil =>
    cases List.map_eq_nil_iff.mp h
    rfl
  | cons p names ih =>
    cases codes with
    | nil => cases h
    | cons c codes =>
      obtain ⟨hhead, htail⟩ := List.cons.inj h
      obtain ⟨n, hn, rfl⟩ := Option.map_eq_some_iff.mp hhead.symm
      rw [entry?_cons, named?_cons, ih htail]
      have hcode : isNamed p.1 code = decide ((n : Int) = code) := by
        cases hresolve : resolve p.1 with
        | error fault =>
          rw [hresolve] at hn
          cases hn
        | ok m =>
          rw [hresolve] at hn
          cases hn
          simp [isNamed, hresolve]
      by_cases hn : (n : Int) = code <;> simp [hcode, hn]

end Named

/-! ## Settings whose names are known -/

/-- The control keys of settings, with the events that they ask for, in the order of their table. -/
def controls (settings : Settings) : List (Text × InputEvent) :=
  [(settings.quitKey, .quit), (settings.stepKey, .step), (settings.dumpKey, .dump)]

theorem known_of_forIn [Toolkit] {names : List Text} {u : PUnit} (h : forIn names PUnit.unit judged = .ok u) :
    ∀ n ∈ names, ∃ c, resolve n = .ok c := by
  induction names with
  | nil => exact List.forall_mem_nil _
  | cons n names ih =>
    rw [List.forIn_cons] at h
    obtain ⟨_, hstep, hrest⟩ := bind_eq_ok_iff.mp h
    obtain ⟨c, hc, hyield⟩ := bind_eq_ok_iff.mp hstep
    cases hyield
    exact List.forall_mem_cons.mpr ⟨⟨c, hc⟩, ih hrest⟩

/-- Settings whose names are found good have only names that are known. -/
theorem known_of_checkKeys [Toolkit] (h : checkKeys settings = .ok ()) :
    ∀ n ∈ namesOf settings, ∃ c, resolve n = .ok c := by
  rw [checkKeys_eq] at h
  obtain ⟨_, hloop, -⟩ := bind_eq_ok_iff.mp h
  exact known_of_forIn hloop

theorem entry_pad [Toolkit] (h : View.Codes settings view) :
    View.entry? view.padCodes code = named? code settings.keyMap :=
  entry?_eq_named? h.pad

theorem entry_controls [Toolkit] (h : View.Codes settings view) :
    View.entry? view.controlCodes code = named? code (controls settings) := by
  obtain ⟨quit, step, dump, hquit, hstep, hdump, hcodes⟩ := h.controls
  apply entry?_eq_named?
  rw [hcodes]
  simp [controls, hquit, hstep, hdump, Except.toOption]

/-! ## What a control key means -/

/-- A view that has the tables of another, at any time of its life. -/
structure SameKeys (v w : View) : Prop where
  pad : w.padCodes = v.padCodes
  controls : w.controlCodes = v.controlCodes

/-- Going down, the key with a code puts one event into the queue. -/
def Hears (view : View) (code : Int) (event : InputEvent) : Prop :=
  ∀ (v : View) (s : Stroke), SameKeys view v → s.code = code → s.pressed = true → s.repeated = false →
    v.take s = (true, { v with queue := v.queue ++ [event] })

theorem hears_of_event {event : InputEvent}
    (h : (match View.entry? view.padCodes code with
      | some key => some (.key key.val true)
      | none => View.entry? view.controlCodes code) = some event) : Hears view code event := by
  intro v s hsame hcode hpressed hfirst
  have hevent : v.event? s = some event := by
    rw [View.event?, hsame.pad, hsame.controls, hcode, hpressed]
    exact h
  rw [View.take, hfirst, hevent]
  rfl

variable {before later : List (Text × InputEvent)} {name : Text} {event : InputEvent} {d : Datum}

/-- The events of the control keys are apart, and none is one of a key of the pad. -/
theorem ne_event_of_later (h : controls settings = before ++ (name, event) :: later) :
    (∀ c ∈ later, c.2 ≠ event) ∧ ∀ k pressed, event ≠ .key k pressed := by
  have hevents : [.quit, .step, .dump] = before.map Prod.snd ++ event :: later.map Prod.snd := by
    simpa [controls] using congrArg (List.map Prod.snd) h
  have hapart : (before.map Prod.snd ++ event :: later.map Prod.snd).Nodup := hevents ▸ (by decide)
  have hmem : event ∈ [InputEvent.quit, .step, .dump] := hevents ▸ List.mem_append_right _ List.mem_cons_self
  constructor
  · intro c hc heq
    have hfresh := (List.nodup_cons.mp (List.nodup_append.mp hapart).2.1).1
    exact hfresh (List.mem_map.mpr ⟨c, hc, heq⟩)
  · rintro k pressed rfl
    simp at hmem

/-- In settings that were accepted and whose names were found good, every control key means one event when it goes
down in the view that they describe: the key of the pad that the last name of the key map has which stands for the
same key, if there is one, and else the event of the last control key that stands for it. So it means its own event if
and only if no name of the key map and no later control key stands for the same key. -/
theorem control_key_heard [Settings.Room] [Toolkit] (hmade : Settings.ofDatum d = .ok settings)
    (hkeys : checkKeys settings = .ok ()) (hview : View.ofSettings settings = .ok view) :
    standardKeyMap.names ⊆ settings.keyMap.names
      ∧ ∀ before name event later, controls settings = before ++ (name, event) :: later →
        ∃ code heard, resolve name = .ok code ∧ Hears view code heard
          ∧ (∀ key, named? code settings.keyMap = some key → heard = .key key.val true)
          ∧ (named? code settings.keyMap = none → heard = (named? code later).getD event)
          ∧ (heard = event ↔ (∀ p ∈ settings.keyMap, resolve p.1 ≠ .ok code)
            ∧ ∀ c ∈ later, resolve c.1 ≠ .ok code) := by
  obtain ⟨entries, -, hdescribes⟩ := Settings.ofDatum_eq_ok_iff.mp hmade
  obtain ⟨rows, bindings, -, -, hkeyMap⟩ := hdescribes.keyMap
  have hknown := known_of_checkKeys hkeys
  have hcodes := View.ofSettings_codes hview
  refine ⟨hkeyMap ▸ KeyMap.names_subset_bindAll, ?_⟩
  intro before name event later hcontrols
  obtain ⟨hapart, hother⟩ := ne_event_of_later hcontrols
  have hname : name ∈ namesOf settings := by
    have hmem : (name, event) ∈ controls settings := hcontrols ▸ List.mem_append_right _ List.mem_cons_self
    exact List.mem_append_right _ (List.mem_map_of_mem (f := Prod.fst) hmem)
  obtain ⟨code, hcode⟩ := hknown name hname
  -- the control key is in its table, so the table has an entry for its code
  have hcontrol : View.entry? view.controlCodes code = some ((named? code later).getD event) := by
    have hnamed : isNamed name code = true := isNamed_iff.mpr ⟨code, hcode, rfl⟩
    rw [entry_controls hcodes, hcontrols, named?_append, named?_cons, hnamed]
    cases named? (code : Int) later <;> rfl
  cases hkey : named? (code : Int) settings.keyMap with
  | some key =>
    refine ⟨code, .key key.val true, hcode, hears_of_event ?_, ?_, ?_, ?_⟩
    · rw [entry_pad hcodes, hkey]
    · intro key' hkey'
      cases hkey.symm.trans hkey'
      rfl
    · intro hnone
      cases hkey.symm.trans hnone
    · refine ⟨fun h => absurd h.symm (hother _ _), fun ⟨hpad, _⟩ => ?_⟩
      cases hkey.symm.trans (named?_eq_none_iff.mpr hpad)
  | none =>
    refine ⟨code, (named? code later).getD event, hcode, hears_of_event ?_, ?_, fun _ => rfl, ?_⟩
    · rw [entry_pad hcodes, hkey]
      exact hcontrol
    · intro key hsome
      cases hkey.symm.trans hsome
    · rw [← named?_eq_none_iff, ← named?_eq_none_iff, hkey]
      cases hlater : named? (code : Int) later with
      | none => simp
      | some other =>
        obtain ⟨c, hc, -, rfl⟩ := mem_of_named? hlater
        simpa using hapart c hc

/-- A document that names one key of the keyboard for steps and for dumps. -/
def doubledDocument : Datum where
  value := .collection 0
  table := #[.map [(.text "step_key", .text "Tab"), (.text "dump_key", .text "Tab")]]

/-- The key asks for a dump, and the key to quit is heard as such. -/
theorem control_key_heard_doubled : ∃ settings view, Settings.ofDatum doubledDocument = .ok settings
    ∧ checkKeys settings = .ok () ∧ View.ofSettings settings = .ok view
    ∧ Hears view 0x1000000 .quit ∧ Hears view 0x1000001 .dump := by
  have hmade : Settings.ofDatum doubledDocument = .ok { stepKey := "Tab", dumpKey := "Tab" } := rfl
  have hkeys : checkKeys { stepKey := "Tab", dumpKey := "Tab" } = .ok () := by decide +kernel
  obtain ⟨view, hview, -⟩ := ofSettings_known ⟨rfl, rfl, rfl⟩ (known_of_checkKeys hkeys)
  obtain ⟨-, hheard⟩ := control_key_heard hmade hkeys hview
  obtain ⟨quit, heard, hquit, hhears, -, hother, -⟩ := hheard [] "Escape" .quit _ rfl
  obtain ⟨step, heard', hstep, hhears', -, hother', -⟩ := hheard [("Escape", .quit)] "Tab" .step _ rfl
  have hescape : resolve "Escape" = .ok 0x1000000 := by decide +kernel
  have htab : resolve "Tab" = .ok 0x1000001 := by decide +kernel
  cases hescape.symm.trans hquit
  cases htab.symm.trans hstep
  have hquitHeard : heard = .quit := by
    rw [hother (by decide +kernel)]
    decide +kernel
  have hstepHeard : heard' = .dump := by
    rw [hother' (by decide +kernel)]
    decide +kernel
  exact ⟨_, view, hmade, hkeys, hview, hquitHeard ▸ hhears, hstepHeard ▸ hhears'⟩

/-- Not every accepted key to quit asks to quit: one that is on the pad is that key of the pad. -/
theorem quit_key_on_pad : ¬∀ (d : Datum) (settings : Settings) (view : View) (code : Nat),
    Settings.ofDatum d = .ok settings → checkKeys settings = .ok () → View.ofSettings settings = .ok view →
      resolve settings.quitKey = .ok code → (view.take { code, pressed := true }).2.queue = [.quit] := by
  intro h
  have hmade : Settings.ofDatum (Settings.singleDocument "quit_key" (.text "Q")) = .ok { quitKey := "Q" } := rfl
  have hkeys : checkKeys { quitKey := "Q" } = .ok () := by decide +kernel
  have hview : View.ofSettings { quitKey := "Q" } = .ok { View.standard with
    controlCodes := [(0x51, .quit), (0x4b, .step), (0x4d, .dump)] } := rfl
  have hcode : resolve "Q" = .ok 0x51 := by decide +kernel
  have hqueue := h _ _ _ _ hmade hkeys hview hcode
  cases hqueue

end Chip8.Host
