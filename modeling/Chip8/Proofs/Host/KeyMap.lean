import Chip8.Proofs.Action
import Chip8.Proofs.Host.KeyName
import Chip8.Proofs.Host.View
import Chip8.Settings.OfDatum

/-!
# Mapping a key by its name

Settings keep the names of a key map in upper case, and those of the control keys as they are written. So a key can be
mapped by any name that is known in upper case; one that counts only as it is written, such as that of the escape key,
is refused in a key map. That holds for every toolkit whose names are plain and that the standard settings can be shown
with.

Main statements: `entry?_bind`, `ofSettings_known`, `key_mapped`, `escape_not_mapped`.
-/

namespace Chip8

namespace Host

variable {name : Text} {code : Nat} {key : Nibble}

/-! ## One name more in a key map -/

section Bind

variable {m : KeyMap} {f : Text → Nat}

theorem mem_bind {p : Text × Nibble} (h : p ∈ m.bind name key) : p ∈ m ∨ p = (name, key) := by
  induction m with
  | nil => exact .inr (List.mem_singleton.mp h)
  | cons q m ih =>
    unfold KeyMap.bind at h
    split at h
    · next hq =>
      rcases List.mem_cons.mp h with hp | hp
      · exact .inr (hp.trans (by rw [hq]))
      · exact .inl (List.mem_cons_of_mem q hp)
    · rcases List.mem_cons.mp h with rfl | hp
      · exact .inl List.mem_cons_self
      · exact (ih hp).imp_left (List.mem_cons_of_mem q)

theorem bind_fresh (h : ∀ p ∈ m, p.1 ≠ name) : m.bind name key = m ++ [(name, key)] := by
  induction m with
  | nil => rfl
  | cons p m ih =>
    unfold KeyMap.bind
    rw [if_neg (h p List.mem_cons_self), ih fun q hq => h q (List.mem_cons_of_mem p hq)]
    rfl

theorem entry?_cons {α : Type} {codes : List (Nat × α)} {c : Nat} {a : α} {n : Int} :
    View.entry? ((c, a) :: codes) n = (View.entry? codes n).or (if c = n then some a else none) := by
  unfold View.entry?
  rw [List.reverse_cons, List.find?_append, Option.map_or, List.find?_singleton]
  by_cases hc : (c : Int) = n
  · simp only [hc, decide_true, if_true, Option.map_some]
  · simp only [hc, decide_false, Bool.false_eq_true, if_false, Option.map_none]

theorem entry?_of_not_mem {α : Type} {codes : List (Nat × α)} {c : Nat} (h : c ∉ codes.map Prod.fst) :
    View.entry? codes c = none := by
  apply Option.eq_none_iff_forall_ne_some.mpr
  intro a ha
  obtain ⟨c', hc', hmem⟩ := View.mem_of_entry? ha
  obtain rfl : c' = c := Int.ofNat_inj.mp hc'
  exact h (List.mem_map_of_mem hmem)

/-- The key that was bound to a name last counts for its code, if the other names have other codes. -/
theorem entry?_bind (hdistinct : (m.map fun p => f p.1).Nodup) :
    View.entry? ((m.bind name key).map fun p => (f p.1, p.2)) (f name) = some key := by
  induction m with
  | nil =>
    rw [KeyMap.bind, List.map_singleton, entry?_cons, if_pos rfl]
    rfl
  | cons p m ih =>
    rw [List.map_cons, List.nodup_cons] at hdistinct
    obtain ⟨hfresh, hrest⟩ := hdistinct
    unfold KeyMap.bind
    split
    -- no later name stands for the same code, so this entry is the one found
    · next hname =>
      have hnone : View.entry? (m.map fun p => (f p.1, p.2)) (f name) = none := by
        apply entry?_of_not_mem
        rw [List.map_map, ← hname]
        exact hfresh
      rw [List.map_cons, entry?_cons, hnone, hname, if_pos rfl]
      rfl
    · rw [List.map_cons, entry?_cons, ih hrest]
      rfl

end Bind

/-- A document with a key map of one entry. -/
def keyMapDocument (name : Text) (key : Int) : Datum where
  value := .collection 0
  table := #[.map [(.text "key_map", .collection 1)], .map [(.text name, .int key)]]

theorem ofInt?_nibble (key : Nibble) : Nibble.ofInt? key.val = some key := by
  unfold Nibble.ofInt?
  rw [dif_pos (by omega)]
  rfl

theorem keyMapOf_document [Settings.Room] :
    Settings.keyMapOf (some { keyMapDocument name key with value := .collection 1 })
      = .ok (standardKeyMap.bind name.upper key) := by
  show (do
    let k ← Settings.padKey { keyMapDocument name key with value := .text name }
      { keyMapDocument name key with value := .int key.val }
    Settings.bindKeys (standardKeyMap.bind name.upper k) []) = _
  have hkey : Settings.padKey { keyMapDocument name key with value := .text name }
      { keyMapDocument name key with value := .int key.val } = .ok key := by
    unfold Settings.padKey Settings.integer
    dsimp only [bind, Except.bind]
    rw [ofInt?_nibble]
    rfl
  rw [hkey]
  rfl

/-- If the key map is all that a document tells, all else is standard. -/
theorem ofEntries_keyMap [Settings.Room] (table : Array Collection) (d : Datum) :
    Settings.ofEntries [({ value := .text "key_map", table }, d)]
      = (Settings.keyMapOf (some d)).map fun keyMap => { keyMap } := by
  have hkeyMap : Datum.get? "key_map" [({ value := .text "key_map", table }, d)] = some d := rfl
  simp only [Settings.ofEntries, hkeyMap]
  cases Settings.keyMapOf (some d) with
  | error fault => rfl
  | ok keyMap => rfl

theorem ofDatum_keyMapDocument [Settings.Room] (name : Text) (key : Nibble) :
    Settings.ofDatum (keyMapDocument name key.val) = .ok { keyMap := standardKeyMap.bind name.upper key } := by
  show Settings.ofEntries [({ keyMapDocument name key.val with value := .text "key_map" },
    { keyMapDocument name key.val with value := .collection 1 })] = _
  rw [ofEntries_keyMap, keyMapOf_document]
  rfl

/-- The key of the keyboard with a code going up and down is that of the pad going up and down. -/
def View.Maps (view : View) (code : Nat) (key : Nibble) : Prop :=
  ∀ s : Stroke, s.code = code → s.repeated = false →
    view.take s = (true, { view with queue := view.queue ++ [.key key.val s.pressed] })

theorem View.maps_of_entry {view : View} (h : View.entry? view.padCodes code = some key) : view.Maps code key := by
  intro s hs hfirst
  have hevent : view.event? s = some (.key key.val s.pressed) := by
    rw [event?, hs, h]
  rw [take, hfirst, hevent]
  rfl

/-! ## The names of settings -/

/-- The names of keys in settings, in the order in which they are judged. -/
def namesOf (settings : Settings) : List Text :=
  settings.keyMap.map Prod.fst ++ [settings.quitKey, settings.stepKey, settings.dumpKey]

/-- What the standard settings need of a toolkit: it knows their names, those of the key map stand for different keys,
and it paints their colours and their size. -/
structure Toolkit.SuitsStandard [Toolkit] : Prop where
  known : ∀ n ∈ namesOf {}, ∃ c, resolve n = .ok c
  distinct : (standardKeyMap.map fun p => (resolve p.1).toOption).Nodup
  paints : View.Paints {}

section Toolkit

variable [Toolkit] {settings : Settings} {fault : SettingsFault} {before later : List Text}

/-- A round of the loop over names. -/
def judged (name : Text) (_ : PUnit) : Except SettingsFault (ForInStep PUnit) := do
  let _ ← resolve name
  return .yield ⟨⟩

theorem forIn_judged (h : ∀ n ∈ before, ∃ c, resolve n = .ok c) :
    forIn (before ++ later) PUnit.unit judged = forIn later PUnit.unit judged := by
  induction before with
  | nil => rfl
  | cons n before ih =>
    obtain ⟨c, hc⟩ := h n List.mem_cons_self
    rw [List.cons_append, List.forIn_cons, judged, hc]
    exact ih fun n' hn' => h n' (List.mem_cons_of_mem n hn')

theorem checkKeys_eq : checkKeys settings = (forIn (namesOf settings) PUnit.unit judged).bind fun _ => .ok () := rfl

theorem checkKeys_known (h : ∀ n ∈ namesOf settings, ∃ c, resolve n = .ok c) : checkKeys settings = .ok () := by
  have hloop : forIn (namesOf settings ++ []) PUnit.unit judged = forIn [] PUnit.unit judged := forIn_judged h
  rw [List.append_nil] at hloop
  rw [checkKeys_eq, hloop]
  rfl

theorem checkKeys_unknown (hnames : namesOf settings = before ++ name :: later)
    (hbefore : ∀ n ∈ before, ∃ c, resolve n = .ok c) (h : resolve name = .error fault) :
    checkKeys settings = .error fault := by
  have hloop : forIn (before ++ name :: later) PUnit.unit judged = forIn (name :: later) PUnit.unit judged :=
    forIn_judged hbefore
  rw [← hnames, List.forIn_cons, judged, h] at hloop
  rw [checkKeys_eq, hloop]
  rfl

/-- The code of a name, or zero. -/
def codeOf (name : Text) : Nat := (resolve name).toOption.getD 0

theorem resolve_codeOf (h : ∃ c, resolve name = .ok c) : resolve name = .ok (codeOf name) := by
  obtain ⟨c, hc⟩ := h
  rw [codeOf, hc]
  rfl

/-- If all names are known and the toolkit paints the settings, there is a view, with the codes of the names. -/
theorem ofSettings_known (hpaints : View.Paints settings) (h : ∀ n ∈ namesOf settings, ∃ c, resolve n = .ok c) :
    ∃ view, View.ofSettings settings = .ok view
      ∧ view.padCodes = settings.keyMap.map fun p => (codeOf p.1, p.2) := by
  have hpad : settings.keyMap.mapM (fun (p : Text × Nibble) => do return (← resolve p.1, p.2))
      = .ok (settings.keyMap.map fun p => (codeOf p.1, p.2)) := by
    apply mapM_ok
    intro p hp
    rw [resolve_codeOf (h p.1 (List.mem_append_left _ (List.mem_map_of_mem hp)))]
    rfl
  have hcontrol : ∀ n ∈ [settings.quitKey, settings.stepKey, settings.dumpKey], resolve n = .ok (codeOf n) :=
    fun n hn => resolve_codeOf (h n (List.mem_append_right _ hn))
  simp only [List.forall_mem_cons] at hcontrol
  obtain ⟨hquit, hstep, hdump, -⟩ := hcontrol
  unfold View.ofSettings
  rw [hpaints.foreground, hpaints.background, hpaints.size, hpad, hquit, hstep, hdump]
  exact ⟨_, rfl, rfl⟩

theorem Toolkit.SuitsStandard.distinct_codes (h : Toolkit.SuitsStandard) :
    (standardKeyMap.map fun p => codeOf p.1).Nodup := by
  have hsome : standardKeyMap.map (fun p => (resolve p.1).toOption)
      = (standardKeyMap.map fun p => codeOf p.1).map some := by
    rw [List.map_map]
    refine List.map_congr_left fun p hp => ?_
    obtain ⟨c, hc⟩ := h.known p.1 (List.mem_append_left _ (List.mem_map_of_mem hp))
    simp [codeOf, hc, Except.toOption]
  exact List.Nodup.of_map some (hsome ▸ h.distinct)

theorem bind_known (hkit : Toolkit.SuitsStandard) (h : resolve name = .ok code) (key : Nibble) :
    ∀ n ∈ namesOf { keyMap := standardKeyMap.bind name key }, ∃ c, resolve n = .ok c := by
  intro n hn
  rcases List.mem_append.mp hn with hmap | hcontrol
  · obtain ⟨p, hp, rfl⟩ := List.mem_map.mp hmap
    rcases mem_bind hp with hstandard | rfl
    · exact hkit.known p.1 (List.mem_append_left _ (List.mem_map_of_mem hstandard))
    · exact ⟨code, h⟩
  · exact hkit.known n (List.mem_append_right _ hcontrol)

theorem bind_unknown (hkit : Toolkit.SuitsStandard) (h : resolve name = .error fault) (key : Nibble) :
    namesOf { keyMap := standardKeyMap.bind name key }
      = standardKeyMap.map Prod.fst ++ name :: ["Escape", "K", "M"] := by
  have hfresh : ∀ p ∈ standardKeyMap, p.1 ≠ name := by
    intro p hp hname
    obtain ⟨c, hc⟩ := hkit.known p.1 (List.mem_append_left _ (List.mem_map_of_mem hp))
    rw [hname, h] at hc
    cases hc
  rw [namesOf, bind_fresh hfresh, List.map_append, List.append_assoc]
  rfl

/-- A key map of one entry, whose name stands for a key. If the name is known in upper case, the names of the settings
are found good, and in the view the key of the keyboard is the key of the pad; if it is known only as it is written, it
is refused. -/
theorem key_mapped [Settings.Room] (hnames : Toolkit.PlainNames) (hkit : Toolkit.SuitsStandard)
    (h : resolve name = .ok code) (key : Nibble) :
    ∃ settings, Settings.ofDatum (keyMapDocument name key.val) = .ok settings
      ∧ ((spelled? name.upper = some code ∧ checkKeys settings = .ok ()
          ∧ ∃ view, View.ofSettings settings = .ok view ∧ view.Maps code key)
        ∨ (spelled? name = some code ∧ spelled? name.upper = none
          ∧ checkKeys settings = .error (.unknownKey name.upper))) := by
  refine ⟨_, ofDatum_keyMapDocument name key, ?_⟩
  rcases resolve_upper hnames h with ⟨hspelled, hupper⟩ | ⟨hwritten, hspelled, hupper⟩
  -- The name that is bound last is known too, and no other name has its code.
  · have hknown := bind_known hkit hupper key
    have hpaints : View.Paints { keyMap := standardKeyMap.bind name.upper key } :=
      ⟨hkit.paints.foreground, hkit.paints.background, hkit.paints.size⟩
    obtain ⟨view, hview, hpad⟩ := ofSettings_known hpaints hknown
    have hcode : codeOf name.upper = code := by
      rw [codeOf, hupper]
      rfl
    have hentry : View.entry? view.padCodes code = some key := by
      rw [hpad, ← hcode]
      exact entry?_bind hkit.distinct_codes
    exact .inl ⟨hspelled, checkKeys_known hknown, view, hview, View.maps_of_entry hentry⟩
  -- The standard names come first and are found good, so the name itself is what is refused.
  · have hstandard : ∀ n ∈ standardKeyMap.map Prod.fst, ∃ c, resolve n = .ok c :=
      fun n hn => hkit.known n (List.mem_append_left _ hn)
    exact .inr ⟨hwritten, hspelled, checkKeys_unknown (bind_unknown hkit hupper key) hstandard hupper⟩

end Toolkit

theorem standardToolkit_suits : Toolkit.SuitsStandard where
  known := by
    have hsome : ∀ n ∈ namesOf {}, (resolve n).toOption.isSome := by decide +kernel
    intro n hn
    cases hresolve : resolve n with
    | ok c => exact ⟨c, rfl⟩
    | error fault => exact absurd (hsome n hn) (by rw [hresolve]; nofun)
  distinct := by decide +kernel
  paints := ⟨rfl, rfl, rfl⟩

/-- The small letter can be mapped, and takes the place of the capital. -/
theorem key_mapped_q :
    resolve "q" = .ok 0x51 ∧ ∃ settings, Settings.ofDatum (keyMapDocument "q" 0xF) = .ok settings
      ∧ checkKeys settings = .ok () ∧ ∃ view, View.ofSettings settings = .ok view ∧ view.Maps 0x51 0xF := by
  have hsmall : spelled? "q" = none := by decide +kernel
  have hcapital : spelled? (Text.ofString "q").upper = some 0x51 := by decide +kernel
  have hq : resolve "q" = .ok 0x51 := by
    rw [resolve_of_not_spelled hsmall, hcapital]
  obtain ⟨settings, hsettings, ⟨-, hkeys, hview⟩ | ⟨hwritten, -⟩⟩ :=
    key_mapped standardToolkit_plain standardToolkit_suits hq 0xF
  · exact ⟨hq, settings, hsettings, hkeys, hview⟩
  · rw [hsmall] at hwritten
    cases hwritten

/-- The name of the escape key stands for the key, and it cannot be mapped. -/
theorem escape_not_mapped :
    resolve "Escape" = .ok 0x1000000 ∧ ∃ settings, Settings.ofDatum (keyMapDocument "Escape" 0x5) = .ok settings
      ∧ checkKeys settings = .error (.unknownKey "ESCAPE") := by
  have hwritten : spelled? "Escape" = some 0x1000000 := by decide +kernel
  have hupper : (Text.ofString "Escape").upper = "ESCAPE" := by decide +kernel
  have hunknown : resolve "ESCAPE" = .error (.unknownKey "ESCAPE") := by
    have hspelled : spelled? "ESCAPE" = none := by decide +kernel
    have hagain : spelled? (Text.ofString "ESCAPE").upper = none := by decide +kernel
    rw [resolve_of_not_spelled hspelled, hagain]
  refine ⟨resolve_of_spelled hwritten, _, ofDatum_keyMapDocument "Escape" 0x5, ?_⟩
  rw [hupper]
  exact checkKeys_unknown (bind_unknown standardToolkit_suits hunknown 0x5)
    (fun n hn => standardToolkit_suits.known n (List.mem_append_left _ hn)) hunknown

end Host

end Chip8
