import Chip8.Host.View
import Chip8.Proofs.ControlLoop.Events
import Mathlib.Data.List.Nodup

/-!
# What the view hears

A stroke puts at most one event into the queue of the view, a poll takes them all, and nothing else touches the queue.
A view that settings describe has the codes of the names in its tables, and all events of keys that it hears are of
keys that the pad has.

Main statements: `take_eq`, `ofSettings_codes`, `OnPad.take`.
-/

namespace Chip8.Host.View

variable {v : View} {s : Stroke} {event : InputEvent} {settings : Settings}

/-! ## Strokes -/

/-- The event that a stroke puts into the queue, if it puts one there. -/
def heard? (v : View) (s : Stroke) : Option InputEvent := if s.repeated then none else v.event? s

theorem take_eq (v : View) (s : Stroke) : (v.take s).2 = { v with queue := v.queue ++ (v.heard? s).toList } := by
  unfold take heard?
  split
  · simp
  · cases v.event? s with
    | none => simp
    | some event => rfl

theorem mem_of_entry? {α : Type} {codes : List (Nat × α)} {code : Int} {a : α} (h : entry? codes code = some a) :
    ∃ c : Nat, (c : Int) = code ∧ (c, a) ∈ codes := by
  obtain ⟨⟨c, b⟩, hfind, rfl⟩ := Option.map_eq_some_iff.mp h
  have hcode := List.find?_some hfind
  exact ⟨c, of_decide_eq_true hcode, List.mem_reverse.mp (List.mem_of_find?_eq_some hfind)⟩

theorem entry?_of_mem {α : Type} {codes : List (Nat × α)} {c : Nat} {a : α} (hdistinct : (codes.map Prod.fst).Nodup)
    (h : (c, a) ∈ codes) : entry? codes c = some a := by
  cases hentry : entry? codes c with
  | none =>
    -- then no entry has this code, and this one has
    have hnone := List.find?_eq_none.mp (Option.map_eq_none_iff.mp hentry) (c, a) (List.mem_reverse.mpr h)
    exact absurd (decide_eq_true rfl) hnone
  | some b =>
    obtain ⟨c', hc', hb⟩ := mem_of_entry? hentry
    obtain rfl : c' = c := Int.ofNat_inj.mp hc'
    have hsame := List.inj_on_of_nodup_map hdistinct hb h rfl
    exact congrArg (fun p => some p.2) hsame

/-! ## Views that settings describe -/

/-- The names of the settings, each with its code, in the tables of the view. -/
structure Codes [Toolkit] (settings : Settings) (v : View) : Prop where
  pad : v.padCodes.map some = settings.keyMap.map fun p => (resolve p.1).toOption.map fun code => (code, p.2)
  controls : ∃ quit step dump, resolve settings.quitKey = .ok quit ∧ resolve settings.stepKey = .ok step
    ∧ resolve settings.dumpKey = .ok dump ∧ v.controlCodes = [(quit, .quit), (step, .step), (dump, .dump)]
  queue : v.queue = []

theorem map_some_of_mapM {α β ε : Type} {f : α → Except ε β} {xs : List α} {ys : List β} (h : xs.mapM f = .ok ys) :
    ys.map some = xs.map fun x => (f x).toOption := by
  have hall := mapM_eq_ok_iff.mp h
  clear h
  induction hall with
  | nil => rfl
  | cons hy _ ih =>
    rw [List.map_cons, List.map_cons, hy, ih]
    rfl

/-- A toolkit paints the colours and the size of settings. -/
structure Paints [Toolkit] (settings : Settings) : Prop where
  foreground : Toolkit.paintsColor settings.foreground = true
  background : Toolkit.paintsColor settings.background = true
  size : Toolkit.paintsSize (screenWidth * settings.scale) (screenHeight * settings.scale) = true

theorem ofSettings_codes [Toolkit] (h : ofSettings settings = .ok v) : Codes settings v := by
  obtain ⟨_, -, h⟩ := bind_eq_ok_iff.mp h
  obtain ⟨_, -, h⟩ := bind_eq_ok_iff.mp h
  obtain ⟨padCodes, hpad, h⟩ := bind_eq_ok_iff.mp h
  obtain ⟨quit, hquit, h⟩ := bind_eq_ok_iff.mp h
  obtain ⟨step, hstep, h⟩ := bind_eq_ok_iff.mp h
  obtain ⟨dump, hdump, h⟩ := bind_eq_ok_iff.mp h
  obtain ⟨_, -, h⟩ := bind_eq_ok_iff.mp h
  cases h
  refine ⟨(map_some_of_mapM hpad).trans ?_, ⟨quit, step, dump, hquit, hstep, hdump, rfl⟩, rfl⟩
  apply List.map_congr_left
  intro p _
  cases hname : resolve p.1 with
  | ok code => simp [hname, pure, Except.pure, bind, Except.bind, Except.toOption]
  | error fault => simp [hname, bind, Except.bind, Except.toOption]

def standard : View :=
  { scale := 10
    foreground := Value.text "#FFFFFF"
    background := Value.text "#000000"
    padCodes :=
      [ (0x31, 0x1), (0x32, 0x2), (0x33, 0x3), (0x34, 0xC),
        (0x51, 0x4), (0x57, 0x5), (0x45, 0x6), (0x52, 0xD),
        (0x41, 0x7), (0x53, 0x8), (0x44, 0x9), (0x46, 0xE),
        (0x5a, 0xA), (0x58, 0x0), (0x43, 0xB), (0x56, 0xF) ]
    controlCodes := [(0x1000000, .quit), (0x4b, .step), (0x4d, .dump)] }

theorem ofSettings_standard : ofSettings {} = .ok standard := rfl

/-! ## Keys that the pad has -/

/-- All events that the view holds, or can come to hold, are of keys that the pad has. -/
structure OnPad (v : View) : Prop where
  controls : ∀ c ∈ v.controlCodes, ∀ k pressed, c.2 ≠ .key k pressed
  queue : KeysOnPad v.queue

theorem Codes.onPad [Toolkit] (h : Codes settings v) : OnPad v := by
  obtain ⟨quit, step, dump, -, -, -, hcodes⟩ := h.controls
  refine ⟨fun c hc => ?_, ?_⟩
  · rw [hcodes] at hc
    rcases List.mem_cons.mp hc with rfl | hc
    · nofun
    · rcases List.mem_pair.mp hc with rfl | rfl
      · nofun
      · nofun
  · rw [h.queue]
    exact fun k pressed hmem => absurd hmem List.not_mem_nil

theorem heard_onPad (h : OnPad v) (hheard : v.heard? s = some event) : KeysOnPad [event] := by
  unfold heard? event? at hheard
  split at hheard
  · cases hheard
  · split at hheard
    · next key hentry =>
      cases hheard
      intro k pressed hmem
      cases List.mem_singleton.mp hmem
      have hkey := key.isLt
      omega
    · split at hheard
      · obtain ⟨c, -, hmem⟩ := mem_of_entry? hheard
        intro k pressed hevent
        exact absurd (List.mem_singleton.mp hevent).symm (h.controls _ hmem k pressed)
      · cases hheard

theorem OnPad.take (h : OnPad v) (s : Stroke) : OnPad (v.take s).2 := by
  rw [take_eq]
  refine ⟨h.controls, fun k pressed hmem => ?_⟩
  rcases List.mem_append.mp hmem with hbefore | hnew
  · exact h.queue k pressed hbefore
  · have hheard := Option.mem_toList.mp hnew
    exact heard_onPad h hheard k pressed List.mem_cons_self

end Chip8.Host.View
