import Chip8.Proofs.Debugger
import Mathlib.Data.List.DropRight

/-!
# What goes on record

A completed step puts its snapshot on record, and a refused one leaves the record as it was. What recording a row of
snapshots comes to is known in closed form: the history keeps as many of the last snapshots as it has room for.

Main statements: `stepInstruction_trace`, `history_recorded`.
-/

namespace Chip8.Debugger

variable {α : Type} {d d' e : Debugger} {s : Snapshot} {ss more : List Snapshot}

/-- The debuggers have the same on record, and room for as much. -/
structure SameTrace (d e : Debugger) : Prop where
  history : e.history = d.history
  latest : e.latest = d.latest
  capacity : e.capacity = d.capacity

namespace SameTrace

theorem refl (d : Debugger) : SameTrace d d := ⟨rfl, rfl, rfl⟩

theorem trans {d₁ d₂ d₃ : Debugger} (h : SameTrace d₁ d₂) (h' : SameTrace d₂ d₃) : SameTrace d₁ d₃ :=
  ⟨h'.history.trans h.history, h'.latest.trans h.latest, h'.capacity.trans h.capacity⟩

theorem record (h : SameTrace d e) (s : Snapshot) : SameTrace (d.record s) (e.record s) := by
  refine ⟨?_, rfl, h.capacity⟩
  simp only [Debugger.record, h.history, h.capacity]

theorem recordAll (h : SameTrace d e) (ss : List Snapshot) :
    SameTrace (ss.foldl Debugger.record d) (ss.foldl Debugger.record e) := by
  induction ss generalizing d e with
  | nil => exact h
  | cons s ss ih => exact ih (h.record s)

theorem started (d : Debugger) (vm : Vm) : SameTrace d { d.started with vm } := by
  obtain ⟨journal, hstarted⟩ := d.started_eq
  rw [hstarted]
  exact ⟨rfl, rfl, rfl⟩

end SameTrace

theorem stepInstruction_trace (d : Debugger) : match stepInstruction d with
    | .ok s d' => SameTrace (d.record s) d'
    | .error _ d' => SameTrace d d' := by
  rw [stepInstruction_eq]
  cases Vm.step d.vm with
  | ok s vm => exact (SameTrace.started d vm).record s
  | error fault vm => exact .started d vm

/-! ## The record in closed form -/

theorem toList_tail (n : Nat) (xs : Array α) : (tail n xs).toList = xs.toList.rtake n := by
  rw [tail, List.rtake, Array.toList_extract, List.extract_eq_take_drop, Array.length_toList]
  exact List.take_of_length_le (by simp)

/-- What is cut off first would be cut off later. -/
theorem rtake_append_rtake (n : Nat) (xs ys : List α) : (xs.rtake n ++ ys).rtake n = (xs ++ ys).rtake n := by
  simp only [List.rtake, List.length_append, List.length_drop, List.drop_append, List.drop_drop]
  congr 2 <;> omega

theorem rtake_of_length_le {n : Nat} {xs : List α} (h : xs.length ≤ n) : xs.rtake n = xs := by
  rw [List.rtake, Nat.sub_eq_zero_of_le h, List.drop_zero]

theorem length_rtake (n : Nat) (xs : List α) : (xs.rtake n).length = min n xs.length := by
  rw [List.rtake, List.length_drop]
  omega

theorem capacity_recorded (ss : List Snapshot) (d : Debugger) : (ss.foldl record d).capacity = d.capacity := by
  induction ss generalizing d with
  | nil => rfl
  | cons s ss ih => exact ih (d.record s)

/-- The history keeps the last of all snapshots, as many as it has room for. -/
theorem history_recorded (h : d.history.size ≤ d.capacity) (ss : List Snapshot) :
    (ss.foldl record d).history.toList = (d.history.toList ++ ss).rtake d.capacity := by
  induction ss generalizing d with
  | nil => rw [List.append_nil, rtake_of_length_le h, List.foldl_nil]
  | cons s ss ih =>
    have hfirst : (d.record s).history.toList = (d.history.toList ++ [s]).rtake d.capacity := by
      rw [record, toList_tail, Array.toList_push]
    have hroom : (d.record s).history.size ≤ d.capacity := by
      rw [← Array.length_toList, hfirst, length_rtake]
      exact Nat.min_le_left _ _
    -- what the first record pushed out would be pushed out by the later ones too
    rw [List.foldl_cons, ih hroom, hfirst]
    show (_ ++ ss).rtake d.capacity = _
    rw [rtake_append_rtake, List.append_assoc, List.singleton_append]

theorem latest_recorded (ss : List Snapshot) (d : Debugger) :
    (ss.foldl record d).latest = ss.getLast?.or d.latest := by
  induction ss generalizing d with
  | nil => rfl
  | cons s ss ih =>
    rw [List.foldl_cons, ih, List.getLast?_cons]
    cases ss.getLast? <;> rfl

end Chip8.Debugger
