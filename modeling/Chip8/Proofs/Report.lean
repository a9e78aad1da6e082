import Chip8.Proofs.Action
import Chip8.Proofs.ControlLoop.Session
import Chip8.Proofs.Report.Lines
import Chip8.Proofs.Vm.CallStack

/-!
# What a report shows

A report is given in whatever state the machine was left: every register of the layout has a value, and the window
around the program counter starts at an even address that is not negative and ends inside the memory, however wide it
is asked for. Its lines are two bytes apart, so the arrow stands at the program counter if that is even. From an odd one
the window goes past it, and no line has an arrow.

Main statements: `giveReport_shows`, `report_arrow`.
-/

namespace Chip8

open Disassembly Numeral

namespace Report

variable {m : Vm} {context : Int} {s : String}

/-! ## The window -/

/-- The lines show the words of the memory from an address on, two bytes apart. -/
structure Covers (ls : List Line) (m : Memory) (a : Nat) (length : Int) : Prop where
  even : a % 2 = 0
  shows : ∀ j (hj : j < ls.length), (ls[j]).Shows m (a + 2 * j)
  extent : ∀ j, j < ls.length ↔ (a : Int) + 2 * j < limit m a length

theorem window_covers (m : Vm) (context : Int) : ∃ a : Nat, start m.registers.pc context = a
    ∧ disassemble m.memory a (context * 2) = .ok (window m context)
    ∧ Covers (window m context) m.memory a (context * 2) := by
  obtain ⟨a, hstart⟩ : ∃ a : Nat, start m.registers.pc context = a := Int.eq_ofNat_of_zero_le (Int.le_max_left ..)
  have heven : a % 2 = 0 := by
    simp only [start] at hstart
    omega
  obtain ⟨ls, hlines, hlength, hshows⟩ := lines_show (m := m.memory) (a := a) (n := count m.memory a (context * 2))
    fun j hj => by
      have hlimit := lt_count_iff.mp hj
      unfold limit Memory.size at hlimit
      omega
  have hdisassemble : disassemble m.memory a (context * 2) = .ok ls := hlines
  have hwindow : window m context = ls := by
    rw [window, hstart, hdisassemble]
    rfl
  refine ⟨a, hstart, by rw [hwindow, hdisassemble], ?_⟩
  rw [hwindow]
  exact ⟨heven, hshows, fun j => by rw [hlength, lt_count_iff]⟩

/-! ## Giving the report -/

/-- The parts of a report that stand for the state of a machine. -/
structure Shows (m : Vm) (callers : List UInt16) (keys : List Nibble) (window : List Line) : Prop where
  /-- The slots below the stack pointer, in order. -/
  depth : callers.length = m.registers.sp
  slot : ∀ k < m.registers.sp.val, callers[k]? = m.registers.stack[k]?
  /-- The keys that are down, in ascending order. -/
  ascending : keys.Pairwise (· < ·)
  down : ∀ key, key ∈ keys ↔ m.keypad.down.entry key
  /-- Words at even addresses that end inside the memory. -/
  word : ∀ line ∈ window, ∃ a : Nat, line.Shows m.memory a ∧ a % 2 = 0 ∧ a + 1 < m.memory.size

def marked (row : String) : Bool := row.toList.take 2 = ['-', '>']

theorem marked_append (h : 2 ≤ s.toList.length) (t : String) : marked (s ++ t) = marked s := by
  rw [marked, String.toList_append, List.take_append_of_le_length h]
  rfl

theorem marked_memoryRow (pc : UInt16) (line : Line) :
    marked (memoryRow pc line) = decide (line.address = pc.toNat) := by
  simp only [memoryRow, String.append_assoc]
  by_cases h : line.address = pc.toNat
  · rw [if_pos h, marked_append (by decide)]
    simp [marked, h]
  · rw [if_neg h, marked_append (by decide)]
    simp [marked, h]

theorem marked_title (cycles : Nat) : marked (title cycles) = false := by
  have hparts : title cycles = "--- CHIP-8 state (cycle " ++ (decimal cycles ++ ") ---") := String.append_assoc ..
  rw [hparts, marked_append (by decide +kernel)]
  decide +kernel

theorem marked_groupRow (r : Registers) {group : RegisterGroup} (h : group ∈ layout) :
    marked (groupRow r group) = false := by
  have hlayout : ∀ group ∈ layout, 2 ≤ (heading group.name).toList.length ∧ marked (heading group.name) = false := by
    decide +kernel
  rw [groupRow, marked_append (hlayout group h).1, (hlayout group h).2]

theorem marked_stackRow (r : Registers) : marked (stackRow r) = false := marked_append (by decide +kernel) _

theorem marked_keyRow (k : Keypad) : marked (keyRow k) = false := marked_append (by decide +kernel) _

theorem marked_historyRows {history : List Snapshot} {row : String} (h : row ∈ historyRows history context) :
    marked row = false := by
  obtain rfl | ⟨snapshot, -, rfl⟩ := mem_historyRows h
  · decide
  · rw [marked_append (by decide)]
    decide

theorem filter_marked_rows (d : Debugger) (context : Int) : (rows d context).filter marked
    = ((window d.vm context).filter fun line : Line => line.address = (d.vm.registers.pc.toNat : Int)).map
      (memoryRow d.vm.registers.pc) := by
  have hgroups : (layout.map (groupRow d.vm.registers)).filter marked = [] := by
    rw [List.filter_eq_nil_iff, List.forall_mem_map]
    intro group hgroup
    rw [marked_groupRow _ hgroup]
    decide
  have hhistory : (historyRows d.history.toList context).filter marked = [] := by
    rw [List.filter_eq_nil_iff]
    intro row hrow
    rw [marked_historyRows hrow]
    decide
  have hmemory : marked ∘ memoryRow d.vm.registers.pc
      = fun line => decide (line.address = (d.vm.registers.pc.toNat : Int)) := funext (marked_memoryRow _)
  simp only [rows, assemble, List.cons_append, List.filter_append, List.filter_cons, marked_title, hgroups,
    marked_stackRow, marked_keyRow, hhistory, List.filter_map, hmemory]
  simp

/-- Of elements that a function tells apart, one has the value of a given one. -/
theorem filter_eq_singleton {α β : Type} [DecidableEq β] {f : α → β} {xs : List α} {x : α} (h : (xs.map f).Nodup)
    (hx : x ∈ xs) : (xs.filter fun y => f y = f x) = [x] := by
  induction xs with
  | nil => simp at hx
  | cons y xs ih =>
    rw [List.map_cons, List.nodup_cons, List.mem_map] at h
    rcases List.mem_cons.mp hx with rfl | hx
    · rw [List.filter_cons_of_pos (by simp), List.filter_eq_nil_iff.mpr]
      intro y hy
      simpa using fun heq => h.1 ⟨y, hy, heq⟩
    · have hne : f y ≠ f x := fun heq => h.1 ⟨x, hx, heq.symm⟩
      rw [List.filter_cons_of_neg (by simpa using hne), ih h.2 hx]

namespace Covers

variable {ls : List Line} {memory : Memory} {a j : Nat} {length : Int}

theorem nodup (h : Covers ls memory a length) : (ls.map Line.address).Nodup := by
  refine List.pairwise_iff_getElem.mpr fun i j hi hj hlt => ?_
  rw [List.length_map] at hi hj
  rw [List.getElem_map, List.getElem_map, (h.shows i hi).address, (h.shows j hj).address]
  omega

theorem filter_even (h : Covers ls memory a length) (hj : a + 2 * j < limit memory a length) :
    ∃ line, line.Shows memory (a + 2 * j)
      ∧ (ls.filter fun l : Line => l.address = ((a + 2 * j : Nat) : Int)) = [line] := by
  have hlength := (h.extent j).mpr hj
  have hshows := h.shows j hlength
  refine ⟨ls[j], hshows, ?_⟩
  rw [← hshows.address]
  exact filter_eq_singleton h.nodup (List.getElem_mem hlength)

theorem filter_odd (h : Covers ls memory a length) {pc : Nat} (hpc : pc % 2 = 1) :
    (ls.filter fun l : Line => l.address = (pc : Int)) = [] := by
  rw [List.filter_eq_nil_iff]
  intro l hl
  obtain ⟨j, hj, rfl⟩ := List.getElem_of_mem hl
  have haddress := (h.shows j hj).address
  have heven := h.even
  simp only [decide_eq_true_eq]
  omega

end Covers

/-- The instruction that a word is, or the word itself, as written. -/
def written (w : UInt16) : String :=
  match Instruction.ofWord? w with
  | some i => i.text
  | none => "DW #" ++ hex 4 w.toNat

/-- The row with the arrow, for the two bytes at the program counter. -/
def arrowRow (pc : UInt16) (high low : UInt8) : String :=
  "-> " ++ hex 3 pc.toNat ++ ": " ++ hex 2 high.toNat ++ " " ++ hex 2 low.toNat ++ "  "
    ++ written (Word.ofBytes high low)

theorem memoryRow_arrow {pc : UInt16} {line : Line} (h : line.Shows m.memory pc.toNat) :
    memoryRow pc line = arrowRow pc line.high line.low := by
  have htext : line.text = written (Word.ofBytes line.high line.low) := line.text_eq
  have hlead : "-> " = "->" ++ " " := by decide
  rw [memoryRow, arrowRow, htext, if_pos h.address, h.address, Line.bytes, hlead]
  simp only [String.append_assoc]

end Report

open Report

namespace Debugger

variable {d : Debugger} {context : Int} {high low : UInt8}

/-- With a context of two or more, one row has an arrow if the program counter is even: that of its address, with the
two bytes there and the instruction that they are. If it is odd, no row has one. The rows are the lines of the text,
if the history is of completed cycles. -/
theorem report_arrow (hcontext : 2 ≤ context) (hhigh : d.vm.memory.cells[d.vm.registers.pc.toNat]? = some high)
    (hlow : d.vm.memory.cells[d.vm.registers.pc.toNat + 1]? = some low) :
    ((rows d context).filter marked
      = if d.vm.registers.pc.toNat % 2 = 0 then [arrowRow d.vm.registers.pc high low] else [])
    ∧ ((∀ s ∈ d.history.toList, ∃ m m', Vm.step m = .ok s m') → lines (d.report context) = rows d context) := by
  refine ⟨?_, lines_report⟩
  obtain ⟨a, hstart, -, hcovers⟩ := window_covers d.vm context
  rw [filter_marked_rows]
  split
  · next hpc =>
    obtain ⟨hinside, -⟩ := Array.getElem?_eq_some_iff.mp hlow
    -- the window starts at an even address, so an even program counter is a whole number of lines away
    obtain ⟨j, hj⟩ : ∃ j, d.vm.registers.pc.toNat = a + 2 * j := by
      refine ⟨(d.vm.registers.pc.toNat - a) / 2, ?_⟩
      have heven := hcovers.even
      simp only [start] at hstart
      omega
    have hlimit : (a : Int) + 2 * j < limit d.vm.memory a (context * 2) := by
      simp only [start] at hstart
      unfold limit Memory.size
      omega
    obtain ⟨line, hshows, hfilter⟩ := hcovers.filter_even hlimit
    rw [← hj] at hshows hfilter
    rw [hfilter, List.map_singleton, memoryRow_arrow hshows]
    have hhigh' := hshows.high.symm.trans hhigh
    have hlow' := hshows.low.symm.trans hlow
    rw [Option.some.inj hhigh', Option.some.inj hlow']
  · next hpc =>
    rw [hcovers.filter_odd (by omega)]
    rfl

end Debugger

namespace ControlLoop

open Debugger

/-- After its first instruction, the loop that is traced has the arrow at the second one. -/
theorem report_arrow_tracing : ∃ log loop, Session tracing log loop ∧ loop.debugger.history.size = 1
    ∧ (lines loop.debugger.report).filter marked = ["-> 002: 70 01  ADD V0, #01"] := by
  have hsession := (Session.start : Session tracing [] tracing).step
  have hcontext : 2 ≤ standardContext := by decide
  obtain ⟨hmarked, hlines⟩ := report_arrow (d := endState stepInstruction tracing.debugger) hcontext rfl rfl
  refine ⟨_, _, hsession, by decide +kernel, ?_⟩
  rw [hlines (hsession.completed rfl), hmarked]
  decide +kernel

/-- A loop over a machine about to jump to an odd address, at which an instruction stands. -/
def oddJump : ControlLoop Nat :=
  { tracing with
    debugger := .new
      { registers := { pc := 0 }
        memory := { cells := #[0x10, 3, 0, 0x70, 1, 0] }
        random := .constant 0 } 4 }

def jumped : Debugger := endState stepInstruction oddJump.debugger

/-- No line has an arrow. -/
theorem report_without_arrow : 2 ≤ standardContext ∧ jumped.vm.registers.pc = 3 ∧ jumped.vm.word? = some 0x7001
    ∧ (lines jumped.report).filter marked = [] := by
  have hsession := (Session.start : Session oddJump [] oddJump).step
  have hwindow : ((window jumped.vm standardContext).filter fun line : Line =>
      line.address = (jumped.vm.registers.pc.toNat : Int)) = [] := by decide +kernel
  have hlines : lines jumped.report = rows jumped standardContext := lines_report (hsession.completed rfl)
  refine ⟨by decide, by decide +kernel, by decide +kernel, ?_⟩
  rw [hlines, filter_marked_rows, hwindow]
  rfl

end ControlLoop

end Chip8
