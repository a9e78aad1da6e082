import Chip8.Instruction.Text
import Chip8.Proofs.Vm.Destination

/-!
# Write sets

What an instruction may change is told by its template and its first register: which byte registers, whether the index
register or a timer, how many bytes from the index register on, whether the picture. All else it leaves alone, completed
or refused. It takes a random byte if it is the one instruction that wants one, and only then.

Main statements: `execute_confined`, `step_confined`.
-/

namespace Chip8

namespace Instruction

/-- The first register that an instruction names, if it names one. -/
def x? : Instruction → Option Nibble
  | skipEqual x _ | skipUnequal x _ | skipSame x _ | skipDifferent x _ | skipDown x | skipUp x => some x
  | put x _ | increase x _ | copy x _ | random x _ | draw x _ _ => some x
  | bitOr x _ | bitAnd x _ | bitXor x _ | add x _ | sub x _ | shiftRight x _ | subFrom x _ | shiftLeft x _ => some x
  | getDelay x | awaitKey x | setDelay x | setSound x | addIndex x | pointToGlyph x => some x
  | storeDecimal x | storeRegisters x | loadRegisters x => some x
  | clear | ret | jump _ | call _ | pointTo _ | jumpFrom _ => none

variable {w : UInt16} {i : Instruction}

theorem x?_of_ofWord? (h : ofWord? w = some i) : ∀ x ∈ i.x?, x = Word.x w := by
  unfold ofWord? at h
  split at h
  all_goals try split at h
  all_goals cases h
  all_goals simp [x?]

/-! ## The sets -/

/-- The templates of the instructions that put a byte into their register. -/
def putting : List String :=
  ["6XKK", "7XKK", "8XY0", "8XY1", "8XY2", "8XY3", "8XY4", "8XY5", "8XY6", "8XY7", "8XYE", "CXKK", "FX07"]

/-- The templates of the instructions that leave a condition in the flag. -/
def flagging : List String := ["8XY4", "8XY5", "8XY6", "8XY7", "8XYE", "DXYN"]

/-- A byte register is in the write set of a template with the register `x`; `pressed` says that a key is down. -/
def Writes (template : String) (x : Nibble) (pressed : Prop) (k : Nibble) : Prop :=
  k = x ∧ (template ∈ putting ∨ template = "FX0A" ∧ pressed)
    ∨ k ≤ x ∧ template = "FX65"
    ∨ k = Registers.flagIndex ∧ template ∈ flagging

/-- How many bytes from the index register on are in the write set of a template. -/
def stored (template : String) (x : Nibble) : Nat :=
  if template = "FX33" then 3 else if template = "FX55" then x + 1 else 0

/-- Of the loads and additions, only the sum of two registers leaves a condition in the flag. -/
theorem pattern_of_flagging (h : i.mnemonic ∈ ["LD", "ADD"]) (hf : i.pattern ∈ flagging) : i.pattern = "8XY4" := by
  cases i with
  | add x y => rfl
  | _ => simp [mnemonic, pattern, flagging] at h hf

end Instruction

namespace Vm

open Instruction Registers

variable {m m' : Vm} {s : Snapshot} {i : Instruction} {r : Registers} {t : String} {x : Nibble}

/-- The machine `m'` differs from `m` in the write set of a template only. -/
structure Confined (t : String) (x : Nibble) (m m' : Vm) : Prop where
  bytes : ∀ k, ¬Writes t x (m.keypad.pressed ≠ []) k → m'.registers.get k = m.registers.get k := by intros; rfl
  index : t ∉ ["ANNN", "FX1E", "FX29"] → m'.registers.i = m.registers.i := by intros; rfl
  delay : t ≠ "FX15" → m'.registers.dt = m.registers.dt := by intros; rfl
  sound : t ≠ "FX18" → m'.registers.st = m.registers.st := by intros; rfl
  cells : ∀ a, ¬(m.registers.i.toNat ≤ a ∧ a < m.registers.i.toNat + stored t x) →
    m'.memory.cells[a]? = m.memory.cells[a]? := by intros; rfl
  display : t ∉ ["00E0", "DXYN"] → m'.display = m.display := by intros; rfl
  keypad : m'.keypad = m.keypad := by rfl
  random : m'.random = if t = "CXKK" then m.random.next.2 else m.random

namespace Confined

/-! ## What kinds of instructions do -/

theorem of_control (ht : t ≠ "CXKK")
    (hr : r = { m.registers with pc := r.pc, sp := r.sp, stack := r.stack }) :
    Confined t x m { m with registers := r } := by
  rw [hr]
  exact { random := (if_neg ht).symm }

theorem refl (ht : t ≠ "CXKK") (m : Vm) : Confined t x m m := of_control (r := m.registers) ht rfl

theorem of_set (ht : t ≠ "CXKK") (hput : t ∈ putting ∨ t = "FX0A" ∧ m.keypad.pressed ≠ []) (b : UInt8) :
    Confined t x m { m with registers := m.registers.set x b } where
  bytes := fun _ hk => get_set_ne fun he => hk (.inl ⟨he.symm, hput⟩)
  random := (if_neg ht).symm

/-- An instruction that puts a byte into its register and then a condition into the flag. -/
theorem of_result (ht : t ≠ "CXKK") (hput : t ∈ putting) (hflag : t ∈ flagging) (b : UInt8) (condition : Bool) :
    Confined t x m { m with registers := (m.registers.set x b).writeFlag condition } where
  bytes := fun k hk => by
    have hx : x ≠ k := fun he => hk (.inl ⟨he.symm, .inl hput⟩)
    have hf : flagIndex ≠ k := fun he => hk (.inr (.inr ⟨he.symm, hflag⟩))
    exact (get_set_ne hf).trans (get_set_ne hx)
  random := (if_neg ht).symm

theorem of_stores (ht : t ≠ "CXKK") (hs : i.writes = stored t x) :
    Confined t x m { m with memory := m.accessed i } where
  cells := fun a ha => Memory.overlay_elsewhere (by rw [stores_length, hs]; omega)
  random := (if_neg ht).symm

theorem of_ok {a : Action Unit} (h : a m = .ok () m') (hm : Confined t x m m') : Confined t x m (after a m) := by
  rw [after_ok h]
  exact hm

theorem of_error {a : Action Unit} {fault : Fault} (h : a m = .error fault m') (hm : Confined t x m m') :
    Confined t x m (after a m) := by
  rw [after_error h]
  exact hm

theorem of_skip (ht : t ≠ "CXKK") (condition : Bool) :
    Confined t x m { m with registers := if condition then m.registers.advance else m.registers } := by
  cases condition with
  | true => exact of_control ht rfl
  | false => exact of_control (r := m.registers) ht rfl

theorem of_keySkip (ht : t ≠ "CXKK") {y : Nibble} {f : Bool → Bool} {a : Action Unit}
    (h : a m = (keyDown y >>= fun down => skipWhen (f down)) m) : Confined t x m (after a m) := by
  by_cases hy : 16 ≤ (m.registers.get y).toNat
  · exact of_error (h.trans (keySkip_error hy)) (.refl ht m)
  · exact of_ok (h.trans (keySkip_ok (by omega))) (.of_skip ht _)

theorem of_tryRegisters (ht : t ≠ "CXKK") {f : Registers → Except Fault Registers}
    (hf : ∀ r, f m.registers = .ok r → r = { m.registers with pc := r.pc, sp := r.sp, stack := r.stack }) :
    Confined t x m (after (tryRegisters f) m) := by
  cases hrun : f m.registers with
  | ok r => exact of_ok (tryRegisters_ok hrun) (.of_control ht (hf r hrun))
  | error fault => exact of_error (tryRegisters_error hrun) (.refl ht m)

end Confined

/-! ## All instructions -/

theorem confined_awaitKey (x : Nibble) (m : Vm) : Confined "FX0A" x m (after (execute (.awaitKey x)) m) := by
  cases hk : m.keypad.firstPressed with
  | none => exact .of_ok (execute_awaitKey_none x hk) (.of_control (by decide) rfl)
  | some key =>
    have hpressed : m.keypad.pressed ≠ [] := fun he => by
      rw [pressed_eq_nil_iff.mp he] at hk
      cases hk
    exact .of_ok (execute_awaitKey_some x hk) (.of_set (by decide) (.inr ⟨rfl, hpressed⟩) _)

theorem confined_loadRegisters (x : Nibble) (m : Vm) :
    Confined "FX65" x m (after (execute (.loadRegisters x)) m) := by
  rw [after_conclude (execute_loadRegisters x m), halfway, setAll_eq]
  exact {
    bytes := fun k hk => by
      apply setAll_untouched (r := m.registers)
      rintro ⟨y, b⟩ hp rfl
      exact hk (.inr (.inl ⟨mem_upTo.mp (List.of_mem_zip hp).1, rfl⟩))
    cells := fun a _ => Memory.overlay_elsewhere (by show a < _ ∨ _ + 0 ≤ a; omega)
    random := (if_neg (by decide)).symm }

theorem confined_draw (x y rows : Nibble) (m : Vm) :
    Confined "DXYN" x m (after (execute (.draw x y rows)) m) := by
  have hcells : ∀ a, (m.accessed (.draw x y rows)).cells[a]? = m.memory.cells[a]? :=
    fun a => Memory.overlay_elsewhere (by show a < _ ∨ _ + 0 ≤ a; omega)
  cases hm : m.missing? rows with
  | none => exact .of_ok (execute_draw x y hm) {
      bytes := fun k hk => get_set_ne fun he => hk (.inr (.inr ⟨he.symm, by decide⟩))
      cells := fun a _ => hcells a
      display := fun h => absurd (by decide) h
      random := (if_neg (by decide)).symm }
  | some fault => exact .of_error (execute_draw_missing x y hm) {
      cells := fun a _ => hcells a
      random := (if_neg (by decide)).symm }

theorem confined_random (x : Nibble) (mask : UInt8) (m : Vm) :
    Confined "CXKK" x m (after (execute (.random x mask)) m) where
  bytes := fun k hk => get_set_ne fun he => hk (.inl ⟨he.symm, .inl (by decide)⟩)
  random := (if_pos rfl).symm

theorem confined_clear (x : Nibble) (m : Vm) : Confined "00E0" x m (after (execute .clear) m) where
  display := fun h => absurd (by decide) h
  random := (if_neg (by decide)).symm

/-- Whatever comes of an instruction, it changes nothing outside its write set. -/
theorem execute_confined (hx : ∀ y ∈ i.x?, y = x) (m : Vm) : Confined i.pattern x m (after (execute i) m) := by
  -- one case for each instruction; those that write the same parts are taken together
  cases i with
  | clear => exact confined_clear x m
  | ret => exact .of_tryRegisters (by decide) fun r h => (ret_eq h).trans (by rw [ret_eq h])
  | call target =>
    exact .of_tryRegisters (f := fun r => r.call target.val) (by simp [pattern]) fun r h => call_eq h
  | jump target => exact .of_ok rfl (.of_control (by simp [pattern]) rfl)
  | jumpFrom target => exact .of_ok rfl (.of_control (by simp [pattern]) rfl)
  | skipDown y => exact .of_keySkip (by simp [pattern]) (execute_skipDown y m)
  | skipUp y => exact .of_keySkip (by simp [pattern]) (execute_skipUp y m)
  | skipEqual _ _ | skipUnequal _ _ | skipSame _ _ | skipDifferent _ _ =>
    exact .of_ok (bind_get.trans (skipWhen_apply _ m)) (.of_skip (by simp [pattern]) _)
  | put y _ | increase y _ | copy y _ | bitOr y _ | bitAnd y _ | bitXor y _ | getDelay y =>
    obtain rfl := hx y rfl
    exact .of_ok rfl (.of_set (by simp [pattern]) (.inl (by simp [pattern, putting])) _)
  | add y _ | sub y _ | shiftRight y _ | subFrom y _ | shiftLeft y _ =>
    obtain rfl := hx y rfl
    exact .of_ok rfl (.of_result (by simp [pattern]) (by simp [pattern, putting]) (by simp [pattern, flagging]) _ _)
  | random y mask =>
    obtain rfl := hx y rfl
    exact confined_random y mask m
  | pointTo _ | addIndex _ | pointToGlyph _ =>
    exact { index := fun h => absurd (by simp [pattern]) h, random := (if_neg (by simp [pattern])).symm }
  | setDelay _ => exact { delay := fun h => absurd rfl h, random := (if_neg (by simp [pattern])).symm }
  | setSound _ => exact { sound := fun h => absurd rfl h, random := (if_neg (by simp [pattern])).symm }
  | awaitKey y =>
    obtain rfl := hx y rfl
    exact confined_awaitKey y m
  | storeDecimal y =>
    rw [after_conclude (execute_storeDecimal y m)]
    exact .of_stores (by simp [pattern]) rfl
  | storeRegisters y =>
    obtain rfl := hx y rfl
    rw [after_conclude (execute_storeRegisters y m)]
    exact .of_stores (by simp [pattern]) rfl
  | loadRegisters y =>
    obtain rfl := hx y rfl
    exact confined_loadRegisters y m
  | draw y z rows =>
    obtain rfl := hx y rfl
    exact confined_draw y z rows m

/-! ## Cycles -/

/-- A completed cycle changes nothing outside the write set of its instruction, the program counter and the call stack
apart, and counts one. Loads and additions leave the flag alone unless it is their register, all but the sum of two
registers; and the index register stays through all transfers. -/
theorem step_confined (h : step m = .ok s m') : ∃ w i, m.word? = some w ∧ Instruction.ofWord? w = some i
    ∧ Confined i.pattern (Word.x w) m m'
    ∧ m'.cycles = m.cycles + 1
    ∧ (i.mnemonic ∈ ["LD", "ADD"] → i.pattern ≠ "8XY4" → Word.x w ≠ flagIndex →
      m'.registers.get flagIndex = m.registers.get flagIndex)
    ∧ (i.pattern ∈ ["FX33", "FX55", "FX65", "DXYN"] → m'.registers.i = m.registers.i) := by
  obtain ⟨w, i, hw, hi, -, -, rfl⟩ := step_ok h
  have hexecuted := execute_confined (x?_of_ofWord? hi) m.fetched
  -- a fetch touches nothing that the write sets speak of
  have hconfined : Confined i.pattern (Word.x w) m (m.completed i) :=
    ⟨hexecuted.bytes, hexecuted.index, hexecuted.delay, hexecuted.sound, hexecuted.cells, hexecuted.display,
      hexecuted.keypad, hexecuted.random⟩
  refine ⟨w, i, hw, hi, hconfined, congrArg (· + 1) (execute_cycles i m.fetched), ?_, ?_⟩
  · intro hgeneral hsum hx
    apply hconfined.bytes
    rintro (⟨he, -⟩ | ⟨hle, -⟩ | ⟨-, hflag⟩)
    · exact hx he.symm
    · exact hx (Fin.last_le_iff.mp hle)
    · exact hsum (pattern_of_flagging hgeneral hflag)
  · intro ht
    apply hconfined.index
    intro hindex
    simp only [List.mem_cons, List.not_mem_nil, or_false] at ht hindex
    rcases ht with he | he | he | he <;> simp [he] at hindex

/-- A machine about to load two registers. -/
def refilling : Vm :=
  { registers := { pc := 0, i := 2 }, memory := { cells := #[0xF1, 0x65, 7, 9] }, random := .constant 0 }

/-- The load fills its registers, and leaves the flag and the index register alone. -/
theorem step_confined_refilling : ∃ s m', step refilling = .ok s m' ∧ m'.registers.get 1 = 9
    ∧ Confined "FX65" 1 refilling m' ∧ m'.registers.get flagIndex = refilling.registers.get flagIndex
    ∧ m'.registers.i = refilling.registers.i := by
  have hstep := step_completed (m := refilling) (w := 0xF165) (i := .loadRegisters 1) rfl rfl rfl
  obtain ⟨w, i, hw, hi, hconfined, -, hflag, hindex⟩ := step_confined hstep
  obtain rfl : w = 0xF165 := Option.some_inj.mp (hw.symm.trans rfl)
  obtain rfl : i = .loadRegisters 1 := Option.some_inj.mp (hi.symm.trans rfl)
  have hother : Word.x 0xF165 ≠ flagIndex := by decide
  exact ⟨_, _, hstep, by decide +kernel, hconfined, hflag (by simp [mnemonic]) (by simp [pattern]) hother,
    hindex (by simp [pattern])⟩

end Vm

end Chip8
