import Chip8.Proofs.Vm.CallStack

/-!
# Operations on the registers

The registers as plain integers (`Numbers`), and what each operation does to these by its arithmetic, whatever integers
it is given. The integers that registers can have are those in range, so an operation never leads out of the range, and
one that is refused changes nothing. The live return addresses are a stack: a call puts the program counter on top and
is refused only if there are sixteen of them, a return goes to the top one and is refused only if there is none. So a
return goes to where the call was that it matches.

Main statements: `numbers_inRange`, `exists_numbers`, `perform_numbers` (one operation), `performAll_numbers` (a run),
`performed_called`, `performAll_guarded`.
-/

namespace Chip8

namespace Registers

/-! ## Operations -/

inductive Act where
  | read (index : Int)
  | write (index value : Int)
  | writeFlag (condition : Bool)
  | advance
  | rewind
  | jump (address : Int) (mode : JumpMode)
  | ret
  | setIndex (value : Int)
  | setDelay (value : Int)
  | setSound (value : Int)

variable {r r' : Registers} {act : Act} {acts : List Act} {fault : Fault}

/-- The registers after an operation, or why it is refused. -/
def perform (r : Registers) : Act → Except Fault Registers
  | .read index => (r.read index).map fun _ => r
  | .write index value => r.write index value
  | .writeFlag condition => .ok (r.writeFlag condition)
  | .advance => .ok r.advance
  | .rewind => .ok r.rewind
  | .jump address mode => r.jump address mode
  | .ret => r.ret
  | .setIndex value => .ok (r.setIndex value)
  | .setDelay value => .ok (r.setDelay value)
  | .setSound value => .ok (r.setSound value)

/-- The registers after an operation, completed or refused. -/
def performed (r : Registers) (act : Act) : Registers := (r.perform act).toOption.getD r

def performAll (r : Registers) (acts : List Act) : Registers := acts.foldl performed r

/-! ## Registers as integers -/

/-- What the registers are in plain integers. -/
structure Numbers where
  pc : Int
  sp : Int
  i : Int
  dt : Int
  st : Int
  v : List Int
  stack : List Int

def numbers (r : Registers) : Numbers where
  pc := r.pc.toNat
  sp := r.sp
  i := r.i.toNat
  dt := r.dt.toNat
  st := r.st.toNat
  v := r.v.toList.map fun b => (b.toNat : Int)
  stack := r.stack.toList.map fun a => (a.toNat : Int)

namespace Numbers

/-- The integers fit the widths of the registers. -/
structure InRange (n : Numbers) : Prop where
  pc : 0 ≤ n.pc ∧ n.pc ≤ 0xFFFF
  sp : 0 ≤ n.sp ∧ n.sp ≤ 16
  i : 0 ≤ n.i ∧ n.i ≤ 0xFFFF
  dt : 0 ≤ n.dt ∧ n.dt ≤ 0xFF
  st : 0 ≤ n.st ∧ n.st ≤ 0xFF
  v : n.v.length = 16 ∧ ∀ b ∈ n.v, 0 ≤ b ∧ b ≤ 0xFF
  stack : n.stack.length = 16 ∧ ∀ a ∈ n.stack, 0 ≤ a ∧ a ≤ 0xFFFF

/-- What an operation does to the integers. -/
def perform (n : Numbers) : Act → Except Fault Numbers
  | .read index => if 0 ≤ index ∧ index < 16 then .ok n else .error (.registerIndex index)
  | .write index value =>
    if ¬(0 ≤ index ∧ index < 16) then .error (.registerIndex index)
    else if ¬(0 ≤ value ∧ value ≤ 0xFF) then .error (.registerValue value)
    else .ok { n with v := n.v.set index.toNat value }
  | .writeFlag condition => .ok { n with v := n.v.set 15 (if condition then 1 else 0) }
  | .advance => .ok { n with pc := (n.pc + 2) % 0x10000 }
  | .rewind => .ok { n with pc := (n.pc - 2) % 0x10000 }
  | .jump address .plain => .ok { n with pc := address % 0x10000 }
  | .jump address .call =>
    if n.sp < 16 then
      .ok { n with stack := n.stack.set n.sp.toNat n.pc, sp := n.sp + 1, pc := address % 0x10000 }
    else .error .stackOverflow
  | .jump _ (.unknown name) => .error (.jumpMode name)
  | .ret =>
    if 0 < n.sp then .ok { n with sp := n.sp - 1, pc := n.stack.getD (n.sp - 1).toNat 0 }
    else .error .stackUnderflow
  | .setIndex value => .ok { n with i := value % 0x10000 }
  | .setDelay value => .ok { n with dt := value % 0x100 }
  | .setSound value => .ok { n with st := value % 0x100 }

/-- The integers after operations, of which those that are refused change nothing. -/
def performAll (n : Numbers) (acts : List Act) : Numbers :=
  acts.foldl (fun n act => (n.perform act).toOption.getD n) n

end Numbers

theorem word_ofInt (a : Int) : ((UInt16.ofInt a).toNat : Int) = a % 0x10000 := by
  rw [UInt16.ofInt, UInt16.toNat_ofNat']
  omega

theorem byte_ofInt (a : Int) : ((UInt8.ofInt a).toNat : Int) = a % 0x100 := by
  rw [UInt8.ofInt, UInt8.toNat_ofNat']
  omega

/-- The integers in registers are in range. -/
theorem numbers_inRange (r : Registers) : r.numbers.InRange := by
  have hword : ∀ a : UInt16, (0 : Int) ≤ a.toNat ∧ (a.toNat : Int) ≤ 0xFFFF := by
    intro a
    have ha := a.toNat_lt
    omega
  have hbyte : ∀ b : UInt8, (0 : Int) ≤ b.toNat ∧ (b.toNat : Int) ≤ 0xFF := by
    intro b
    have hb := b.toNat_lt
    omega
  have hsp := r.sp.isLt
  refine ⟨hword _, ?_, hword _, hbyte _, hbyte _, ⟨?_, ?_⟩, ⟨?_, ?_⟩⟩
  · show (0 : Int) ≤ (r.sp.val : Int) ∧ (r.sp.val : Int) ≤ 16
    omega
  · exact (List.length_map _).trans r.v.length_toList
  · exact List.forall_mem_map.mpr fun b _ => hbyte b
  · exact (List.length_map _).trans r.stack.length_toList
  · exact List.forall_mem_map.mpr fun a _ => hword a

theorem map_ofInt {α : Type} {ofInt : Int → α} {toNat : α → Nat} {l : List Int}
    (h : ∀ a ∈ l, (toNat (ofInt a) : Int) = a) : (l.map ofInt).map (fun a => (toNat a : Int)) = l := by
  rw [List.map_map]
  exact (List.map_congr_left h).trans (List.map_id l)

/-- Integers in range are those of some registers. -/
theorem exists_numbers {n : Numbers} (h : n.InRange) : ∃ r : Registers, r.numbers = n := by
  have hword : ∀ a : Int, 0 ≤ a ∧ a ≤ 0xFFFF → ((UInt16.ofInt a).toNat : Int) = a := by
    intro a ha
    rw [word_ofInt]
    omega
  have hbyte : ∀ b : Int, 0 ≤ b ∧ b ≤ 0xFF → ((UInt8.ofInt b).toNat : Int) = b := by
    intro b hb
    rw [byte_ofInt]
    omega
  obtain ⟨hv, hbytes⟩ := h.v
  obtain ⟨hstack, hwords⟩ := h.stack
  obtain ⟨hsp, hsp'⟩ := h.sp
  -- the registers that hold the words and bytes of the integers, which lose nothing as they are in range
  let r : Registers :=
    { pc := UInt16.ofInt n.pc, sp := ⟨n.sp.toNat, by omega⟩, i := UInt16.ofInt n.i
      dt := UInt8.ofInt n.dt, st := UInt8.ofInt n.st
      v := ⟨(n.v.map UInt8.ofInt).toArray, by simpa using hv⟩
      stack := ⟨(n.stack.map UInt16.ofInt).toArray, by simpa using hstack⟩ }
  refine ⟨r, ?_⟩
  have hpc : (r.pc.toNat : Int) = n.pc := hword n.pc h.pc
  have hdepth : (r.sp.val : Int) = n.sp := Int.toNat_of_nonneg hsp
  have hi : (r.i.toNat : Int) = n.i := hword n.i h.i
  have hdt : (r.dt.toNat : Int) = n.dt := hbyte n.dt h.dt
  have hst : (r.st.toNat : Int) = n.st := hbyte n.st h.st
  have hbank : r.v.toList.map (fun b => (b.toNat : Int)) = n.v := map_ofInt fun b hb => hbyte b (hbytes b hb)
  have hslots : r.stack.toList.map (fun a => (a.toNat : Int)) = n.stack := map_ofInt fun a ha => hword a (hwords a ha)
  rw [numbers, hpc, hdepth, hi, hdt, hst, hbank, hslots]

/-! ## What operations do to them -/

theorem numbers_set (r : Registers) (x : Nibble) (b : UInt8) :
    (r.set x b).numbers = { r.numbers with v := r.numbers.v.set x.val b.toNat } := by
  have hbank : (r.v.put x b).toList.map (fun b => (b.toNat : Int))
      = (r.v.toList.map fun b => (b.toNat : Int)).set x b.toNat := by
    rw [Bank.put, Vector.toList_set, List.map_set]
  rw [numbers, numbers, set, hbank]

theorem numbers_goto (r : Registers) (address : Int) :
    (r.goto address).numbers = { r.numbers with pc := address % 0x10000 } := by
  rw [numbers, numbers, goto, word_ofInt]

theorem numbers_write (r : Registers) (index value : Int) :
    (r.write index value).map numbers = r.numbers.perform (.write index value) := by
  simp only [Numbers.perform]
  by_cases hindex : 0 ≤ index ∧ index < 16
  · rw [write, Nibble.ofInt?, dif_pos hindex, if_neg (not_not_intro hindex)]
    by_cases hvalue : 0 ≤ value ∧ value ≤ 0xFF
    · have hbyte : ((UInt8.ofInt value).toNat : Int) = value := by
        rw [byte_ofInt]
        omega
      dsimp only
      rw [if_pos hvalue, if_neg (not_not_intro hvalue), Except.map, numbers_set, hbyte]
    · dsimp only
      rw [if_neg hvalue, if_pos hvalue]
      rfl
  · rw [write, Nibble.ofInt?, dif_neg hindex, if_pos hindex]
    rfl

theorem numbers_advance (r : Registers) :
    r.advance.numbers = { r.numbers with pc := (r.numbers.pc + 2) % 0x10000 } := by
  have hpc : ((r.pc + instructionLength).toNat : Int) = ((r.pc.toNat : Int) + 2) % 0x10000 := by
    rw [UInt16.toNat_add]
    exact Int.natCast_emod _ _
  rw [numbers, numbers, advance, hpc]

theorem numbers_rewind (r : Registers) :
    r.rewind.numbers = { r.numbers with pc := (r.numbers.pc - 2) % 0x10000 } := by
  have hpc : ((r.pc - instructionLength).toNat : Int) = ((r.pc.toNat : Int) - 2) % 0x10000 := by
    have hlt := r.pc.toNat_lt
    have htwo : instructionLength.toNat = 2 := rfl
    rw [UInt16.toNat_sub, htwo]
    omega
  rw [numbers, numbers, rewind, hpc]

theorem numbers_call (r : Registers) (address : Int) :
    (r.call address).map numbers = r.numbers.perform (.jump address .call) := by
  by_cases h : r.sp < 16
  · have hroom : r.numbers.sp < 16 := Int.ofNat_lt.mpr h
    have hslots : (r.stack.set r.sp r.pc h).toList.map (fun a => (a.toNat : Int))
        = r.numbers.stack.set r.sp.val r.pc.toNat := by
      rw [Vector.toList_set, List.map_set]
      rfl
    rw [call_room h, Except.map, numbers_goto, Numbers.perform, if_pos hroom, numbers, hslots]
    rfl
  · have hfull : r.sp = 16 := by
      by_contra hne
      exact h (sp_lt_of_ne hne)
    have hnumber : r.numbers.sp = 16 := congrArg (fun d : Fin 17 => (d.val : Int)) hfull
    rw [call_full hfull, Numbers.perform, if_neg (by omega)]
    rfl

theorem numbers_ret (r : Registers) : r.ret.map numbers = r.numbers.perform .ret := by
  cases hn : r.sp.val with
  | zero =>
    have hempty : r.sp = 0 := Fin.ext hn
    have hnumber : r.numbers.sp = 0 := congrArg (fun d : Fin 17 => (d.val : Int)) hempty
    rw [ret_empty hempty, Numbers.perform, if_neg (by omega)]
    rfl
  | succ n =>
    have hlt : n < 16 := by
      have hsp := r.sp.isLt
      omega
    have hopen : r.numbers.sp = n + 1 := by
      rw [numbers, hn]
      rfl
    have htop : r.numbers.stack.getD n 0 = (r.stack.get ⟨n, hlt⟩).toNat := by
      rw [numbers, List.getD_eq_getElem?_getD, List.getElem?_map, Vector.getElem?_toList]
      simp [hlt, Vector.get]
    rw [ret_open hn, Except.map, Numbers.perform, if_pos (by omega), hopen, Int.add_sub_cancel, Int.toNat_natCast, htop]
    rfl

/-- Every operation does to the integers what its arithmetic says, and is refused where that says so. -/
theorem perform_numbers (r : Registers) (act : Act) : (r.perform act).map numbers = r.numbers.perform act := by
  cases act with
  -- the same check on both sides
  | read index =>
    by_cases h : 0 ≤ index ∧ index < 16
    · simp [perform, Numbers.perform, read, Nibble.ofInt?, h, Except.map]
    · simp [perform, Numbers.perform, read, Nibble.ofInt?, h, Except.map]
  | write index value => exact numbers_write r index value
  | writeFlag condition =>
    refine congrArg Except.ok ((numbers_set r flagIndex _).trans ?_)
    cases condition with
    | true => rfl
    | false => rfl
  | advance => exact congrArg Except.ok r.numbers_advance
  | rewind => exact congrArg Except.ok r.numbers_rewind
  | jump address mode =>
    cases mode with
    | plain => exact congrArg Except.ok (r.numbers_goto address)
    | call => exact r.numbers_call address
    | unknown name => rfl
  | ret => exact r.numbers_ret
  | setIndex value =>
    refine congrArg Except.ok ?_
    rw [numbers, numbers, setIndex, word_ofInt]
  | setDelay value =>
    refine congrArg Except.ok ?_
    rw [numbers, numbers, setDelay, byte_ofInt]
  | setSound value =>
    refine congrArg Except.ok ?_
    rw [numbers, numbers, setSound, byte_ofInt]

theorem performed_numbers (r : Registers) (act : Act) :
    (r.performed act).numbers = (r.numbers.perform act).toOption.getD r.numbers := by
  rw [← perform_numbers, performed]
  cases r.perform act with
  | ok r' => rfl
  | error fault => rfl

/-- A run does to the integers what its operations do. -/
theorem performAll_numbers (r : Registers) (acts : List Act) :
    (r.performAll acts).numbers = r.numbers.performAll acts := by
  induction acts generalizing r with
  | nil => rfl
  | cons act acts ih =>
    refine (ih (r.performed act)).trans ?_
    rw [performed_numbers]
    rfl

/-! ## The stack of return addresses -/

theorem perform_call_refused (address : Int) :
    (∃ fault, r.perform (.jump address .call) = .error fault) ↔ r.callers.length = 16 := by
  rw [callers_length]
  show (∃ fault, r.call address = .error fault) ↔ _
  by_cases h : r.sp = 16
  · rw [call_full h, h]
    exact ⟨fun _ => rfl, fun _ => ⟨_, rfl⟩⟩
  · have hne : r.sp.val ≠ 16 := fun he => h (Fin.ext he)
    rw [call_room (sp_lt_of_ne h)]
    exact ⟨nofun, fun he => absurd he hne⟩

theorem perform_ret_refused : (∃ fault, r.perform .ret = .error fault) ↔ r.callers = [] := by
  rw [← List.length_eq_zero_iff, callers_length]
  show (∃ fault, r.ret = .error fault) ↔ _
  cases hn : r.sp.val with
  | zero =>
    rw [ret_empty (Fin.ext hn)]
    exact ⟨fun _ => rfl, fun _ => ⟨_, rfl⟩⟩
  | succ n =>
    rw [ret_open hn]
    exact ⟨nofun, fun he => absurd he (Nat.succ_ne_zero n)⟩

/-- An operation, completed or refused, keeps the return addresses, puts the program counter on top of them, or takes
the top one away and goes there. -/
theorem performed_called (r : Registers) (act : Act) : Called r.rewind (r.performed act) := by
  -- a cycle pushes the address after its own, so the registers before a cycle with this one are those rewound
  have hback : r.rewind.pc + instructionLength = r.pc := UInt16.sub_add_cancel r.pc instructionLength
  cases act with
  | jump address mode =>
    cases mode with
    | plain => exact .keep rfl
    | unknown name => exact .keep rfl
    | call =>
      by_cases h : r.sp = 16
      · have hcall : r.performed (.jump address .call) = r := by
          show (r.call address).toOption.getD r = r
          rw [call_full h]
          rfl
        rw [hcall]
        exact .keep rfl
      · have hroom := sp_lt_of_ne h
        have hcall : r.performed (.jump address .call) = _ := congrArg (fun x => x.toOption.getD r) (call_room hroom)
        rw [hcall]
        refine .push ?_
        rw [hback]
        exact callers_push hroom rfl rfl
  | ret =>
    cases hn : r.sp.val with
    | zero =>
      have hret : r.performed .ret = r := by
        show r.ret.toOption.getD r = r
        rw [ret_empty (Fin.ext hn)]
        rfl
      rw [hret]
      exact .keep rfl
    | succ n =>
      have hret : r.performed .ret = _ := congrArg (fun x => x.toOption.getD r) (ret_open hn)
      rw [hret]
      exact .pop (callers_pop (by omega) hn rfl rfl)
  | write index value =>
    have hsame : SameStack r (r.performed (.write index value)) := by
      show SameStack r ((r.write index value).toOption.getD r)
      unfold write
      split
      · exact .refl r
      · split
        · exact .refl r
        · exact .refl r
    exact .keep hsame.callers
  | read index =>
    have hsame : r.performed (.read index) = r := by
      show ((r.read index).map fun _ => r).toOption.getD r = r
      cases r.read index with
      | ok b => rfl
      | error fault => rfl
    rw [hsame]
    exact .keep rfl
  | writeFlag _ | advance | rewind | setIndex _ | setDelay _ | setSound _ => exact .keep rfl

/-- Return addresses stay while the stack is deeper than they reach. -/
theorem performAll_keeps {base : List UInt16} (hpre : base <+: r.callers)
    (hdeep : ∀ n < acts.length, base.length ≤ (r.performAll (acts.take (n + 1))).sp) :
    base <+: (r.performAll acts).callers := by
  induction acts generalizing r with
  | nil => exact hpre
  | cons act acts ih =>
    have hfirst : base <+: (r.performed act).callers :=
      (performed_called r act).keeps hpre (hdeep 0 (Nat.zero_lt_succ _))
    exact ih hfirst fun n hn => hdeep (n + 1) (Nat.succ_lt_succ hn)

theorem callers_performed_call (address : Int) (hroom : r.callers.length < 16) :
    (r.performed (.jump address .call)).callers = r.callers ++ [r.pc] := by
  rw [callers_length] at hroom
  have hcall : r.performed (.jump address .call) = _ := congrArg (fun x => x.toOption.getD r) (call_room hroom)
  rw [hcall]
  exact callers_push hroom rfl rfl

/-- A call that is not refused, and after it operations that keep the stack deeper than it was before the call. If it is
then one deeper, a return goes to where the call was, and the return addresses are those that were there. -/
theorem ret_of_call {address : Int} (hroom : r.callers.length < 16)
    (hdeep : ∀ n < acts.length,
      r.callers.length < ((r.performed (.jump address .call)).performAll (acts.take (n + 1))).callers.length)
    (hback : ((r.performed (.jump address .call)).performAll acts).callers.length = r.callers.length + 1) :
    ∃ r', ((r.performed (.jump address .call)).performAll acts).perform .ret = .ok r'
      ∧ r'.pc = r.pc ∧ r'.callers = r.callers := by
  have hpre : r.callers ++ [r.pc] <+: ((r.performed (.jump address .call)).performAll acts).callers := by
    refine performAll_keeps ⟨[], by rw [List.append_nil, callers_performed_call address hroom]⟩ fun n hn => ?_
    rw [List.length_append, List.length_singleton, ← callers_length]
    exact hdeep n hn
  -- only the depth and the addresses at the bottom of the stack count from here on
  generalize (r.performed (.jump address .call)).performAll acts = last at hpre hback
  have hdepth : last.sp.val = r.callers.length + 1 := by rw [← callers_length, hback]
  have hret : last.perform .ret = _ := ret_open hdepth
  have hcalled := last.performed_called .ret
  rw [performed, hret] at hcalled
  exact ⟨_, hret, hcalled.returns hpre rfl⟩

/-- Whatever integers the operations on registers are given. The integers in registers are those in range. A run does to
them what its operations do by their arithmetic, so they stay in range. An operation that is refused changes nothing,
nor does it change the machine that the registers are of. A call is refused only when there are sixteen return
addresses, and a return when there is none; and if the stack stays deeper than before a call until a return brings it
back to that depth, this return goes to where the call was, with the return addresses that were there. -/
theorem performAll_guarded (r : Registers) :
    (∀ n : Numbers, n.InRange ↔ ∃ r' : Registers, r'.numbers = n)
    ∧ (∀ acts, (r.performAll acts).numbers = r.numbers.performAll acts ∧ (r.numbers.performAll acts).InRange)
    ∧ (∀ act fault, r.perform act = .error fault → r.numbers.perform act = .error fault ∧ r.performed act = r
      ∧ ∀ m : Vm, m.registers = r → Vm.tryRegisters (·.perform act) m = .error fault m)
    ∧ (∀ address, (∃ fault, r.perform (.jump address .call) = .error fault) ↔ r.callers.length = 16)
    ∧ ((∃ fault, r.perform .ret = .error fault) ↔ r.callers = [])
    ∧ ∀ address acts, r.callers.length < 16 →
      (∀ n < acts.length,
        r.callers.length < ((r.performed (.jump address .call)).performAll (acts.take (n + 1))).callers.length) →
      ((r.performed (.jump address .call)).performAll acts).callers.length = r.callers.length + 1 →
      ∃ r', ((r.performed (.jump address .call)).performAll acts).perform .ret = .ok r'
        ∧ r'.pc = r.pc ∧ r'.callers = r.callers := by
  refine ⟨fun n => ⟨exists_numbers, ?_⟩, fun acts => ⟨r.performAll_numbers acts, ?_⟩, fun act fault h => ⟨?_, ?_, ?_⟩,
    perform_call_refused, perform_ret_refused, fun _ _ => ret_of_call⟩
  · rintro ⟨r', rfl⟩
    exact r'.numbers_inRange
  · rw [← performAll_numbers]
    exact numbers_inRange _
  · rw [← perform_numbers, h]
    rfl
  · rw [performed, h]
    rfl
  · rintro m rfl
    exact Vm.tryRegisters_error h

/-- A call from within a call, a refused write, and back: the return leads to the outer call, whatever the numbers. -/
theorem performAll_guarded_nested : ∃ r' : Registers,
    ((({} : Registers).performed (.jump (-2) .call)).performAll
      [.jump 0x12345 .call, .write 3 256, .write (-1) 7, .advance, .ret, .setIndex (-1)]).perform .ret = .ok r'
    ∧ r'.pc = 0x200 ∧ r'.callers = [] := by
  obtain ⟨-, -, -, -, -, hreturn⟩ := performAll_guarded {}
  exact hreturn (-2) [.jump 0x12345 .call, .write 3 256, .write (-1) 7, .advance, .ret, .setIndex (-1)]
    (by decide) (by decide +kernel) (by decide +kernel)

end Registers

end Chip8
