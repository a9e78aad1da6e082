import Chip8.Instruction.Text
import Chip8.Proofs.Operation

/-!
# Reading instructions back

What a disassembly shows can be assembled again. `ofText?` reads an instruction from its text: the words of the text are
the verb and the operands, each operand is told apart by its first character, and verb and operands together give the
instruction. Several instructions share a verb, but no two of them share the kinds of their operands as well.

A word and its text say the same, but for the last nibble of `5XY0` and `9XY0`, which the text does not show.

Main statements: `ofText?_text`, `eq_of_text`, `text_eq_iff`.
-/

namespace Chip8

namespace Instruction

open Numeral

/-! ## The words of a text -/

/-- A text that is one word: it holds neither a comma nor a blank. -/
def IsWord (s : String) : Prop := ',' ∉ s.toList ∧ ' ' ∉ s.toList

instance (s : String) : Decidable (IsWord s) := inferInstanceAs (Decidable (_ ∧ _))

theorem IsWord.append {s t : String} (hs : IsWord s) (ht : IsWord t) : IsWord (s ++ t) := by
  unfold IsWord at *
  simp only [String.toList_append, List.mem_append, not_or]
  exact ⟨⟨hs.1, ht.1⟩, ⟨hs.2, ht.2⟩⟩

/-- The words of a text; commas are no part of them. -/
def words (s : String) : List String := ((s.toList.filter (· ≠ ',')).splitOn ' ').map String.ofList

theorem filter_intercalate {α : Type} (p : α → Bool) (sep : List α) (ls : List (List α)) :
    (sep.intercalate ls).filter p = (sep.filter p).intercalate (ls.map (List.filter p)) := by
  induction ls with
  | nil => rfl
  | cons l ls ih =>
    cases ls with
    | nil => simp
    | cons l' ls =>
      rw [List.map_cons] at ih
      rw [List.intercalate_cons_cons, List.filter_append, List.filter_append, ih, List.map_cons, List.map_cons,
        List.intercalate_cons_cons]

theorem IsWord.filter {s : String} (h : IsWord s) : s.toList.filter (· ≠ ',') = s.toList := by
  rw [List.filter_eq_self]
  intro c hc
  simp only [ne_eq, decide_not, Bool.not_eq_eq_eq_not, Bool.not_true, decide_eq_false_iff_not]
  rintro rfl
  exact h.1 hc

theorem words_write {verb : String} {operands : List String} (hverb : IsWord verb)
    (hoperands : ∀ s ∈ operands, IsWord s) : words (write verb operands) = verb :: operands := by
  have hwords : ∀ s ∈ verb :: operands, IsWord s := by
    intro s hs
    rcases List.mem_cons.mp hs with rfl | hs
    · exact hverb
    · exact hoperands s hs
  -- without the commas, the text is the verb and the operands with blanks between them
  have hfilter : (write verb operands).toList.filter (· ≠ ',')
      = [' '].intercalate ((verb :: operands).map String.toList) := by
    unfold write
    cases operands with
    | nil =>
      refine hverb.filter.trans ?_
      simp
    | cons s rest =>
      have hlist : ((s :: rest).map String.toList).map (List.filter (· ≠ ','))
          = (s :: rest).map String.toList := by
        rw [List.map_map]
        apply List.map_congr_left
        intro t ht
        exact (hoperands t ht).filter
      rw [if_neg (by simp), String.toList_append, String.toList_append, String.toList_intercalate, List.filter_append,
        List.filter_append, hverb.filter, filter_intercalate, hlist]
      simp
  rw [words, hfilter, List.splitOn_intercalate, List.map_map]
  · simp
  · intro l hl
    obtain ⟨s, hs, rfl⟩ := List.mem_map.mp hl
    exact (hwords s hs).2
  · simp

/-! ## Operands -/

inductive Operand where
  | register (x : Nibble)
  | byte (value : UInt8)
  | address (target : Address12)
  /-- A number of rows. -/
  | rows (count : Nibble)
  /-- A register that has a name of its own, or the key that is waited for. -/
  | name (s : String)
  deriving DecidableEq, Repr

namespace Operand

def text : Operand → String
  | register x => registerName x
  | byte value => byteLiteral value
  | address target => addressLiteral target
  | rows count => decimal count.val
  | name s => s

/-- The operands that are written by their names. -/
def names : List String := ["I", "DT", "ST", "F", "B", "K", "[I]"]

def ofText? (s : String) : Option Operand :=
  match s.toList with
  | 'V' :: digits => do
    let n ← readInt? 16 digits
    let x ← Nibble.ofInt? n
    return register x
  | '#' :: digits => do
    let n ← readInt? 16 digits
    return if digits.length = 2 then byte (UInt8.ofNat n.toNat) else address (Fin.ofNat 4096 n.toNat)
  | _ =>
    if s ∈ names then some (name s)
    else do
      let n ← readInt? 10 s.toList
      let count ← Nibble.ofInt? n
      return rows count

def Known : Operand → Prop
  | name s => s ∈ names
  | _ => True

theorem ofInt?_val (x : Nibble) : Nibble.ofInt? x.val = some x := by
  have hx := x.isLt
  rw [Nibble.ofInt?, dif_pos (by omega)]
  rfl

theorem ofText?_register (x : Nibble) : ofText? (registerName x) = some (register x) := by
  have hlist : (registerName x).toList = 'V' :: (hex 1 x.val).toList := String.toList_append ..
  simp [ofText?, hlist, readInt?_hex, ofInt?_val]

theorem ofText?_byte (value : UInt8) : ofText? (byteLiteral value) = some (byte value) := by
  have hlist : (byteLiteral value).toList = '#' :: (hex 2 value.toNat).toList := String.toList_append ..
  have hlength : (hex 2 value.toNat).toList.length = 2 := hex_length (by decide) value.toNat_lt
  simp [ofText?, hlist, readInt?_hex, hlength]

theorem ofText?_address (target : Address12) : ofText? (addressLiteral target) = some (address target) := by
  have hlist : (addressLiteral target).toList = '#' :: (hex 3 target.val).toList := String.toList_append ..
  have hlength : (hex 3 target.val).toList.length = 3 := hex_length (by decide) target.isLt
  simp [ofText?, hlist, readInt?_hex, hlength]

theorem ofText?_rows (count : Nibble) : ofText? (decimal count.val) = some (rows count) := by
  revert count
  decide +kernel

theorem ofText?_name {s : String} (h : s ∈ names) : ofText? s = some (name s) := by
  have hall : ∀ s ∈ names, ofText? s = some (name s) := by decide +kernel
  exact hall s h

theorem ofText?_text {o : Operand} (h : o.Known) : ofText? o.text = some o := by
  cases o with
  | register x => exact ofText?_register x
  | byte value => exact ofText?_byte value
  | address target => exact ofText?_address target
  | rows count => exact ofText?_rows count
  | name s => exact ofText?_name h

theorem isWord_hex (width n : Nat) : IsWord (hex width n) := by
  obtain ⟨row, hspells, hlist⟩ := hex_spells width n
  have hdigit : ∀ d : Fin 16, digitChar d ≠ ',' ∧ digitChar d ≠ ' ' := by decide
  have hsign : ¬(n : Int) < 0 := by omega
  rw [if_neg hsign, List.nil_append] at hlist
  unfold IsWord
  rw [hlist]
  constructor
  · intro h
    obtain ⟨d, hd, hc⟩ := List.mem_map.mp h
    exact (hdigit ⟨d, hspells.digits d hd⟩).1 hc
  · intro h
    obtain ⟨d, hd, hc⟩ := List.mem_map.mp h
    exact (hdigit ⟨d, hspells.digits d hd⟩).2 hc

theorem isWord_text {o : Operand} (h : o.Known) : IsWord o.text := by
  cases o with
  | register x => exact IsWord.append (by decide) (isWord_hex 1 x)
  | byte value => exact IsWord.append (by decide) (isWord_hex 2 value.toNat)
  | address target => exact IsWord.append (by decide) (isWord_hex 3 target)
  | rows count =>
    have hall : ∀ count : Nibble, IsWord (decimal count.val) := by decide +kernel
    exact hall count
  | name s =>
    have hall : ∀ s ∈ names, IsWord s := by decide
    exact hall s h

end Operand

/-! ## Instructions -/

def parts : Instruction → List Operand
  | clear | ret => []
  | jump target | call target => [.address target]
  | jumpFrom target => [.register 0, .address target]
  | pointTo target => [.name "I", .address target]
  | skipEqual x value | skipUnequal x value | put x value | increase x value | random x value =>
    [.register x, .byte value]
  | skipSame x y | skipDifferent x y | copy x y | bitOr x y | bitAnd x y | bitXor x y | add x y | sub x y
  | shiftRight x y | subFrom x y | shiftLeft x y => [.register x, .register y]
  | draw x y rows => [.register x, .register y, .rows rows]
  | skipDown x | skipUp x => [.register x]
  | getDelay x => [.register x, .name "DT"]
  | awaitKey x => [.register x, .name "K"]
  | setDelay x => [.name "DT", .register x]
  | setSound x => [.name "ST", .register x]
  | addIndex x => [.name "I", .register x]
  | pointToGlyph x => [.name "F", .register x]
  | storeDecimal x => [.name "B", .register x]
  | storeRegisters x => [.name "[I]", .register x]
  | loadRegisters x => [.register x, .name "[I]"]

/-- The instruction with a verb and operands: the kinds of the operands tell apart those that share the verb. -/
def ofParts? : String → List Operand → Option Instruction
  | "CLS", [] => some .clear
  | "RET", [] => some .ret
  | "JP", [.address target] => some (.jump target)
  | "JP", [.register 0, .address target] => some (.jumpFrom target)
  | "CALL", [.address target] => some (.call target)
  | "SE", [.register x, .byte value] => some (.skipEqual x value)
  | "SE", [.register x, .register y] => some (.skipSame x y)
  | "SNE", [.register x, .byte value] => some (.skipUnequal x value)
  | "SNE", [.register x, .register y] => some (.skipDifferent x y)
  | "LD", [.register x, .byte value] => some (.put x value)
  | "LD", [.register x, .register y] => some (.copy x y)
  | "LD", [.name "I", .address target] => some (.pointTo target)
  | "LD", [.register x, .name "DT"] => some (.getDelay x)
  | "LD", [.register x, .name "K"] => some (.awaitKey x)
  | "LD", [.name "DT", .register x] => some (.setDelay x)
  | "LD", [.name "ST", .register x] => some (.setSound x)
  | "LD", [.name "F", .register x] => some (.pointToGlyph x)
  | "LD", [.name "B", .register x] => some (.storeDecimal x)
  | "LD", [.name "[I]", .register x] => some (.storeRegisters x)
  | "LD", [.register x, .name "[I]"] => some (.loadRegisters x)
  | "ADD", [.register x, .byte value] => some (.increase x value)
  | "ADD", [.register x, .register y] => some (.add x y)
  | "ADD", [.name "I", .register x] => some (.addIndex x)
  | "OR", [.register x, .register y] => some (.bitOr x y)
  | "AND", [.register x, .register y] => some (.bitAnd x y)
  | "XOR", [.register x, .register y] => some (.bitXor x y)
  | "SUB", [.register x, .register y] => some (.sub x y)
  | "SHR", [.register x, .register y] => some (.shiftRight x y)
  | "SUBN", [.register x, .register y] => some (.subFrom x y)
  | "SHL", [.register x, .register y] => some (.shiftLeft x y)
  | "RND", [.register x, .byte mask] => some (.random x mask)
  | "DRW", [.register x, .register y, .rows rows] => some (.draw x y rows)
  | "SKP", [.register x] => some (.skipDown x)
  | "SKNP", [.register x] => some (.skipUp x)
  | _, _ => none

theorem ofParts?_parts (i : Instruction) : ofParts? i.mnemonic i.parts = some i := by
  cases i <;> rfl

theorem operands_eq (i : Instruction) : i.operands = i.parts.map Operand.text := by
  cases i <;> rfl

theorem parts_known (i : Instruction) : ∀ o ∈ i.parts, o.Known := by
  cases i <;> simp [parts, Operand.Known, Operand.names]

theorem isWord_mnemonic (i : Instruction) : IsWord i.mnemonic := by
  cases i <;> simp [mnemonic, IsWord]

/-! ## Reading -/

def ofText? (s : String) : Option Instruction :=
  match words s with
  | [] => none
  | verb :: operands => do ofParts? verb (← operands.mapM Operand.ofText?)

theorem mapM_ofText? {parts : List Operand} (h : ∀ o ∈ parts, o.Known) :
    (parts.map Operand.text).mapM Operand.ofText? = some parts := by
  induction parts with
  | nil => rfl
  | cons o parts ih =>
    have hfirst := Operand.ofText?_text (h o List.mem_cons_self)
    have hrest := ih fun o ho => h o (List.mem_cons_of_mem _ ho)
    simp [hfirst, hrest]

/-- Every instruction is read back from its text. -/
theorem ofText?_text (i : Instruction) : ofText? i.text = some i := by
  have hwords : words i.text = i.mnemonic :: i.operands := by
    apply words_write i.isWord_mnemonic
    intro s hs
    rw [operands_eq] at hs
    obtain ⟨o, ho, rfl⟩ := List.mem_map.mp hs
    exact Operand.isWord_text (i.parts_known o ho)
  rw [ofText?, hwords]
  dsimp only
  rw [operands_eq, mapM_ofText? i.parts_known]
  exact ofParts?_parts i

/-- No two instructions have one text. -/
theorem eq_of_text {i j : Instruction} (h : i.text = j.text) : i = j := by
  have hi := ofText?_text i
  rw [h, ofText?_text] at hi
  exact (Option.some_inj.mp hi).symm

/-! ## The word of an instruction -/

/-- The word with three operand digits. -/
def wordOf (family : Nat) (x y n : Nibble) : Nat := 4096 * family + 256 * x + 16 * y + n

def wordOfByte (family : Nat) (x : Nibble) (value : UInt8) : Nat := 4096 * family + 256 * x + value.toNat

def wordOfAddress (family : Nat) (target : Address12) : Nat := 4096 * family + target

/-- The word of an instruction; a nibble that is not looked at is zero. -/
def code : Instruction → Nat
  | clear => 0x00E0
  | ret => 0x00EE
  | jump target => wordOfAddress 0x1 target
  | call target => wordOfAddress 0x2 target
  | skipEqual x value => wordOfByte 0x3 x value
  | skipUnequal x value => wordOfByte 0x4 x value
  | skipSame x y => wordOf 0x5 x y 0
  | put x value => wordOfByte 0x6 x value
  | increase x value => wordOfByte 0x7 x value
  | copy x y => wordOf 0x8 x y 0x0
  | bitOr x y => wordOf 0x8 x y 0x1
  | bitAnd x y => wordOf 0x8 x y 0x2
  | bitXor x y => wordOf 0x8 x y 0x3
  | add x y => wordOf 0x8 x y 0x4
  | sub x y => wordOf 0x8 x y 0x5
  | shiftRight x y => wordOf 0x8 x y 0x6
  | subFrom x y => wordOf 0x8 x y 0x7
  | shiftLeft x y => wordOf 0x8 x y 0xE
  | skipDifferent x y => wordOf 0x9 x y 0
  | pointTo target => wordOfAddress 0xA target
  | jumpFrom target => wordOfAddress 0xB target
  | random x mask => wordOfByte 0xC x mask
  | draw x y rows => wordOf 0xD x y rows
  | skipDown x => wordOfByte 0xE x 0x9E
  | skipUp x => wordOfByte 0xE x 0xA1
  | getDelay x => wordOfByte 0xF x 0x07
  | awaitKey x => wordOfByte 0xF x 0x0A
  | setDelay x => wordOfByte 0xF x 0x15
  | setSound x => wordOfByte 0xF x 0x18
  | addIndex x => wordOfByte 0xF x 0x1E
  | pointToGlyph x => wordOfByte 0xF x 0x29
  | storeDecimal x => wordOfByte 0xF x 0x33
  | storeRegisters x => wordOfByte 0xF x 0x55
  | loadRegisters x => wordOfByte 0xF x 0x65

variable {a b : Int} {i j : Instruction} {w : UInt16}

theorem toNat_eq_fields (w : UInt16) : w.toNat
    = 4096 * (Word.family w).val + 256 * (Word.x w).val + 16 * (Word.y w).val + (Word.n w).val := by
  have hlt := w.toNat_lt
  simp only [Word.family, Word.x, Word.y, Word.n]
  omega

theorem toNat_eq_code (h : ofWord? w = some i) :
    w.toNat = i.code + if i.pattern ∈ lenient then (Word.n w).val else 0 := by
  have hfields := toNat_eq_fields w
  have hkk := kk_toNat w
  have hnnn := nnn_val w
  -- every branch of the decoder fixes the digits that it looks at, and the digits make up the word
  unfold ofWord? at h
  split at h
  all_goals try split at h
  all_goals cases h
  all_goals simp [code, wordOf, wordOfByte, wordOfAddress, pattern, lenient]
  all_goals omega

theorem ofNat_wordOf {family : Nat} (hfamily : family < 16) (x y n : Nibble) :
    let w := UInt16.ofNat (wordOf family x y n)
    (Word.family w).val = family ∧ Word.x w = x ∧ Word.y w = y ∧ Word.n w = n := by
  have hw : (UInt16.ofNat (wordOf family x y n)).toNat = wordOf family x y n :=
    UInt16.toNat_ofNat_of_lt' (by unfold wordOf UInt16.size; omega)
  simp only [Word.family, Word.x, Word.y, Word.n, hw, Fin.ext_iff]
  unfold wordOf
  omega

theorem ofNat_wordOfByte {family : Nat} (hfamily : family < 16) (x : Nibble) (value : UInt8) :
    let w := UInt16.ofNat (wordOfByte family x value)
    (Word.family w).val = family ∧ Word.x w = x ∧ Word.kk w = value := by
  have hvalue := value.toNat_lt
  have hw : (UInt16.ofNat (wordOfByte family x value)).toNat = wordOfByte family x value :=
    UInt16.toNat_ofNat_of_lt' (by unfold wordOfByte UInt16.size; omega)
  have hlow : wordOfByte family x value % 256 = value.toNat := by
    unfold wordOfByte
    omega
  simp only [Word.family, Word.x, Word.kk, hw, Fin.ext_iff, hlow, UInt8.ofNat_toNat, and_true]
  unfold wordOfByte
  omega

theorem ofNat_wordOfAddress {family : Nat} (hfamily : family < 16) (target : Address12) :
    let w := UInt16.ofNat (wordOfAddress family target)
    (Word.family w).val = family ∧ Word.nnn w = target := by
  have hw : (UInt16.ofNat (wordOfAddress family target)).toNat = wordOfAddress family target :=
    UInt16.toNat_ofNat_of_lt' (by unfold wordOfAddress UInt16.size; omega)
  simp only [Word.family, Word.nnn, hw, Fin.ext_iff]
  unfold wordOfAddress
  omega

theorem ofWord?_code (i : Instruction) : ofWord? (UInt16.ofNat i.code) = some i := by
  cases i
  all_goals simp [ofWord?, code, ofNat_wordOf, ofNat_wordOfByte, ofNat_wordOfAddress]
  all_goals rfl

/-- The words of instructions have no other spelling: they fit, and a nibble that is not looked at is zero. -/
theorem code_plain (i : Instruction) : i.code < 65536 ∧ (i.pattern ∈ lenient → i.code % 16 = 0) := by
  have hcode := toNat_eq_code i.ofWord?_code
  have hnat : (UInt16.ofNat i.code).toNat = i.code % 65536 := UInt16.toNat_ofNat'
  refine ⟨by omega, fun hlenient => ?_⟩
  rw [if_pos hlenient, Word.n] at hcode
  dsimp only at hcode
  omega

/-! ## Words with one text -/

/-- Two integers stand for one word, but for the last nibble where the template does not look at it. -/
def SameWord (t : String) (a b : Int) : Prop :=
  a % 65536 = b % 65536 ∨ t ∈ lenient ∧ a / 16 % 4096 = b / 16 % 4096

theorem SameWord.symm {t : String} (h : SameWord t a b) : SameWord t b a :=
  h.imp Eq.symm fun ⟨hlenient, h⟩ => ⟨hlenient, h.symm⟩

theorem SameWord.trans {t : String} {c : Int} (h : SameWord t a b) (h' : SameWord t b c) : SameWord t a c := by
  unfold SameWord at *
  rcases h with h | ⟨hlenient, h⟩
  · rcases h' with h' | ⟨hlenient, h'⟩
    · exact .inl (h.trans h')
    · exact .inr ⟨hlenient, by omega⟩
  · exact .inr ⟨hlenient, by omega⟩

theorem sameWord_code (h : ofWord? (Word.ofInt a) = some i) : SameWord i.pattern i.code a := by
  have hcode := toNat_eq_code h
  have hint := toNat_ofInt a
  obtain ⟨hlt, hplain⟩ := i.code_plain
  by_cases hlenient : i.pattern ∈ lenient
  · have hzero := hplain hlenient
    rw [if_pos hlenient, Word.n] at hcode
    dsimp only at hcode
    exact .inr ⟨hlenient, by omega⟩
  · rw [if_neg hlenient] at hcode
    exact .inl (by omega)

theorem eq_of_sameWord (hpattern : i.pattern = j.pattern) (h : SameWord i.pattern i.code j.code) : i = j := by
  obtain ⟨hlt, hplain⟩ := i.code_plain
  obtain ⟨hlt', hplain'⟩ := j.code_plain
  have hcode : i.code = j.code := by
    rcases h with h | ⟨hlenient, h⟩
    · omega
    · have hzero := hplain hlenient
      have hzero' := hplain' (hpattern ▸ hlenient)
      omega
  have hi := i.ofWord?_code
  rw [hcode, j.ofWord?_code] at hi
  exact (Option.some_inj.mp hi).symm

end Instruction

namespace Operation

open Instruction

variable {a b n : Int} {op op' : Operation}

theorem decode_ok (h : decode n = .ok op) : ∃ i, ofWord? (Word.ofInt n) = some i ∧ op = ofInstruction n i := by
  unfold decode at h
  split at h
  · next i hi =>
    cases h
    exact ⟨i, hi, rfl⟩
  · cases h

/-- Two integers that are decoded are written alike exactly if they have the same template and stand for the same word,
but for a nibble that is not looked at. So the instruction that is executed, and the word but for that nibble, can be
read back from what is written. -/
theorem text_eq_iff (ha : decode a = .ok op) (hb : decode b = .ok op') :
    (op.text = op'.text ↔ op.pattern = op'.pattern ∧ SameWord op.pattern a b)
      ∧ ∃ i, Instruction.ofText? op.text = some i ∧ op.instruction = .ok i ∧ SameWord op.pattern i.code a := by
  obtain ⟨i, hi, rfl⟩ := decode_ok ha
  obtain ⟨j, hj, rfl⟩ := decode_ok hb
  have hcode := sameWord_code hi
  have hcode' := sameWord_code hj
  refine ⟨⟨fun htext => ?_, fun ⟨hpattern, hsame⟩ => ?_⟩, i, i.ofText?_text, ?_, hcode⟩
  · obtain rfl := eq_of_text htext
    exact ⟨rfl, hcode.symm.trans hcode'⟩
  · have hpattern' : i.pattern = j.pattern := hpattern
    rw [← hpattern'] at hcode'
    obtain rfl := eq_of_sameWord hpattern' ((hcode.trans hsame).trans hcode'.symm)
    rfl
  · exact instruction_ofInstruction (ofPattern?_pattern hi)

/-- `SE V1, V2` is written for words that differ in the last nibble and above the lowest sixteen bits. -/
theorem text_eq_iff_skipSame : ∃ op op', decode 0x5120 = .ok op ∧ decode (-0xAED9) = .ok op' ∧ op.text = "SE V1, V2"
    ∧ op'.text = "SE V1, V2" ∧ op.pattern = op'.pattern ∧ SameWord op.pattern 0x5120 (-0xAED9) := by
  have ha : decode 0x5120 = .ok (ofInstruction 0x5120 (.skipSame 1 2)) := rfl
  have hb : decode (-0xAED9) = .ok (ofInstruction (-0xAED9) (.skipSame 1 2)) := rfl
  have htext : (ofInstruction 0x5120 (.skipSame 1 2)).text = (ofInstruction (-0xAED9) (.skipSame 1 2)).text := rfl
  have hsame := (text_eq_iff ha hb).1.mp htext
  exact ⟨_, _, ha, hb, by decide +kernel, by decide +kernel, hsame⟩

end Operation

end Chip8
