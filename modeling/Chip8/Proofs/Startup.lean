import Chip8.Proofs.Vm.Glyph
import Chip8.Startup

/-!
# The system that a start puts together

A start loads a font of eighty bytes to the bottom of the memory and a program to its fixed address, in this order, and
puts a machine over that memory under a debugger with one breakpoint for each address of the settings. A font of another
length is refused before the program is looked at, and a program is refused exactly if it is longer than the memory
behind its address; what is refused after that is a history whose length fits no word. In a system that was put
together, the glyphs of the font can be drawn as long as nothing is written into the font.

Main statements: `Memory.image_loaded`, `Debugger.added_beside`, `system_assembled`, `start_assembles`.
-/

namespace Chip8

/-! ## The memory -/

namespace Memory

variable {m : Memory} {cells : Array UInt8} {offset : Nat} {data font rom : List UInt8}

theorem splice_toList : (splice cells offset data).toList
    = cells.toList.take offset ++ data ++ cells.toList.drop (offset + data.length) := by
  have hrest : (cells.toList.drop (offset + data.length)).take (cells.size - (offset + data.length))
      = cells.toList.drop (offset + data.length) := List.take_of_length_le (by simp)
  simp [splice, Array.toList_extract, List.extract_eq_take_drop, hrest]

/-- The bytes of a memory with a font and a program, and zeros between and behind them. -/
def assembled (font rom : List UInt8) : List UInt8 :=
  font ++ List.replicate (programAddress - font.length) 0 ++ rom
    ++ List.replicate (standardSize - programAddress - rom.length) 0

/-- The memory with a font, and with a program besides. -/
def fonted (font : List UInt8) : Memory := { cells := splice (zeros standardSize).cells fontAddress font }
def loaded (font rom : List UInt8) : Memory := { cells := splice (fonted font).cells programAddress rom }

theorem toList_fonted (font : List UInt8) :
    (fonted font).cells.toList = font ++ List.replicate (standardSize - font.length) 0 := by
  have hzeros : (zeros standardSize).cells.toList = List.replicate standardSize 0 := Array.toList_replicate
  rw [fonted, splice_toList, hzeros, fontAddress, List.take_zero, List.nil_append, Nat.zero_add, List.drop_replicate]

theorem load_done (h : offset + data.length ≤ m.size) :
    m.load offset data = .ok { m with cells := splice m.cells offset data } := by
  unfold load
  rw [if_neg (by omega)]
  rfl

theorem load_long (h : m.size < offset + data.length) :
    m.load offset data = .error (.loadOutOfBounds offset data.length m.size) := by
  unfold load
  rw [if_pos (by omega)]

section Fonted

variable (hfont : font.length = Fault.fontBytes)

include hfont

theorem load_fonted : (zeros standardSize).load fontAddress font = .ok (fonted font) := by
  apply load_done
  rw [hfont, size_zeros]
  decide

theorem size_fonted : (fonted font).size = standardSize := by
  rw [size_load (load_fonted hfont), size_zeros]

/-- There is room for a program between its address and the end of the memory. -/
theorem load_loaded (hroom : rom.length ≤ standardSize - programAddress) :
    (fonted font).load programAddress rom = .ok (loaded font rom) := by
  apply load_done
  rw [size_fonted hfont]
  unfold standardSize programAddress at *
  omega

theorem load_tooLong (hlong : standardSize - programAddress < rom.length) :
    (fonted font).load programAddress rom = .error (.loadOutOfBounds programAddress rom.length standardSize) := by
  have hrefused : (fonted font).load programAddress rom
      = .error (.loadOutOfBounds programAddress rom.length (fonted font).size) := by
    apply load_long
    rw [size_fonted hfont]
    unfold standardSize programAddress at *
    omega
  rwa [size_fonted hfont] at hrefused

theorem image_loaded (rom : List UInt8) : (loaded font rom).image = assembled font rom := by
  have hroom : font.length ≤ programAddress := by
    rw [hfont]
    decide
  have hbefore : (font ++ List.replicate (standardSize - font.length) 0).take programAddress
      = font ++ List.replicate (programAddress - font.length) 0 := by
    have hzeros : programAddress - font.length ≤ standardSize - font.length := Nat.sub_le_sub_right (by decide) _
    rw [List.take_append, List.take_of_length_le hroom, List.take_replicate, Nat.min_eq_left hzeros]
  have hbehind : (font ++ List.replicate (standardSize - font.length) 0).drop (programAddress + rom.length)
      = List.replicate (standardSize - programAddress - rom.length) 0 := by
    rw [List.drop_append, List.drop_eq_nil_of_le (by omega), List.nil_append, List.drop_replicate]
    congr 1
    omega
  calc (loaded font rom).image
      = (font ++ List.replicate (standardSize - font.length) 0).take programAddress ++ rom
        ++ (font ++ List.replicate (standardSize - font.length) 0).drop (programAddress + rom.length) := by
        rw [image, loaded, splice_toList, toList_fonted]
    _ = assembled font rom := by rw [hbefore, hbehind, assembled]

end Fonted

/-- The bytes of a font file, or those of the built-in font. -/
def fontData : (file : Option (Text × List UInt8)) → List UInt8
  | some (_, data) => data
  | none => fontset

def fontNotices (path : Option Text) (font : List UInt8) : List Notice :=
  [.imageLoaded font.length fontAddress, .fontLoaded path]

theorem loadFont_eq (m : Memory) (file : Option (Text × List UInt8)) : m.loadFont file
    = if (fontData file).length = Fault.fontBytes then
        (m.load fontAddress (fontData file)).map fun m => (m, fontNotices (file.map (·.1)) (fontData file))
      else .error (.fontSize (fontData file).length) := by
  unfold loadFont
  by_cases hlength : (fontData file).length = Fault.fontBytes
  · rw [if_pos hlength]
    refine (if_neg (not_not_intro hlength)).trans ?_
    show (m.load fontAddress (fontData file) >>= fun m => pure (m, fontNotices _ (fontData file))) = _
    cases m.load fontAddress (fontData file) <;> rfl
  · rw [if_neg hlength]
    exact if_pos hlength

end Memory

/-! ## The breakpoints -/

namespace Debugger

variable {d : Debugger}

def atAddress (address : Int) : Breakpoint := { kind := .pcMatch, value := some address, enabled := true }

theorem atAddress_inj {a b : Int} : atAddress a = atAddress b ↔ a = b := by
  simp [atAddress]

/-- Of addresses that are added one after the other, those that were not there come behind the others, each once and in
the order in which they first came. -/
theorem added_beside (addresses : List Int) {seen : List Int} (hd : d.breakpoints = seen.map atAddress) :
    addresses.foldl (fun d address => d.add (atAddress address)) d
      = { d with breakpoints := (seen ++ (addresses.filter (· ∉ seen)).eraseDups).map atAddress } := by
  induction addresses generalizing d seen with
  | nil => rw [List.foldl_nil, List.filter_nil, List.eraseDups_nil, List.append_nil, ← hd]
  | cons a addresses ih =>
    have hmem : atAddress a ∈ d.breakpoints ↔ a ∈ seen := by simp [hd, atAddress_inj]
    rw [List.foldl_cons, add]
    -- an address seen before is left out, a new one counts as seen from here on
    by_cases h : a ∈ seen
    · rw [if_pos (hmem.mpr h), ih hd, List.filter_cons_of_neg (by simpa using h)]
    · have hnew : d.breakpoints ++ [atAddress a] = (seen ++ [a]).map atAddress := by simp [hd]
      have hother : addresses.filter (· ∉ seen ++ [a]) = (addresses.filter (· ∉ seen)).filter fun b => !b == a := by
        rw [List.filter_filter]
        apply List.filter_congr
        intro b _
        by_cases hb : b = a <;> simp [hb]
      rw [if_neg (mt hmem.mp h), ih (d := { d with breakpoints := _ }) hnew,
        List.filter_cons_of_pos (by simpa using h), List.eraseDups_cons, hother, List.append_assoc]
      rfl

theorem ofCapacity_fits {vm : Vm} {capacity : Nat} (h : capacity < 0x8000000000000000) :
    ofCapacity vm capacity = .ok (new vm capacity) := by
  have hfits : Length.fitsWord capacity = true := by
    unfold Length.fitsWord Length.wordLimit
    rw [Bool.and_eq_true, decide_eq_true_iff, decide_eq_true_iff]
    omega
  unfold ofCapacity
  rw [hfits, if_neg (by decide), if_neg (by omega)]
  rfl

theorem ofCapacity_exceeds {vm : Vm} {capacity : Nat} (h : 0x8000000000000000 ≤ capacity) :
    ofCapacity vm capacity = .error .historyLimit := by
  have hexceeds : Length.fitsWord capacity = false := by
    unfold Length.fitsWord Length.wordLimit
    rw [Bool.and_eq_false_iff, decide_eq_false_iff_not, decide_eq_false_iff_not]
    omega
  unfold ofCapacity
  rw [hexceeds]
  rfl

end Debugger

/-! ## The start -/

namespace Startup

variable {files : Files} {settings : Settings} {program : Program} {random : Source UInt8} {notices : List Notice}
  {m : Memory} {path : Option Text} {font rom : List UInt8}

/-- The font that settings name: the built-in one, or what a file holds. -/
def fontOf (files : Files) : (path : Option Text) → Except FileFault (List UInt8)
  | none => .ok fontset
  | some path => files path

/-- The program: the bytes that are given, or what a file holds. -/
def romOf (files : Files) : Program → Except FileFault (List UInt8)
  | .bytes data => .ok data
  | .file path => files path

theorem readFile_ok {path : Text} {data : List UInt8} (h : files path = .ok data) :
    readFile files path notices = .ok data notices := by
  unfold readFile
  rw [h]
  rfl

def programNotices (program : Program) (rom : List UInt8) : List Notice :=
  .imageLoaded rom.length Memory.programAddress :: match program with
    | .bytes _ => []
    | .file path => [.programLoaded path rom.length]

theorem loadFont_eq (hfont : fontOf files path = .ok font) : loadFont files m path notices
    = load (if font.length = Fault.fontBytes then
        (m.load Memory.fontAddress font).map fun m => (m, Memory.fontNotices path font)
      else .error (.fontSize font.length)) notices := by
  cases path with
  | none =>
    cases hfont
    exact congrArg (load · notices) (Memory.loadFont_eq m none)
  | some path =>
    refine (bind_ok (readFile_ok hfont)).trans ?_
    exact congrArg (load · notices) (Memory.loadFont_eq m (some (path, font)))

theorem loadProgram_eq (hrom : romOf files program = .ok rom) : loadProgram files m (some program) notices
    = load ((m.load Memory.programAddress rom).map fun m => (m, programNotices program rom)) notices := by
  cases program with
  | bytes data =>
    cases hrom
    show load (m.loadProgram rom) notices = _
    unfold Memory.loadProgram
    cases m.load Memory.programAddress rom <;> rfl
  | file path =>
    refine (bind_ok (readFile_ok hrom)).trans ?_
    unfold Memory.loadProgramFile Memory.loadProgram
    cases m.load Memory.programAddress rom <;> rfl

/-- The system of settings over a memory that is loaded. -/
def system (settings : Settings) (font rom : List UInt8) (random : Source UInt8) : Debugger :=
  { Debugger.new (.new (Memory.loaded font rom) random) settings.historySize with
    breakpoints := settings.breakpoints.eraseDups.map Debugger.atAddress }

theorem start_wrongFont (hfont : fontOf files settings.fontPath = .ok font) (hlength : font.length ≠ Fault.fontBytes)
    (program : Option Program) :
    start files settings program random notices = .error (.vm (.fontSize font.length)) notices := by
  refine bind_error ?_
  rw [loadFont_eq hfont, if_neg hlength]
  rfl

section Fonted

variable (hfont : fontOf files settings.fontPath = .ok font) (hlength : font.length = Fault.fontBytes)
  (hrom : romOf files program = .ok rom)

include hfont hlength

theorem loadFont_done : loadFont files (.zeros Memory.standardSize) settings.fontPath notices
    = .ok (Memory.fonted font) (notices ++ Memory.fontNotices settings.fontPath font) := by
  rw [loadFont_eq hfont, if_pos hlength, Memory.load_fonted hlength]
  rfl

include hrom

theorem start_longProgram (hlong : Memory.standardSize - Memory.programAddress < rom.length) :
    start files settings (some program) random notices
      = .error (.vm (.loadOutOfBounds Memory.programAddress rom.length Memory.standardSize))
        (notices ++ Memory.fontNotices settings.fontPath font) := by
  refine (bind_ok (loadFont_done hfont hlength)).trans (bind_error ?_)
  rw [loadProgram_eq hrom, Memory.load_tooLong hlength hlong]
  rfl

/-- With a font and a program that fit, what is left of a start is to make the debugger. -/
theorem start_loaded (hroom : rom.length ≤ Memory.standardSize - Memory.programAddress) :
    start files settings (some program) random notices
      = (do
        let d ← ofExcept (Debugger.ofCapacity (.new (Memory.loaded font rom) random) settings.historySize)
        return settings.breakpoints.foldl (fun d address => d.add (Debugger.atAddress address)) d : Startup Debugger)
        (notices ++ Memory.fontNotices settings.fontPath font ++ programNotices program rom) := by
  refine (bind_ok (loadFont_done hfont hlength)).trans (bind_ok ?_)
  rw [loadProgram_eq hrom, Memory.load_loaded hlength hroom]
  rfl

theorem start_done (hroom : rom.length ≤ Memory.standardSize - Memory.programAddress)
    (hhistory : settings.historySize < 0x8000000000000000) :
    start files settings (some program) random notices = .ok (system settings font rom random)
      (notices ++ Memory.fontNotices settings.fontPath font ++ programNotices program rom) := by
  rw [start_loaded hfont hlength hrom hroom, Debugger.ofCapacity_fits hhistory]
  have hnone : (Debugger.new (.new (Memory.loaded font rom) random) settings.historySize).breakpoints
      = [].map Debugger.atAddress := rfl
  have hadded := Debugger.added_beside settings.breakpoints hnone
  have hall : settings.breakpoints.filter (· ∉ []) = settings.breakpoints := List.filter_eq_self.mpr (by simp)
  rw [hall, List.nil_append] at hadded
  exact congrArg (EStateM.Result.ok · _) hadded

theorem start_longHistory (hroom : rom.length ≤ Memory.standardSize - Memory.programAddress)
    (hhistory : 0x8000000000000000 ≤ settings.historySize) :
    start files settings (some program) random notices = .error (.vm .historyLimit)
      (notices ++ Memory.fontNotices settings.fontPath font ++ programNotices program rom) := by
  rw [start_loaded hfont hlength hrom hroom, Debugger.ofCapacity_exceeds hhistory]
  rfl

end Fonted

/-! ## What is put together -/

/-- The debugger is what a start puts together from a font and a program: the memory holds the font, zeros, the program
and zeros again, nothing is recorded, the registers are at their beginning, there is a breakpoint for each address of
the settings, and while nothing is written into the font, glyphs are read from it. -/
structure Assembled (settings : Settings) (font rom : List UInt8) (d : Debugger) : Prop where
  image : d.vm.memory.image = Memory.assembled font rom
  log : d.vm.memory.log = []
  registers : d.vm.registers =
    { pc := 0x200, sp := 0, i := 0, dt := 0, st := 0, v := Vector.replicate 16 0, stack := Vector.replicate 16 0 }
  breakpoints : d.breakpoints = settings.breakpoints.eraseDups.map Debugger.atAddress
  glyphs : ∀ list x, d.vm.AllWriteFrom 80 list → (d.vm.acts list).next? = some (.pointToGlyph x) →
    Vm.ReadsGlyph font (d.vm.acts list) x

theorem holdsFont_of_image {vm : Vm} (himage : vm.memory.image = Memory.assembled font rom) : vm.HoldsFont font := by
  have hcells : vm.memory.cells.toList = Memory.assembled font rom := himage
  rw [Vm.HoldsFont, Memory.block, hcells, List.drop_zero, Memory.assembled, List.append_assoc, List.append_assoc,
    List.take_left]

/-- The machine has come to a byte of the program, and the memory is as it was loaded. -/
structure Reached (font rom : List UInt8) (k : Nat) (vm : Vm) : Prop where
  image : vm.memory.image = Memory.assembled font rom
  pc : vm.registers.pc.toNat = Memory.programAddress + k

section Reached

variable {vm : Vm} {k n : Nat} {high low : UInt8} {i : Instruction} (h : Reached font rom k vm)
  (hlength : font.length = Fault.fontBytes)

include h hlength

theorem Reached.block (hroom : k + n ≤ rom.length) :
    Memory.block vm.memory.cells vm.registers.pc.toNat n = (rom.drop k).take n := by
  have hcells : vm.memory.cells.toList = Memory.assembled font rom := h.image
  have hplace : vm.registers.pc.toNat
      = (font ++ List.replicate (Memory.programAddress - font.length) 0).length + k := by
    rw [h.pc, List.length_append, List.length_replicate, hlength]
    rfl
  have hlong : n ≤ (rom.drop k).length := by
    rw [List.length_drop]
    omega
  rw [Memory.block, hcells, hplace, Memory.assembled, List.append_assoc, List.drop_length_add_append,
    List.drop_append_of_le_length (by omega), List.take_append_of_le_length hlong]

/-- The two bytes that the machine has come to are the instruction that it executes next. -/
theorem Reached.next? (hword : (rom.drop k).take 2 = [high, low])
    (hi : Instruction.ofWord? (Word.ofBytes high low) = some i) : vm.next? = some i := by
  have htwo : min 2 (rom.length - k) = 2 := by
    rw [← List.length_drop, ← List.length_take, hword]
    rfl
  rw [Vm.next?, Vm.word?_eq_block, h.block hlength (by omega), hword]
  exact hi

/-- An instruction that stores nothing, is not refused and goes on to the next one does so without a write. -/
theorem Reached.act (hroom : k + 2 < Memory.standardSize) (hword : (rom.drop k).take 2 = [high, low])
    (hi : Instruction.ofWord? (Word.ofBytes high low) = some i) (hf : vm.refusal? i = none)
    (hstores : i.stores vm.registers = []) (hpc : (vm.completed i).registers.pc = vm.registers.pc + 2) :
    vm.act .step = vm.completed i ∧ Vm.WritesFrom 80 vm .step ∧ Reached font rom (k + 2) (vm.completed i) := by
  obtain ⟨hact, hwrites⟩ := Vm.act_storeless (h.next? hlength hword hi) hf hstores
  refine ⟨hact, hwrites, ?_, ?_⟩
  · rw [Memory.image, Vm.completed_cells hstores]
    exact h.image
  · rw [hpc, UInt16.toNat_add, h.pc]
    show (0x200 + k + 2) % 65536 = 0x200 + (k + 2)
    unfold Memory.standardSize at hroom
    omega

end Reached

theorem system_assembled (hlength : font.length = Fault.fontBytes) :
    Assembled settings font rom (system settings font rom random) := by
  have hlimit : font.length = 80 := hlength
  have himage : (system settings font rom random).vm.memory.image = Memory.assembled font rom :=
    Memory.image_loaded hlength rom
  refine ⟨himage, rfl, rfl, rfl, ?_⟩
  intro list x hlist hnext
  have hfont := (holdsFont_of_image himage).acts (hlimit ▸ hlist)
  exact Vm.glyph_read hfont hlimit hnext

/-- With a font that can be read, a start refuses one of the wrong length whatever the program is, even if there is
none. Otherwise it refuses exactly the programs that are longer than the memory behind their address and the lengths of
the history that fit no word, in this order, and it puts the system together from the others. -/
theorem start_assembles (hfont : fontOf files settings.fontPath = .ok font) :
    (font.length ≠ 80 → ∀ program : Option Program,
        start files settings program random notices = .error (.vm (.fontSize font.length)) notices)
      ∧ (font.length = 80 → ∀ program rom, romOf files program = .ok rom →
        (0x1000 - 0x200 < rom.length → ∃ notices', start files settings (some program) random notices
          = .error (.vm (.loadOutOfBounds 0x200 rom.length 0x1000)) notices')
        ∧ (rom.length ≤ 0x1000 - 0x200 → 0x8000000000000000 ≤ settings.historySize → ∃ notices',
          start files settings (some program) random notices = .error (.vm .historyLimit) notices')
        ∧ (rom.length ≤ 0x1000 - 0x200 → settings.historySize < 0x8000000000000000 → ∃ d notices',
          start files settings (some program) random notices = .ok d notices' ∧ Assembled settings font rom d)) := by
  constructor
  · intro hlength program
    exact start_wrongFont hfont hlength program
  · intro hlength program rom hrom
    refine ⟨?_, ?_, ?_⟩
    · intro hlong
      exact ⟨_, start_longProgram hfont hlength hrom hlong⟩
    · intro hroom hhistory
      exact ⟨_, start_longHistory hfont hlength hrom hroom hhistory⟩
    · intro hroom hhistory
      exact ⟨_, _, start_done hfont hlength hrom hroom hhistory, system_assembled hlength⟩

/-- A font whose bytes are their own addresses. -/
def countingFont : List UInt8 := (List.range 80).map UInt8.ofNat

/-- Settings that name a font file, and an address twice. -/
def countingSettings : Settings := { fontPath := some "font", breakpoints := [0x202, 0x200, 0x202] }

/-- A program that sets a register to ten, points to the glyph of it and draws five rows. -/
def drawsDigit : List UInt8 := [0x60, 0x0A, 0xF0, 0x29, 0xD0, 0x15]

/-- The third instruction of the program reads the glyph of ten. -/
theorem drawsDigit_reads {d : Debugger} (hd : Assembled settings countingFont drawsDigit d) :
    ∃ s m', Vm.step (d.vm.acts [.step, .step]) = .ok s m'
      ∧ s.activity = Memory.readRecords 0x204 [0xD0, 0x15] ++ Memory.readRecords 50 [50, 51, 52, 53, 54] := by
  have hfirst : Reached countingFont drawsDigit 0 d.vm := ⟨hd.image, by rw [hd.registers]; rfl⟩
  obtain ⟨hput, hwrites, hsecond⟩ := hfirst.act (i := .put 0 10) rfl (by decide) rfl (by decide) rfl rfl rfl
  obtain ⟨hpoint, -, hthird⟩ := hsecond.act (i := .pointToGlyph 0) rfl (by decide) rfl (by decide) rfl rfl rfl
  have hdraw := hthird.next? (i := .draw 0 1 5) rfl rfl (by decide)
  have hdigit : (d.vm.completed (.put 0 10)).registers.get 0 = 10 := by
    show (d.vm.registers.set 0 10).get 0 = 10
    rw [hd.registers]
    rfl
  -- the first two cycles, and the state that the third starts from
  rw [← hput] at hsecond hpoint hthird hdraw hdigit
  obtain ⟨s, m₁, hstep, hdraws⟩ :=
    hd.glyphs [.step] 0 ⟨hwrites, trivial⟩ (hsecond.next? rfl rfl (by decide))
  have hm₁ : m₁ = (d.vm.act .step).completed (.pointToGlyph 0) := (Vm.after_ok hstep).symm.trans hpoint
  obtain ⟨s', m₂, hlast, hread⟩ := hdraws [] 0 1 trivial rfl (hm₁ ▸ hdraw)
  have hrun : d.vm.acts [.step, .step] = m₁ := Vm.after_ok hstep
  have hfetched : m₁.fetchRecords = Memory.readRecords 0x204 [0xD0, 0x15] := by
    rw [hm₁, Vm.fetchRecords, hthird.block rfl (by decide), hthird.pc]
    rfl
  have hglyph : s'.activity = m₁.fetchRecords
      ++ Memory.readRecords (5 * (((d.vm.act .step).registers.get 0).toNat % 16))
        ((countingFont.drop (5 * (((d.vm.act .step).registers.get 0).toNat % 16))).take 5) := hread
  refine ⟨s', m₂, ?_, ?_⟩
  · rw [hrun]
    exact hlast
  · rw [hglyph, hfetched, hdigit]
    rfl

/-- An address that is named twice has one breakpoint, and the digit ten is read from the font of the file; no start is
made with four bytes as the font. -/
theorem start_assembles_digit :
    (∃ d notices, start (fun _ => .ok countingFont) countingSettings (some (.bytes drawsDigit)) (.constant 0) []
        = .ok d notices ∧ d.breakpoints = [Debugger.atAddress 0x202, Debugger.atAddress 0x200]
        ∧ ∃ s m', Vm.step (d.vm.acts [.step, .step]) = .ok s m' ∧ s.activity
          = Memory.readRecords 0x204 [0xD0, 0x15] ++ Memory.readRecords 50 [50, 51, 52, 53, 54])
      ∧ start (fun _ => .ok [1, 2, 3, 4]) countingSettings none (.constant 0) []
        = .error (.vm (.fontSize 4)) [] := by
  obtain ⟨-, hloaded⟩ := @start_assembles (fun _ => .ok countingFont) countingSettings (.constant 0) [] countingFont rfl
  obtain ⟨hshort, -⟩ := @start_assembles (fun _ => .ok [1, 2, 3, 4]) countingSettings (.constant 0) [] [1, 2, 3, 4] rfl
  obtain ⟨-, -, hdone⟩ := hloaded (by decide) (.bytes drawsDigit) drawsDigit rfl
  obtain ⟨d, notices, hstart, hd⟩ := hdone (by decide) (by decide)
  exact ⟨⟨d, notices, hstart, hd.breakpoints, drawsDigit_reads hd⟩, hshort (by decide) none⟩

/-- Settings with the shortest history whose length fits no word. -/
def endlessSettings : Settings := { historySize := 0x8000000000000000 }

/-- A history whose length is within the range of a configuration can still be too long for a start. -/
theorem history_unstarted : ¬∀ (files : Files) (settings : Settings) (font rom : List UInt8) (program : Program)
    (random : Source UInt8) (notices : List Notice), fontOf files settings.fontPath = .ok font → font.length = 80 →
      1 ≤ settings.historySize → romOf files program = .ok rom →
        ((∃ d notices', start files settings (some program) random notices = .ok d notices')
          ↔ rom.length ≤ 0x1000 - 0x200) := by
  intro h
  have hiff := h (fun _ => .ok []) endlessSettings fontset [0x12, 0x00] (.bytes [0x12, 0x00]) (.constant 0) []
    rfl fontset_length (by decide) rfl
  obtain ⟨d, notices, hstart⟩ := hiff.mpr (by decide)
  have hrefused : start (fun _ => .ok []) endlessSettings (some (.bytes [0x12, 0x00])) (.constant 0) []
      = .error (.vm .historyLimit) _ := start_longHistory rfl rfl rfl (by decide) (Nat.le_refl _)
  cases hrefused.symm.trans hstart

end Startup

end Chip8
