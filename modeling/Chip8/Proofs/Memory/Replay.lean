import Chip8.Proofs.Memory.Block

/-!
# Replaying and undoing accesses

A log of accesses is a program for the cells: redoing its writes in order takes the cells to where the accesses
took them, and undoing them, newest first, takes them back. Undoing needs that each access tells the byte it
found in its cell at its time; a log that does so is faithful to the cells it starts from.

Main statements: `undoAll_redoAll` (a faithful log takes back what it did), `redoAll_untouched` (a cell without a
write keeps its byte), and for blocks that redoing the write records is laying the block over the cells.
-/

namespace Chip8

namespace Access

def isRead (r : Access) : Bool := r.kind = .read

def isWrite (r : Access) : Bool := r.kind = .write

/-- The byte that the access found in its cell. -/
def found (r : Access) : UInt8 :=
  match r.kind with
  | .read => r.data
  | .write => r.previous

/-- The cells after the access was made again: a write stores its byte. -/
def redo (r : Access) (cells : Array UInt8) : Array UInt8 :=
  match r.kind with
  | .read => cells
  | .write => cells.setIfInBounds r.address r.data

/-- The cells after the access was taken back: a write gives its cell the byte that it replaced. -/
def undo (r : Access) (cells : Array UInt8) : Array UInt8 :=
  match r.kind with
  | .read => cells
  | .write => cells.setIfInBounds r.address r.previous

/-- The access without the byte that it replaced, if it is a write. -/
def forgetPrevious (r : Access) : Access :=
  match r.kind with
  | .read => r
  | .write => { r with previous := 0 }

variable {r : Access} {cells : Array UInt8} {a : Nat}

theorem redo_untouched (h : r.isWrite → r.address ≠ a) : (r.redo cells)[a]? = cells[a]? := by
  unfold redo
  split
  · rfl
  · next hk =>
    have hne : r.address ≠ a := h (by simp [isWrite, hk])
    rw [Array.getElem?_setIfInBounds_ne hne]

theorem redo_forgetPrevious : r.forgetPrevious.redo cells = r.redo cells := by
  unfold redo forgetPrevious
  cases hk : r.kind <;> simp only [hk]

theorem undo_redo (h : cells[r.address]? = some r.found) : r.undo (r.redo cells) = cells := by
  unfold undo redo
  cases hk : r.kind with
  | read => rfl
  | write =>
    simp only [found, hk] at h
    apply Array.ext_getElem?
    intro k
    rw [Array.setIfInBounds_setIfInBounds]
    by_cases hr : r.address = k
    · subst hr
      obtain ⟨hlt, -⟩ := Array.getElem?_eq_some_iff.mp h
      rw [Array.getElem?_setIfInBounds_self_of_lt hlt, h]
    · rw [Array.getElem?_setIfInBounds_ne hr]

end Access

namespace Memory

variable {cells : Array UInt8} {log rest : List Access} {a n : Nat} {data : List UInt8}

/-- Makes all accesses of a log again, in order. -/
def redoAll (log : List Access) (cells : Array UInt8) : Array UInt8 := log.foldl (fun cells r => r.redo cells) cells

/-- Takes all accesses of a log back, the newest first. -/
def undoAll (log : List Access) (cells : Array UInt8) : Array UInt8 := log.foldr (fun r cells => r.undo cells) cells

/-- Each access tells the byte that its cell held when it was made. -/
def Faithful : (log : List Access) → (cells : Array UInt8) → Prop
  | [], _ => True
  | r :: log, cells => cells[r.address]? = some r.found ∧ Faithful log (r.redo cells)

@[simp] theorem redoAll_nil : redoAll [] cells = cells := rfl

@[simp] theorem redoAll_cons {r : Access} : redoAll (r :: log) cells = redoAll log (r.redo cells) := rfl

theorem redoAll_append : redoAll (log ++ rest) cells = redoAll rest (redoAll log cells) := List.foldl_append

theorem faithful_append : Faithful (log ++ rest) cells ↔ Faithful log cells ∧ Faithful rest (redoAll log cells) := by
  induction log generalizing cells with
  | nil => simp [Faithful]
  | cons r log ih => simp [Faithful, ih, and_assoc]

theorem isWrite_readRecords {r : Access} (h : r ∈ readRecords a data) : r.isWrite = false := by
  obtain ⟨k, hk, rfl⟩ := mem_readRecords.mp h
  rfl

/-- A cell without a write keeps its byte. -/
theorem redoAll_untouched (h : ∀ r ∈ log, r.isWrite → r.address ≠ a) : (redoAll log cells)[a]? = cells[a]? := by
  induction log generalizing cells with
  | nil => rfl
  | cons r log ih =>
    rw [redoAll_cons, ih fun r' hr' => h r' (List.mem_cons_of_mem r hr'),
      Access.redo_untouched (h r List.mem_cons_self)]

/-- Taking back a faithful log restores the cells that it starts from. -/
theorem undoAll_redoAll (h : Faithful log cells) : undoAll log (redoAll log cells) = cells := by
  induction log generalizing cells with
  | nil => rfl
  | cons r log ih =>
    obtain ⟨hr, hlog⟩ := h
    -- the first access is taken back last, when its cell is as it left it
    change r.undo (undoAll log (redoAll log (r.redo cells))) = cells
    rw [ih hlog, Access.undo_redo hr]

/-! ## The records of blocks -/

@[simp] theorem redoAll_readRecords : redoAll (readRecords a data) cells = cells := by
  induction data generalizing a with
  | nil => rfl
  | cons byte data ih => rw [readRecords_cons, redoAll_cons]; exact ih

theorem faithful_readRecords : Faithful (readRecords a (block cells a n)) cells := by
  induction n generalizing a with
  | zero => trivial
  | succ n ih =>
    by_cases h : a < cells.size
    · rw [block_succ h, readRecords_cons]
      exact ⟨Array.getElem?_eq_getElem h, ih⟩
    · rw [block_outside (by omega)]
      trivial

@[simp] theorem redoAll_writeRecords : redoAll (writeRecords cells a data) cells = overlay cells a data := by
  induction data generalizing cells a with
  | nil => simp
  | cons byte data ih =>
    by_cases h : a < cells.size
    · rw [writeRecords_cons h, redoAll_cons, overlay_cons h, ← ih]
      simp only [Access.redo, Array.setIfInBounds, h, dite_true]
    · rw [writeRecords_outside (by omega), overlay_outside (by omega), redoAll_nil]

theorem faithful_writeRecords : Faithful (writeRecords cells a data) cells := by
  induction data generalizing cells a with
  | nil => trivial
  | cons byte data ih =>
    by_cases h : a < cells.size
    · rw [writeRecords_cons h]
      refine ⟨Array.getElem?_eq_getElem h, ?_⟩
      simp only [Access.redo, Array.setIfInBounds, h, dite_true]
      exact ih
    · rw [writeRecords_outside (by omega)]
      trivial

/-! ## The same writes on other cells -/

/-- Without the bytes replaced, the write records of data are the same for all memories of a size. -/
theorem forgetPrevious_writeRecords {cells' : Array UInt8} (h : cells.size = cells'.size) :
    (writeRecords cells a data).map Access.forgetPrevious
      = (writeRecords cells' a data).map Access.forgetPrevious := by
  induction data generalizing cells cells' a with
  | nil => rfl
  | cons byte data ih =>
    by_cases ha : a < cells.size
    · have hsize : (cells.set a byte ha).size = (cells'.set a byte (h ▸ ha)).size := by
        rw [Array.size_set, Array.size_set, h]
      rw [writeRecords_cons ha, writeRecords_cons (h ▸ ha), List.map_cons, List.map_cons, ih hsize]
      rfl
    · rw [writeRecords_outside (by omega), writeRecords_outside (by omega)]

theorem redoAll_congr (h : log.map Access.forgetPrevious = rest.map Access.forgetPrevious) :
    redoAll log cells = redoAll rest cells := by
  have hredo : ∀ log : List Access, redoAll log cells = redoAll (log.map Access.forgetPrevious) cells := by
    intro log
    simp only [redoAll, List.foldl_map, Access.redo_forgetPrevious]
  rw [hredo log, hredo rest, h]

end Memory

end Chip8
