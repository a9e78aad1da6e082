import Chip8.Memory

/-!
# Blocks of cells

A block is the bytes at consecutive addresses, as far as the memory reaches; laying a block over the cells
drops what would stand past the last one. With these two views a transfer that runs out of the memory half way
is described like one that does not: it moves the part of the block that is there.

`readRecords` and `writeRecords` are the accesses by which a block is read and written.
-/

namespace Chip8.Memory

variable {cells : Array UInt8} {a b n k : Nat} {data : List UInt8}

/-- The bytes of `n` cells from an address on, as far as the memory reaches. -/
def block (cells : Array UInt8) (address n : Nat) : List UInt8 := (cells.toList.drop address).take n

/-- The cells with data laid over those from an address on; what does not fit is dropped. -/
def overlay (cells : Array UInt8) (address : Nat) (data : List UInt8) : Array UInt8 :=
  cells.mapIdx fun k old => if address ≤ k then data.getD (k - address) old else old

def readRecords (address : Nat) (bytes : List UInt8) : List Access :=
  bytes.mapIdx fun k data => { kind := .read, address := address + k, data }

/-- The accesses that write data from an address on; what does not fit is not written. -/
def writeRecords (cells : Array UInt8) (address : Nat) (data : List UInt8) : List Access :=
  ((block cells address data.length).zip data).mapIdx fun k byte =>
    { kind := .write, address := address + k, data := byte.2, previous := byte.1 }

/-! ## Blocks -/

@[simp] theorem block_zero : block cells a 0 = [] := List.take_zero

theorem block_length : (block cells a n).length = min n (cells.size - a) := by
  simp [block]

theorem block_getElem? : (block cells a n)[k]? = if k < n then cells[a + k]? else none := by
  simp [block, List.getElem?_take]

theorem block_outside (h : cells.size ≤ a) : block cells a n = [] := by
  rw [← List.length_eq_zero_iff, block_length]
  omega

theorem block_succ (h : a < cells.size) : block cells a (n + 1) = cells[a] :: block cells (a + 1) n := by
  unfold block
  rw [List.drop_eq_getElem_cons (by simpa using h), List.take_succ_cons]
  rfl

theorem block_set_before (h : a < cells.size) (hb : a < b) {byte : UInt8} :
    block (cells.set a byte) b n = block cells b n := by
  simp [block, List.drop_set_of_lt hb]

theorem block_congr {cells' : Array UInt8} (h : ∀ k, k < n → cells[a + k]? = cells'[a + k]?) :
    block cells a n = block cells' a n := by
  apply List.ext_getElem?
  intro k
  rw [block_getElem?, block_getElem?]
  split
  · next hk => exact h k hk
  · rfl

theorem block_block (h : b + k ≤ n) : ((block cells a n).drop b).take k = block cells (a + b) k := by
  unfold block
  rw [List.drop_take, List.take_take, List.drop_drop, Nat.min_eq_left (by omega)]

/-! ## Laying data over cells -/

@[simp] theorem size_overlay : (overlay cells a data).size = cells.size := by
  simp [overlay]

/-- The byte at `k` after data was laid over: the datum meant for it, or the old one. -/
theorem overlay_getElem? :
    (overlay cells a data)[k]? = cells[k]?.map fun old => if a ≤ k then data.getD (k - a) old else old := by
  simp [overlay]

theorem overlay_elsewhere (h : k < a ∨ a + data.length ≤ k) : (overlay cells a data)[k]? = cells[k]? := by
  rw [overlay_getElem?]
  cases cells[k]? with
  | none => rfl
  | some old =>
    rw [Option.map_some]
    split
    · rw [List.getD_eq_getElem?_getD, List.getElem?_eq_none (by omega), Option.getD_none]
    · rfl

@[simp] theorem overlay_nil : overlay cells a [] = cells := by
  apply Array.ext_getElem?
  intro k
  rw [overlay_elsewhere (by simp only [List.length_nil]; omega)]

theorem overlay_outside (h : cells.size ≤ a) : overlay cells a data = cells := by
  apply Array.ext_getElem?
  intro k
  by_cases hk : k < a
  · exact overlay_elsewhere (.inl hk)
  · rw [Array.getElem?_eq_none (by rw [size_overlay]; omega), Array.getElem?_eq_none (by omega)]

theorem overlay_cons (h : a < cells.size) {byte : UInt8} :
    overlay cells a (byte :: data) = overlay (cells.set a byte) (a + 1) data := by
  apply Array.ext_getElem?
  intro k
  rw [overlay_getElem?, overlay_getElem?, Array.getElem?_set h]
  -- the first datum goes to `a`; at every other address the two sides count from different starts
  by_cases hk : a = k
  · subst hk
    have hlate : ¬a + 1 ≤ a := by omega
    simp [Array.getElem?_eq_getElem h, hlate]
  · rw [if_neg hk]
    congr 1
    funext old
    by_cases ha : a ≤ k
    · obtain ⟨j, rfl⟩ : ∃ j, k = a + 1 + j := ⟨k - (a + 1), by omega⟩
      rw [if_pos ha, if_pos (by omega), show a + 1 + j - a = j + 1 by omega, Nat.add_sub_cancel_left,
        List.getD_cons_succ]
    · rw [if_neg ha, if_neg (by omega)]

/-! ## Records of blocks -/

@[simp] theorem readRecords_nil : readRecords a [] = [] := rfl

theorem readRecords_cons {byte : UInt8} :
    readRecords a (byte :: data) = { kind := .read, address := a, data := byte } :: readRecords (a + 1) data := by
  simp only [readRecords, List.mapIdx_cons, Nat.add_zero]
  congr 2
  funext k x
  rw [show a + (k + 1) = a + 1 + k by omega]

theorem mem_readRecords {r : Access} :
    r ∈ readRecords a data ↔ ∃ k, ∃ h : k < data.length, r = { kind := .read, address := a + k, data := data[k] } := by
  simp only [readRecords, List.mem_mapIdx]
  exact ⟨fun ⟨k, h, e⟩ => ⟨k, h, e.symm⟩, fun ⟨k, h, e⟩ => ⟨k, h, e.symm⟩⟩

/-- A record of reading a block is of the byte that the cell holds. -/
theorem mem_readRecords_block {r : Access} (h : r ∈ readRecords a (block cells a n)) :
    r.kind = .read ∧ cells[r.address]? = some r.data := by
  obtain ⟨k, hk, rfl⟩ := mem_readRecords.mp h
  refine ⟨rfl, ?_⟩
  have hget := List.getElem?_eq_getElem hk
  rw [block_getElem?] at hget
  split at hget
  · exact hget
  · cases hget

/-- Two memories of a size that agree at the addresses of a block's reads have the same block. -/
theorem block_of_reads {cells' : Array UInt8} (hsize : cells.size = cells'.size)
    (h : ∀ r ∈ readRecords a (block cells a n), cells[r.address]? = cells'[r.address]?) :
    block cells a n = block cells' a n := by
  apply block_congr
  intro k hk
  by_cases hin : a + k < cells.size
  · have hlt : k < (block cells a n).length := by rw [block_length]; omega
    exact h _ (mem_readRecords.mpr ⟨k, hlt, rfl⟩)
  · rw [Array.getElem?_eq_none (by omega), Array.getElem?_eq_none (by omega)]

@[simp] theorem writeRecords_nil : writeRecords cells a [] = [] := rfl

theorem writeRecords_outside (h : cells.size ≤ a) : writeRecords cells a data = [] := by
  rw [writeRecords, block_outside h]
  rfl

theorem writeRecords_cons (h : a < cells.size) {byte : UInt8} :
    writeRecords cells a (byte :: data) =
      { kind := .write, address := a, data := byte, previous := cells[a] }
        :: writeRecords (cells.set a byte) (a + 1) data := by
  simp only [writeRecords, List.length_cons, block_succ h, List.zip_cons_cons, List.mapIdx_cons, Nat.add_zero,
    block_set_before h (Nat.lt_succ_self a)]
  congr 2
  funext k x
  rw [show a + (k + 1) = a + 1 + k by omega]

theorem mem_writeRecords {r : Access} (h : r ∈ writeRecords cells a data) :
    r.kind = .write ∧ a ≤ r.address ∧ r.address < a + data.length := by
  simp only [writeRecords, List.mem_mapIdx, List.length_zip] at h
  obtain ⟨k, hk, rfl⟩ := h
  exact ⟨rfl, by dsimp only; omega, by dsimp only; omega⟩

end Chip8.Memory
