import Chip8.Length

/-!
# Memory

A row of bytes, addressed from zero, that keeps a record of every access made to it. Addresses are arbitrary
integers: one outside the row is refused, never wrapped around. Reading and writing are recorded; peeking and
loading an image are not. The record is handed out and emptied by `takeLog`.

Each operation is described by what it does to the two views `cells` and `log`.
-/

namespace Chip8

inductive AccessKind where
  | read
  | write
  deriving DecidableEq, Repr

/-- One recorded access: where, which byte was read or written, and for a write the byte it replaced
(zero for a read). -/
structure Access where
  kind : AccessKind
  address : Nat
  data : UInt8
  previous : UInt8 := 0
  deriving DecidableEq, Repr

structure Memory where
  cells : Array UInt8
  log : List Access := []
  deriving DecidableEq, Repr

namespace Memory

/-- The size of the memory of the machine, and the addresses of the font and of the program in it. -/
def standardSize : Nat := 4096
def fontAddress : Nat := 0x000
def programAddress : Nat := 0x200

def zeros (size : Nat) : Memory := { cells := Array.replicate size 0 }

/-- A memory of a size given as an integer, which must be positive and have room. -/
def ofSize (size : Int) : Except Fault Memory :=
  if size ≤ 0 then .error .memorySize
  else
    match Length.fault? size with
    | some fault => .error fault
    | none => .ok (zeros size.toNat)

def size (m : Memory) : Nat := m.cells.size

def cell? (m : Memory) (address : Int) : Option (Fin m.cells.size) :=
  if h : 0 ≤ address ∧ address < m.cells.size then some ⟨address.toNat, by omega⟩ else none

/-- The byte at an address, without a record. -/
def peek (m : Memory) (address : Int) : Except Fault UInt8 :=
  match m.cell? address with
  | some i => .ok m.cells[i]
  | none => .error (.addressOutOfRange address m.size)

/-- The byte at an address, and the memory with the read recorded. -/
def read (m : Memory) (address : Int) : Except Fault (UInt8 × Memory) :=
  match m.cell? address with
  | some i =>
    let data := m.cells[i]
    .ok (data, { m with log := m.log ++ [{ kind := .read, address := i, data }] })
  | none => .error (.addressOutOfRange address m.size)

/-- The memory with a byte stored at an address, and the write recorded. -/
def store (m : Memory) (address : Int) (data : UInt8) : Except Fault Memory :=
  match m.cell? address with
  | some i =>
    let previous := m.cells[i]
    .ok { cells := m.cells.set i data,
          log := m.log ++ [{ kind := .write, address := i, data, previous }] }
  | none => .error (.addressOutOfRange address m.size)

def byte? (value : Int) : Option UInt8 :=
  if 0 ≤ value ∧ value ≤ 0xFF then some (UInt8.ofNat value.toNat) else none

/-- Stores an integer: the address is judged before the value. -/
def write (m : Memory) (address value : Int) : Except Fault Memory :=
  match m.cell? address, byte? value with
  | some _, some data => m.store address data
  | some _, none => .error (.memoryValue value)
  | none, _ => .error (.addressOutOfRange address m.size)

/-- The cells with `data` laid over those from `offset` on. -/
def splice (cells : Array UInt8) (offset : Nat) (data : List UInt8) : Array UInt8 :=
  cells.extract 0 offset ++ data.toArray ++ cells.extract (offset + data.length) cells.size

/-- Puts an image at an offset, without a record; an image that does not fit is refused whole. -/
def load (m : Memory) (offset : Int) (data : List UInt8) : Except Fault Memory :=
  if offset < 0 ∨ m.size < offset + data.length then
    .error (.loadOutOfBounds offset data.length m.size)
  else
    .ok { m with cells := splice m.cells offset.toNat data }

/-- The recorded accesses, oldest first, and the memory with an empty record. -/
def takeLog (m : Memory) : List Access × Memory := (m.log, { m with log := [] })

def image (m : Memory) : List UInt8 := m.cells.toList

@[simp] theorem size_zeros (n : Nat) : (zeros n).size = n := by simp [zeros, size]

theorem cell?_eq_none_iff {m : Memory} {a : Int} : m.cell? a = none ↔ ¬(0 ≤ a ∧ a < m.size) := by
  simp [cell?, size]

theorem splice_size {cells : Array UInt8} {offset : Nat} {data : List UInt8}
    (h : offset + data.length ≤ cells.size) : (splice cells offset data).size = cells.size := by
  simp only [splice, Array.size_append, Array.size_extract, List.size_toArray]; omega

theorem size_load {m m' : Memory} {offset : Int} {data : List UInt8} (h : m.load offset data = .ok m') :
    m'.size = m.size := by
  unfold load at h
  split at h
  · cases h
  · cases h; exact splice_size (by simp only [size] at *; omega)

theorem size_store {m m' : Memory} {a : Int} {b : UInt8} (h : m.store a b = .ok m') : m'.size = m.size := by
  unfold store at h
  split at h
  · cases h; simp [size]
  · cases h

end Memory

end Chip8
