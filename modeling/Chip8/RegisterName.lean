import Chip8.Numeral.Reading
import Chip8.Registers

/-!
# Registers by name

A byte register is asked for as `V` and one hexadecimal digit; the digit may be a decimal digit of any script.
The other registers have names whose case does not matter; two of them, `V` and `STACK`, name a whole row.

Other names reach what a record of registers has besides its registers: all of them as one, what belongs to this
record alone, and what is common to all records.
-/

namespace Chip8

inductive RegisterReading where
  | single (value : Nat)
  | row (values : List Nat)
  /-- All registers as one. -/
  | whole (registers : Registers)
  /-- Something that belongs to the record alone: no two records have the same. -/
  | own
  /-- Something that is common to all records. -/
  | common
  deriving DecidableEq, Repr

namespace RegisterReading

/-- Whether two readings, taken of two records, are the same. -/
def same (a b : RegisterReading) : Bool := a = b && a ≠ own

def isNumber (n : Int) : RegisterReading → Bool
  | single value => n = value
  | _ => false

end RegisterReading

namespace Registers

/-- A character as it stands in a small-letter name: capitals of the Latin alphabet lose their size, and so
does the sign for the kelvin. -/
def smallLetter (c : Char) : Char := if c.toNat = 0x212a then 'k' else c.toLower

/-- What a record can do, under its name: each of these belongs to one record. -/
def ownNames : List String :=
  ["copy", "__delattr__", "__dir__", "__eq__", "__format__", "__ge__", "__getattribute__", "__getstate__", "__gt__",
   "__init__", "__le__", "__lt__", "__ne__", "__reduce__", "__reduce_ex__", "__repr__", "__setattr__", "__sizeof__",
   "__str__"]

def commonNames : List String :=
  ["__annotations__", "__class__", "__dataclass_fields__", "__dataclass_params__", "__doc__", "__init_subclass__",
   "__match_args__", "__module__", "__new__", "__subclasshook__"]

def readNamed? (r : Registers) (name : String) : Option RegisterReading :=
  match String.ofList (name.toList.map smallLetter) with
  | "pc" => some (.single r.pc.toNat)
  | "sp" => some (.single r.sp)
  | "i" => some (.single r.i.toNat)
  | "dt" => some (.single r.dt.toNat)
  | "st" => some (.single r.st.toNat)
  | "v" => some (.row (r.v.toList.map UInt8.toNat))
  | "stack" => some (.row (r.stack.toList.map UInt16.toNat))
  | "__dict__" => some (.whole r)
  | other =>
    if other ∈ ownNames then some .own else if other ∈ commonNames then some .common else none

def readName? (r : Registers) (name : String) : Option RegisterReading :=
  match name.toList with
  | ['V', digit] =>
    (Numeral.digitValue? 16 digit).bind fun d =>
      if h : d < 16 then some (.single (r.get ⟨d, h⟩).toNat) else none
  | _ => r.readNamed? name

/-- Whether a name shows the same in two records. -/
def sameUnder (name : String) (r s : Registers) : Bool :=
  match r.readName? name, s.readName? name with
  | none, none => true
  | some a, some b => a.same b
  | _, _ => false

end Registers

end Chip8
