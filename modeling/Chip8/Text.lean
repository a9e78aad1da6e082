/-!
# Text

A text is a row of code points. Documents can write any code point by its number, so besides characters a text
may hold surrogates: halves of pairs that stand for nothing by themselves, and are never joined. Most text has
none, and is the same as a string; `toString?_ofString` says that nothing is lost on the way.
-/

namespace Chip8

/-- A code point: a character, or a surrogate by its place in their row. -/
inductive CodePoint where
  | char (c : Char)
  | half (n : Fin 2048)
  deriving DecidableEq, Repr

namespace CodePoint

def firstHalf : Nat := 0xd800

def value : CodePoint → Nat
  | char c => c.toNat
  | half n => firstHalf + n

/-- The code point with a number, up to the last there is. -/
def ofNat? (n : Nat) : Option CodePoint :=
  if h : firstHalf ≤ n ∧ n < firstHalf + 2048 then some (half ⟨n - firstHalf, by omega⟩)
  else if n ≤ 0x10ffff then some (char (Char.ofNat n))
  else none

def char? : CodePoint → Option Char
  | char c => some c
  | half _ => none

end CodePoint

structure Text where
  points : List CodePoint
  deriving DecidableEq, Repr, Inhabited

namespace Text

def ofList (s : List Char) : Text := ⟨s.map .char⟩

def ofString (s : String) : Text := ofList s.toList

instance : Coe String Text := ⟨ofString⟩

instance : Append Text := ⟨fun s t => ⟨s.points ++ t.points⟩⟩

/-- The characters of a text; surrogates are left out. -/
def chars (t : Text) : List Char := t.points.filterMap CodePoint.char?

/-- The characters of a text, if it has nothing else. -/
def toList? (t : Text) : Option (List Char) := t.points.mapM CodePoint.char?

/-- The characters of a text, with the sign for what cannot be shown in place of each surrogate. -/
def replaced (t : Text) : List Char := t.points.map fun p => p.char?.getD (Char.ofNat 0xfffd)

def toString? (t : Text) : Option String := t.toList?.map String.ofList

def isEmpty (t : Text) : Bool := t.points.isEmpty

/-- The numbers of the code points, which order texts. -/
def values (t : Text) : List Nat := t.points.map CodePoint.value

theorem toList?_ofList (s : List Char) : (ofList s).toList? = some s := by
  induction s with
  | nil => rfl
  | cons c s ih =>
    simp only [toList?, ofList] at ih
    simp [toList?, ofList, CodePoint.char?, ih]

@[simp] theorem toString?_ofString (s : String) : (ofString s).toString? = some s := by
  simp [toString?, ofString, toList?_ofList]

end Text

end Chip8
