import Chip8.Settings.Calendar

/-!
# Keys of mappings

Which values may be keys, and which keys are the same: numbers by their value, whatever their kind, where a
truth value counts as one or zero. Putting an entry under a key that is there changes the value and keeps the
place and the key. Doubles that are no numbers are the same if they have one origin.
-/

namespace Chip8.Value

/-- Whether a value may be a key: what holds other values may not. -/
def isKey : Value → Bool
  | collection _ => false
  | _ => true

/-- The integer that a double is equal to. -/
def wholeOf? (x : Float) : Option Int :=
  if x.isNaN || x.isInf then none
  else
    let (m, q) := Decimal.parts x.toBits
    let scale := Nat.pow 2 (-q).toNat
    if m % scale = 0 then
      let n : Int := m / scale * Nat.pow 2 q.toNat
      some (if x < 0.0 then -n else n)
    else none

/-- The integer that a number is equal to. -/
def whole? : Value → Option Int
  | bool b => some b.toNat
  | int n => some n
  | float x _ => wholeOf? x
  | _ => none

/-- Whether two keys are the same. -/
def sameKey (a b : Value) : Bool :=
  match a, b with
  | null, null => true
  | text s, text t => s = t
  | bytes s, bytes t => s = t
  | date d, date e => d = e
  | moment m, moment n => m.same n
  | float x i, float y j => x == y || x.isNaN && y.isNaN && i = j
  | a, b =>
    match a.whole?, b.whole? with
    | some m, some n => m = n
    | _, _ => false

def put (key value : Value) : List (Value × Value) → List (Value × Value)
  | [] => [(key, value)]
  | (k, v) :: rest => if k.sameKey key then (k, value) :: rest else (k, v) :: put key value rest

/-- The entries that rows make when they are put one after the other. -/
def ofRows (rows : List (Value × Value)) : List (Value × Value) :=
  rows.foldl (fun entries (key, value) => put key value entries) []

end Chip8.Value
