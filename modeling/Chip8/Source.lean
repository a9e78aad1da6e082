/-!
# Sources

A source hands out values one at a time: random bytes, clock readings, the outcomes of writing a file. It is
an endless sequence together with how much of it was taken, so that a run is a function of its sources and
it can be said how often a source was asked.
-/

namespace Chip8

/-- An endless sequence of values and the number of values already taken. -/
structure Source (α : Type) where
  item : Nat → α
  taken : Nat := 0

namespace Source

variable {α : Type}

def next (s : Source α) : α × Source α := (s.item s.taken, { s with taken := s.taken + 1 })

/-- The source that always gives `a`. -/
def constant (a : α) : Source α := { item := fun _ => a }

/-- The source that gives the listed values and then `rest` for ever. -/
def ofList (values : List α) (rest : α) : Source α :=
  let values := values.toArray
  { item := fun n => values.getD n rest }

@[simp] theorem next_fst (s : Source α) : s.next.1 = s.item s.taken := rfl

@[simp] theorem next_snd_taken (s : Source α) : s.next.2.taken = s.taken + 1 := rfl

@[simp] theorem next_snd_item (s : Source α) : s.next.2.item = s.item := rfl

end Source

end Chip8
