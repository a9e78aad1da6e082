import Chip8.Yaml.Fault
import Chip8.Yaml.Node

/-!
# Merge keys

An entry with the key `<<` stands for the entries of another mapping, or of the mappings of a sequence, and
gives way to them: they come first, so that a mapping's own entries win, and of several mappings in a sequence
the first wins. The key `=` becomes plain text.

A mapping whose entries are taken over is changed in the same way before, and may be the one that is being
changed. Every such step first removes an entry with the key `<<`, and none is ever added, so the number of
entries bounds the steps.
-/

namespace Chip8.Yaml.Nodes

abbrev Action := EStateM Fault Nodes

/-- The number of entries before the first with the key `<<`, and the value of that one. -/
def nextMerge (nodes : Nodes) : List (Nat × Nat) → Option (Nat × Nat)
  | [] => none
  | (key, value) :: rest =>
    if nodes.tag key = .merge then some (0, value)
    else (nextMerge nodes rest).map fun (before, value) => (before + 1, value)

def textKeys (nodes : Nodes) (entries : List (Nat × Nat)) : Nodes :=
  entries.foldl (fun nodes (key, _) => if nodes.tag key = .value then nodes.retag key .str else nodes) nodes

def mappingAt (place : Nat) : Action (List (Nat × Nat)) := do
  match (← get).entries? place with
  | some entries => return entries
  | none => throw .malformed

/-- Takes over what the entries of a mapping from an index on ask for, after what was `taken` already. -/
def mergeFrom : (fuel : Nat) → (place index : Nat) → (taken : List (Nat × Nat)) → Action Unit
  | 0, _, _, _ => throw .malformed
  | fuel + 1, place, index, taken => do
    let entries ← mappingAt place
    let ahead := entries.drop index
    match (← get).nextMerge ahead with
    | none =>
      modify (·.textKeys ahead)
      if !taken.isEmpty then modify (·.refill place (.mapping (taken ++ entries)))
    | some (before, value) =>
      modify (·.textKeys (ahead.take before))
      modify (·.refill place (.mapping (entries.eraseIdx (index + before))))
      let mergeAt (place : Nat) : Action (List (Nat × Nat)) := do
        let _ ← mappingAt place
        mergeFrom fuel place 0 []
        mappingAt place
      let more ← match (← get).content value with
        | .sequence items => pure (← items.mapM mergeAt).reverse.flatten
        | _ => mergeAt value
      mergeFrom fuel place (index + before) (taken ++ more)

/-- Takes over what the entries of a mapping ask for. -/
def merge (place : Nat) : Action Unit := do mergeFrom ((← get).entryCount + 1) place 0 []

end Chip8.Yaml.Nodes
