import Chip8.Yaml.Tag

/-!
# Nodes

The nodes of a document stand in a row, and name each other by their places: an alias is the place of the node
that it stands for, so a node may hold itself. A node is a scalar with its text, a sequence, or a mapping as a
row of entries, and each has a tag.
-/

namespace Chip8.Yaml

inductive Content where
  | scalar (text : Text)
  | sequence (items : List Nat)
  | mapping (entries : List (Nat × Nat))
  deriving DecidableEq, Repr, Inhabited

structure Node where
  tag : Tag
  content : Content
  deriving DecidableEq, Repr

namespace Node

/-- The scalar that stands for nothing. -/
def empty : Node := ⟨.null, .scalar ""⟩

instance : Inhabited Node := ⟨empty⟩

end Node

/-- The nodes of a document. -/
structure Nodes where
  row : Array Node := #[]
  deriving Repr, Inhabited

namespace Nodes

def tag (nodes : Nodes) (place : Nat) : Tag := (nodes.row.getD place default).tag

def content (nodes : Nodes) (place : Nat) : Content := (nodes.row.getD place default).content

/-- Gives the node at a place a tag. -/
def retag (nodes : Nodes) (place : Nat) (tag : Tag) : Nodes := ⟨nodes.row.modify place ({ · with tag })⟩

def refill (nodes : Nodes) (place : Nat) (content : Content) : Nodes :=
  ⟨nodes.row.modify place ({ · with content })⟩

/-- The entries of the node at a place, if it is a mapping. -/
def entries? (nodes : Nodes) (place : Nat) : Option (List (Nat × Nat)) :=
  match nodes.content place with
  | .mapping entries => some entries
  | _ => none

def itemCount (nodes : Nodes) : Nat :=
  nodes.row.foldl (fun n node => match node.content with | .sequence items => n + items.length | _ => n) 0

def entryCount (nodes : Nodes) : Nat :=
  nodes.row.foldl (fun n node => match node.content with | .mapping entries => n + entries.length | _ => n) 0

end Nodes

/-- A document: its nodes, and the place of the outermost. -/
structure Document where
  nodes : Nodes
  root : Nat

end Chip8.Yaml
