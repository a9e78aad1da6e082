import Chip8.Settings.SetOrder
import Chip8.Yaml.Node.Merge
import Chip8.Yaml.Value

/-!
# The datum of a document

What the nodes of a document stand for. Each node stands for one value, found when it is first asked for. That
of a collection is a place in a queue: what the collection holds is found when its turn comes, after everything
that was asked for before. So of several faults the one at the least depth is reported, and of several there the
first, and a collection may hold itself. The pairs of a list stand in the queue too, after what they hold.
-/

namespace Chip8.Yaml

/-- A collection in the queue. -/
inductive Turn where
  | node (place : Nat)
  | pair (first second : Value)

/-- The state of finding values: the nodes, the values found so far by the places of their nodes, and the
collections in the order in which they were asked for. -/
structure Construction where
  nodes : Nodes
  values : Array (Option Value)
  queue : Array Turn := #[]

/-- Whether nodes with a tag hold other values. -/
def Tag.isCollection : Tag → Bool
  | seq | map | set | omap | pairs => true
  | _ => false

/-- Whether nodes with a tag are taken for scalars. -/
def Tag.isScalar : Tag → Bool
  | null | bool | int | float | binary | timestamp | str => true
  | _ => false

/-- The text of a node that is taken for a scalar: a mapping gives that of its value under the key `=`. A text
that is not found in as many steps as there are nodes is its own. -/
def Nodes.text (nodes : Nodes) : (fuel : Nat) → (place : Nat) → Except Fault Text
  | 0, _ => .error .tooDeep
  | fuel + 1, place =>
    match nodes.content place with
    | .scalar text => .ok text
    | .sequence _ => .error .malformed
    | .mapping entries =>
      match entries.find? fun (key, _) => nodes.tag key = .value with
      | some (_, value) => nodes.text fuel value
      | none => .error .malformed

/-- The value of a node that is taken for a scalar. A point in time must not be a mapping. -/
def Nodes.scalarValue (nodes : Nodes) (place : Nat) : Except Fault Value := do
  let tag := nodes.tag place
  if !tag.isScalar then throw .malformed
  let text ← nodes.text (nodes.row.size + 1) place
  if tag = .timestamp ∧ (nodes.entries? place).isSome then throw .timestampMapping
  tag.read (place + 1) text

namespace Construction

abbrev Action := EStateM Fault Construction

def ofExcept {α : Type} (x : Except Fault α) : Action α :=
  match x with
  | .ok a => pure a
  | .error e => throw e

def value (place : Nat) : Action Value := do
  let c ← get
  match c.values.getD place none with
  | some v => return v
  | none =>
    let isCollection := (c.nodes.tag place).isCollection
    let v ← if isCollection then pure (.collection c.queue.size) else ofExcept (c.nodes.scalarValue place)
    set { c with
      values := c.values.setIfInBounds place (some v)
      queue := if isCollection then c.queue.push (.node place) else c.queue }
    return v

def items (place : Nat) : Action (List Nat) := do
  match (← get).nodes.content place with
  | .sequence items => return items
  | _ => throw .malformed

/-- The rows of a node, which must be a mapping, after it has taken over what it asks for; every key must be
one. -/
def rows (place : Nat) : Action (List (Value × Value)) := do
  let c ← get
  match Nodes.merge place c.nodes with
  | .error e _ => throw e
  | .ok _ nodes =>
    set { c with nodes }
    ((nodes.entries? place).getD []).mapM fun (key, item) => do
      let key ← value key
      if !key.isKey then throw .malformed
      return (key, ← value item)

/-- The pair of a node, which must be a mapping of one entry. -/
def pair (place : Nat) : Action Value := do
  match (← get).nodes.content place with
  | .mapping [(key, item)] =>
    let turn := Turn.pair (← value key) (← value item)
    modifyGet fun c => (.collection c.queue.size, { c with queue := c.queue.push turn })
  | _ => throw .malformed

def collection : Turn → Action Collection
  | .pair first second => return .pair first second
  | .node place => do
    match (← get).nodes.tag place with
    | .seq => return .list (← (← items place).mapM value)
    | .omap | .pairs => return .list (← (← items place).mapM pair)
    | .set => return .set (Value.setOrder ((Value.ofRows (← rows place)).map (·.1)))
    | _ => return .map (Value.ofRows (← rows place))

/-- What the collections of the queue from a turn on hold. Every node comes at most once, and every item of a
sequence makes at most one pair. -/
def collections (turn : Nat) : (fuel : Nat) → Action (List Collection)
  | 0 => return []
  | fuel + 1 => do
    match (← get).queue[turn]? with
    | none => return []
    | some c =>
      let first ← collection c
      return first :: (← collections (turn + 1) fuel)

end Construction

def Document.toDatum (d : Document) : Except Fault Datum :=
  let size := d.nodes.row.size
  let construct : Construction.Action Datum := do
    let value ← Construction.value d.root
    return { value, table := (← Construction.collections 0 (size + d.nodes.itemCount)).toArray }
  match construct { nodes := d.nodes, values := Array.replicate size none } with
  | .ok datum _ => .ok datum
  | .error e _ => .error e

end Chip8.Yaml
