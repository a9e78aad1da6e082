import Chip8.ControlLoop
import Chip8.Host.KeyName

/-!
# The view

The picture on a screen of the host, and the keys of its keyboard. A stroke becomes an event of the control
loop: the keys of the key map come first, then the control keys, and every other key is left to the host. The
events wait in a queue for the next poll. Painting fills the ground, and then one square for each lit pixel.
-/

namespace Chip8.Host

/-- A key of the keyboard going down or up, and whether that only repeats because the key is held. -/
structure Stroke where
  code : Int
  pressed : Bool
  repeated : Bool := false
  deriving DecidableEq, Repr

/-- A filled rectangle. -/
structure Fill where
  left : Nat
  top : Nat
  width : Nat
  height : Nat
  color : Datum

structure View where
  /-- The side of the square that a pixel is painted as. -/
  scale : Nat
  foreground : Datum
  background : Datum
  /-- The keys of the pad by codes; of two with one code the later counts. -/
  padCodes : List (Nat × Nibble)
  /-- The control events by codes; of two with one code the later counts. -/
  controlCodes : List (Nat × InputEvent)
  picture : Option Picture := none
  /-- How often the host was asked to paint again. -/
  updates : Nat := 0
  /-- The events since the last poll, oldest first. -/
  queue : List InputEvent := []

namespace View

/-- The entry for a code, the last of those with it. -/
def entry? {α : Type} (codes : List (Nat × α)) (code : Int) : Option α :=
  (codes.reverse.find? fun (c, _) => c = code).map (·.2)

/-- Refuses what the toolkit does not paint. -/
def painted (field : String) (isPainted : Bool) : Except SettingsFault Unit :=
  if isPainted then .ok () else .error (.unpaintable field)

/-- The view that settings describe. The colours are judged first, then the names of the keys, and last the size. -/
def ofSettings [Toolkit] (settings : Settings) : Except SettingsFault View := do
  painted "foreground" (Toolkit.paintsColor settings.foreground)
  painted "background" (Toolkit.paintsColor settings.background)
  let padCodes ← settings.keyMap.mapM fun (name, key) => do return (← resolve name, key)
  let quit ← resolve settings.quitKey
  let step ← resolve settings.stepKey
  let dump ← resolve settings.dumpKey
  painted "scale" (Toolkit.paintsSize (screenWidth * settings.scale) (screenHeight * settings.scale))
  return {
    scale := settings.scale, foreground := settings.foreground, background := settings.background
    padCodes, controlCodes := [(quit, .quit), (step, .step), (dump, .dump)] }

/-- The event that a stroke means, if it means one: a control key means something only going down. -/
def event? (v : View) (s : Stroke) : Option InputEvent :=
  match entry? v.padCodes s.code with
  | some key => some (.key key.val s.pressed)
  | none => if s.pressed then entry? v.controlCodes s.code else none

/-- Takes a stroke, and says whether it was used up here. One that only repeats is used up and means nothing. -/
def take (v : View) (s : Stroke) : Bool × View :=
  if s.repeated then (true, v)
  else
    match v.event? s with
    | some event => (true, { v with queue := v.queue ++ [event] })
    | none => (false, v)

def poll (v : View) : List InputEvent × View := (v.queue, { v with queue := [] })

def width (v : View) : Nat := screenWidth * v.scale

def height (v : View) : Nat := screenHeight * v.scale

/-- Gives the view a picture, and asks the host to paint. -/
def present (v : View) (picture : Picture) : View :=
  { v with picture := some picture, updates := v.updates + 1 }

/-- The places of the lit pixels of a picture, row by row: column and row. -/
def lit (picture : Picture) : List (Nat × Nat) :=
  picture.toList.zipIdx.flatMap fun (row, y) =>
    row.toList.zipIdx.filterMap fun (isLit, x) => if isLit then some (x, y) else none

def paint (v : View) : List Fill :=
  let ground : Fill := { left := 0, top := 0, width := v.width, height := v.height, color := v.background }
  let squares := ((v.picture.map lit).getD []).map fun (x, y) =>
    { left := x * v.scale, top := y * v.scale, width := v.scale, height := v.scale, color := v.foreground : Fill }
  ground :: squares

end View

end Chip8.Host
