import Chip8.Decimal.Shortest
import Chip8.Text.Quoted

/-!
# Data

The values a settings document is made of, and how they are written when a message shows them. A collection
may stand in several places, also inside itself, so values name collections by their places in a table, and a
datum is a value together with the table. Mappings keep the order in which their keys first came.

`shown` is the plain text of a value, `literal` the form it has inside other values: only there is text
quoted. A collection inside itself is written as dots. A value has no text if an integer in it has more digits
than are written, or if its parts stand deeper inside it than there is room for.
-/

namespace Chip8

open Numeral

structure Date where
  year : Nat
  month : Nat
  day : Nat
  deriving DecidableEq, Repr

/-- A point in time, with an offset from universal time in minutes if it has one. -/
structure Moment where
  date : Date
  hour : Nat
  minute : Nat
  second : Nat
  microsecond : Nat := 0
  offset : Option Int := none
  deriving DecidableEq, Repr

/-- Why a value has no text. -/
inductive TextFault where
  | longInteger
  | tooDeep
  deriving DecidableEq, Repr

def TextFault.message : TextFault → String
  | longInteger =>
    "Exceeds the limit (4300 digits) for integer string conversion; "
      ++ "use sys.set_int_max_str_digits() to increase the limit"
  | tooDeep => "maximum recursion depth exceeded while getting the repr of an object"

/-- A single value. -/
inductive Value where
  | null
  | bool (b : Bool)
  | int (n : Int)
  /-- A double. One that is no number came from somewhere: it is a key of its own for each origin. -/
  | float (x : Float) (origin : Nat := 0)
  | text (t : Text)
  | bytes (data : List UInt8)
  | date (d : Date)
  | moment (m : Moment)
  /-- The collection at a place of the table. -/
  | collection (place : Nat)
  deriving Inhabited

/-- Several values together. -/
inductive Collection where
  | list (items : List Value)
  | set (items : List Value)
  | map (entries : List (Value × Value))
  | pair (first second : Value)

instance : Inhabited Collection := ⟨.list []⟩

/-- The collection at a place of a table. Behind the end of the table all lists are empty. -/
def collectionAt (table : Array Collection) (place : Nat) : Collection := table.getD place default

/-- A value of a settings document, with the table that its collections stand in. -/
structure Datum where
  value : Value
  table : Array Collection := #[]
  deriving Inhabited

namespace Value

def isNull : Value → Bool
  | null => true
  | _ => false

/-- Digits filled with zeros to a width. -/
def padded (width n : Nat) : String := ({ width : Format } : Format).write n

def dateText (d : Date) : String := padded 4 d.year ++ "-" ++ padded 2 d.month ++ "-" ++ padded 2 d.day

/-- An offset from universal time as written. -/
def offsetText (minutes : Int) : String :=
  (if minutes < 0 then "-" else "+") ++ padded 2 (minutes.natAbs / 60) ++ ":" ++ padded 2 (minutes.natAbs % 60)

/-- A point in time as written. -/
def momentText (m : Moment) : String :=
  dateText m.date ++ " " ++ padded 2 m.hour ++ ":" ++ padded 2 m.minute ++ ":" ++ padded 2 m.second
    ++ (if m.microsecond = 0 then "" else "." ++ padded 6 m.microsecond)
    ++ (match m.offset with | some minutes => offsetText minutes | none => "")

/-- A span of whole seconds in the literal form: days and the seconds of the last day. -/
def spanLiteral (seconds : Int) : String :=
  let days := seconds / 86400
  let rest := seconds % 86400
  let fields := (if days = 0 then [] else ["days=" ++ decimal days])
    ++ (if rest = 0 then [] else ["seconds=" ++ decimal rest])
  "datetime.timedelta(" ++ (if fields.isEmpty then "0" else ", ".intercalate fields) ++ ")"

def dateLiteral (d : Date) : String :=
  "datetime.date(" ++ ", ".intercalate ([d.year, d.month, d.day].map fun (n : Nat) => decimal n) ++ ")"

/-- A point in time in the literal form: seconds that are zero are left out with everything after them. -/
def momentLiteral (m : Moment) : String :=
  let fine := if m.microsecond ≠ 0 then [m.second, m.microsecond] else if m.second ≠ 0 then [m.second] else []
  let fields := [m.date.year, m.date.month, m.date.day, m.hour, m.minute] ++ fine
  let zone := match m.offset with
    | none => []
    | some 0 => ["tzinfo=datetime.timezone.utc"]
    | some minutes => ["tzinfo=datetime.timezone(" ++ spanLiteral (minutes * 60) ++ ")"]
  "datetime.datetime(" ++ ", ".intercalate (fields.map (fun (n : Nat) => decimal n) ++ zone) ++ ")"

def escapeByte (quote : Char) (b : UInt8) : List Char :=
  let c := Char.ofNat b.toNat
  if c = quote || c = '\\' then ['\\', c]
  else if c = '\t' then ['\\', 't']
  else if c = '\n' then ['\\', 'n']
  else if c = '\r' then ['\\', 'r']
  else if 0x20 ≤ b ∧ b < 0x7f then [c]
  else '\\' :: 'x' :: ({ base := 16, width := 2 : Format }.write b.toNat).toList

def bytesLiteral (data : List UInt8) : String :=
  let quote := Text.quoteFor (data.map fun b => Char.ofNat b.toNat)
  String.ofList ('b' :: quote :: data.flatMap (escapeByte quote) ++ [quote])

def boolText (b : Bool) : String := if b then "True" else "False"

/-- An integer as written, if it is not too long. -/
def intText (n : Int) : Except TextFault String :=
  let text := natChars 10 n.natAbs
  if maxDecimalDigits < text.length then .error .longInteger
  else .ok ((if n < 0 then "-" else "") ++ String.ofList text)

/-- How many levels the literal form of a single value needs: a point in time is written with its zone inside it, and
a zone other than universal time with its offset inside that. -/
def levels : Value → Nat
  | moment m =>
    match m.offset with
    | none => 0
    | some minutes => if minutes = 0 then 1 else 2
  | _ => 0

/-- A value as it is written inside other values, given how collections are written. -/
def literal (room : Nat) (collection : Nat → Except TextFault String) (v : Value) : Except TextFault String :=
  if room < v.levels then .error .tooDeep
  else
    match v with
    | null => .ok "None"
    | bool b => .ok (boolText b)
    | int n => intText n
    | float x _ => .ok (Decimal.write x)
    | text t => .ok (Text.quoted t)
    | bytes data => .ok (bytesLiteral data)
    | date d => .ok (dateLiteral d)
    | moment m => .ok (momentLiteral m)
    | .collection place => collection place

end Value

namespace Collection

/-- Parts between an opening and a closing text. -/
def enclosed (opening closing : String) (parts : List String) : String :=
  opening ++ ", ".intercalate parts ++ closing

/-- A collection as written, given how its values are. -/
def literal (written : Value → Except TextFault String) : Collection → Except TextFault String
  | list items => do return enclosed "[" "]" (← items.mapM written)
  | set [] => .ok "set()"
  | set items => do return enclosed "\x7b" "\x7d" (← items.mapM written)
  | map entries => do
    return enclosed "\x7b" "\x7d" (← entries.mapM fun (key, value) =>
      return (← written key) ++ ": " ++ (← written value))
  | pair first second => do return enclosed "(" ")" (← [first, second].mapM written)

/-- How many levels inside a collection its values stand. A set is written by way of the list of its values. -/
def levels : Collection → Nat
  | set _ => 2
  | _ => 1

theorem levels_pos (c : Collection) : 0 < c.levels := by cases c <;> exact Nat.succ_pos _

/-- A collection inside itself as written. -/
def dots : Collection → String
  | list _ => "[...]"
  | set _ => "set(...)"
  | map _ => "\x7b...\x7d"
  | pair _ _ => "(...)"

def isEmpty : Collection → Bool
  | list items => items.isEmpty
  | set items => items.isEmpty
  | map entries => entries.isEmpty
  | pair _ _ => false

end Collection

namespace Datum

/-- The datum of a value without collections. -/
def ofValue (value : Value) : Datum := { value }

instance : Coe Value Datum := ⟨ofValue⟩

/-- The collection at a place as written inside others that stand at the places `around`, with room for so many levels
more. -/
def collectionLiteral (table : Array Collection) (around : List Nat) (room place : Nat) : Except TextFault String :=
  let c := collectionAt table place
  if place ∈ around then .ok c.dots
  else c.literal fun v =>
    if c.levels ≤ room then
      v.literal (room - c.levels) fun inner => collectionLiteral table (place :: around) (room - c.levels) inner
    else .error .tooDeep
termination_by room
decreasing_by exact Nat.sub_lt (Nat.lt_of_lt_of_le c.levels_pos ‹_›) c.levels_pos

/-- A value as it is written inside other values. -/
def literal (room : Nat) (d : Datum) : Except TextFault String :=
  d.value.literal room (collectionLiteral d.table [] room)

/-- A value as a message shows it. -/
def shown (room : Nat) (d : Datum) : Except TextFault Text :=
  match d.value with
  | .text t => .ok t
  | .date day => .ok (Value.dateText day)
  | .moment m => .ok (Value.momentText m)
  | _ => Text.ofString <$> d.literal room

/-- The room that a program has which was started as usual, out of a thousand levels. -/
def usualRoom : Nat := 980

def shown? (d : Datum) (room : Nat := usualRoom) : Option Text := (d.shown room).toOption

def collection? (d : Datum) : Option Collection :=
  match d.value with
  | .collection place => some (collectionAt d.table place)
  | _ => none

/-- Whether the value counts as given: null, false, zero and what is empty do not. -/
def given (d : Datum) : Bool :=
  match d.value with
  | .null | .bool false | .int 0 | .bytes [] => false
  | .text t => !t.isEmpty
  | .float x _ => x != 0.0
  | .collection place => !(collectionAt d.table place).isEmpty
  | _ => true

def items? (d : Datum) : Option (List Datum) :=
  match d.collection? with
  | some (.list items) => some (items.map ({ d with value := · }))
  | _ => none

/-- The keys and values of a mapping. -/
def entries? (d : Datum) : Option (List (Datum × Datum)) :=
  match d.collection? with
  | some (.map entries) => some (entries.map fun (key, value) => ({ d with value := key }, { d with value }))
  | _ => none

def get? (key : Text) : List (Datum × Datum) → Option Datum
  | [] => none
  | (k, value) :: rest =>
    match k.value with
    | .text t => if t = key then some value else get? key rest
    | _ => get? key rest

end Datum

end Chip8
