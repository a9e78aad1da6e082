import Chip8.Decimal.Reading
import Chip8.Settings.Key
import Chip8.Text.Base64
import Chip8.Text.LowerCase
import Chip8.Yaml.Fault
import Chip8.Yaml.Tag

/-!
# Values of scalars

What the text of a scalar stands for by its tag. In numbers underscores do not count, and a colon separates
digits of base sixty. A surrogate is a sign that no number has.
-/

namespace Chip8.Yaml

open Numeral

def withoutUnderscores (t : Text) : Text := ⟨t.points.filter (· ≠ .char '_')⟩

/-- Whether a text is negative, and the text without its sign. A number needs a code point at least. -/
def signed (t : Text) : Except Fault (Bool × List CodePoint) :=
  match t.points with
  | [] => .error .emptyNumeral
  | .char '-' :: rest => .ok (true, rest)
  | .char '+' :: rest => .ok (false, rest)
  | s => .ok (false, s)

def colonParts : List CodePoint → List Text
  | [] => [⟨[]⟩]
  | p :: rest =>
    match colonParts rest with
    | [] => [⟨[p]⟩]
    | first :: more => if p = .char ':' then ⟨[]⟩ :: first :: more else ⟨p :: first.points⟩ :: more

/-- The integer that a numeral stands for. A decimal numeral that is too long is refused for its length. -/
def numeral (base : Nat) (t : Text) : Except Fault Int :=
  let s := t.replaced
  let digits := (Decimal.digitsAhead (takeSign (Text.trim s)).2).1.length
  if base = 10 ∧ maxDecimalDigits < digits then .error (.longInteger digits)
  else
    match readInt? base s with
    | some n => .ok n
    | none => .error (.notInteger base (Text.quotedUpTo shownLimit t))

/-- The integer without sign that a text stands for, its base shown by how it starts. -/
def magnitude : List CodePoint → Except Fault Int
  | [] => .error .emptyNumeral
  | [.char '0'] => .ok 0
  | .char '0' :: .char 'b' :: rest => numeral 2 ⟨rest⟩
  | .char '0' :: .char 'x' :: rest => numeral 16 ⟨rest⟩
  | .char '0' :: rest => numeral 8 ⟨.char '0' :: rest⟩
  | s =>
    if s.contains (.char ':') then do
      let parts ← (colonParts s).mapM (numeral 10)
      return parts.foldl (fun n d => n * 60 + d) 0
    else numeral 10 ⟨s⟩

def integer (t : Text) : Except Fault Int := do
  let (negative, s) ← signed (withoutUnderscores t)
  let n ← magnitude s
  return if negative then -n else n

/-- The double that a numeral stands for. -/
def decimal (t : Text) : Except Fault Float :=
  match Decimal.read? t.replaced with
  | some x => .ok x
  | none => .error (.notDecimal (Text.quoted t))

/-- The sum of digits of base sixty, of which the first has a place; every place must be a double. -/
def ofSixties (place : Nat) (sum : Float) : (digits : List Float) → Except Fault Float
  | [] => .ok sum
  | d :: rest =>
    if Decimal.exceedsDoubles (Nat.pow 60 place) then .error .placeLimit
    else ofSixties (place + 1) (sum + d * Float.ofNat (Nat.pow 60 place)) rest

/-- The double that a text stands for. The sign for no number stands for one and the same everywhere; one that
is computed is new, and has the given origin. -/
def fraction (origin : Nat) (t : Text) : Except Fault Value := do
  let (negative, s) ← signed (Text.lower (withoutUnderscores t))
  let sign := if negative then -1.0 else 1.0
  if Text.mk s = ".inf" then return .float (sign * (1.0 / 0.0))
  else if Text.mk s = ".nan" then return .float (0.0 / 0.0)
  else if s.contains (.char ':') then
    let digits ← (colonParts s).mapM decimal
    return .float (sign * (← ofSixties 0 0.0 digits.reverse)) origin
  else return .float (sign * (← decimal ⟨s⟩)) origin

/-! ## Points in time -/

def digitsValue (s : List Char) : Nat := ofRow 10 (Decimal.digitsAhead s).1

/-- Refuses a part of a point in time unless it is in range. -/
def ensure (inRange : Bool) (part : CalendarPart) : Except Fault Unit :=
  if inRange then .ok () else .error (.calendar part)

def Tag.Stamp.date (t : Tag.Stamp) : Except Fault Date := do
  let year := digitsValue t.year
  let month := digitsValue t.month
  let day := digitsValue t.day
  ensure (year ≠ 0) (.year year)
  ensure (1 ≤ month && month ≤ 12) .month
  ensure (1 ≤ day && day ≤ daysIn year month) .day
  return { year, month, day }

/-- The offset of a stamp in minutes; it is less than a day. -/
def Tag.Stamp.offset (t : Tag.Stamp) : Except Fault (Option Int) :=
  match t.zone with
  | none => .ok none
  | some (none, _, _) => .ok (some 0)
  | some (some sign, hours, minutes) => do
    let size : Int := digitsValue hours * 60 + digitsValue minutes
    let offset := if sign = '-' then -size else size
    ensure (size < 24 * 60) (.offset (Value.spanLiteral (offset * 60)))
    return some offset

/-- The microseconds of a stamp: six digits of its fraction. -/
def Tag.Stamp.microsecond (t : Tag.Stamp) : Nat :=
  digitsValue ((t.fraction ++ List.replicate 6 '0').take 6)

/-- What a stamp stands for: a day, or a point in time. The offset is judged first. -/
def Tag.Stamp.value (t : Tag.Stamp) : Except Fault Value :=
  match t.time with
  | none => .date <$> t.date
  | some (hours, minutes, seconds) => do
    let offset ← t.offset
    let date ← t.date
    let hour := digitsValue hours
    let minute := digitsValue minutes
    let second := digitsValue seconds
    ensure (hour < 24) .hour
    ensure (minute < 60) .minute
    ensure (second < 60) .second
    return .moment { date, hour, minute, second, microsecond := t.microsecond, offset }

/-- The point in time that a text stands for. -/
def timestamp (t : Text) : Except Fault Value :=
  match t.toList?.bind fun s => Tag.stamp? (Tag.withoutLastBreak s) with
  | some stamp => stamp.value
  | none => .error .notTimestamp

/-! ## All tags -/

def truth (t : Text) : Except Fault Bool :=
  match (Text.lower t).toString?.bind fun word => Tag.truthWords.lookup word with
  | some b => .ok b
  | none => .error .notTruthValue

/-- The bytes that a text in base 64 stands for. -/
def binary (t : Text) : Except Fault (List UInt8) :=
  match (t.toList?.filter fun s => s.all (·.toNat < 0x80)).bind Text.Base64.decode? with
  | some data => .ok data
  | none => .error .malformed

/-- What a text with a tag stands for; only the tags of scalars give one a meaning. The origin tells apart
doubles that are no number. -/
def Tag.read (tag : Tag) (origin : Nat) (t : Text) : Except Fault Value :=
  match tag with
  | null => .ok .null
  | bool => .bool <$> truth t
  | int => .int <$> integer t
  | float => fraction origin t
  | binary => .bytes <$> Yaml.binary t
  | timestamp => Yaml.timestamp t
  | str => .ok (.text t)
  | omap | pairs | set | seq | map | merge | value | other _ => .error .malformed

end Chip8.Yaml
