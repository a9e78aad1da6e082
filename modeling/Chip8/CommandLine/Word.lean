import Chip8.CommandLine.Fault
import Chip8.Text.DecimalDigit

/-!
# Words

What each argument is by its form. An argument that starts with a dash is a flag, possibly with something joined
to it: after an equals sign, or after the letter of a flag of one letter. A word after two dashes may be cut
short as long as it is clear. A dash alone, a negative number, and what holds a space are plain all the same.
After the separator everything is plain.
-/

namespace Chip8.CommandLine

/-- The argument after which everything is plain. -/
def separatorText : String := "--"

inductive Word where
  | plain (text : String)
  /-- The argument after which everything is plain. -/
  | separator
  /-- A flag alone in its argument. -/
  | flag (flag : Flag)
  /-- A flag spelled with two dashes, and its value in the same argument. -/
  | valued (flag : Flag) (value : String)
  /-- A flag spelled with one dash and a letter, and what is joined to it. -/
  | joined (flag : Flag) (more : List Char)
  /-- What looks like a flag and is none. -/
  | unknown (text : String)
  deriving DecidableEq, Repr

namespace Word

def isDigits (s : List Char) : Bool := !s.isEmpty && s.all fun c => (Text.decimalValue? c).isSome

/-- Whether a text is a negative number: a dash, and digits or a fraction; it may end with a line feed. -/
def isNegative (s : List Char) : Bool :=
  let s := if s.getLast? = some '\n' then s.dropLast else s
  match s with
  | '-' :: rest =>
    let whole := rest.takeWhile (· ≠ '.')
    match rest.drop whole.length with
    | [] => isDigits whole
    | _ :: fraction => (whole.isEmpty || isDigits whole) && isDigits fraction
  | _ => false

/-- What starts with a dash and is no flag. -/
def other (text : String) : Word :=
  if isNegative text.toList || text.toList.contains ' ' then plain text else unknown text

/-- The part of a text before the first equals sign, and the part after it if there is one. -/
def atEquals (text : String) : String × Option String :=
  let s := text.toList
  let lead := s.takeWhile (· ≠ '=')
  (String.ofList lead, if lead.length < s.length then some (String.ofList (s.drop (lead.length + 1))) else none)

/-- The word of a flag with what is joined to it after an equals sign. -/
def withValue (short : Bool) (f : Flag) : (value : Option String) → Word
  | none => flag f
  | some value => if short then joined f value.toList else valued f value

/-- The word that an argument before the separator is. -/
def ofArgument (text : String) : Except Fault Word :=
  match text.toList with
  | '-' :: c :: more =>
    let (lead, value) := atEquals text
    match Flag.ofSpelling? lead with
    | some f => .ok (withValue (c ≠ '-') f value)
    | none =>
      if c = '-' then
        match Flag.table.filter fun (spelling, _) => lead.toList.isPrefixOf spelling.toList with
        | [] => .ok (other text)
        | [(_, f)] => .ok (withValue false f value)
        | several => .error (.ambiguous text (several.map (·.1)))
      else
        match Flag.ofLetter? c with
        | some f => .ok (joined f more)
        | none => .ok (other text)
  | _ => .ok (plain text)

def ofArguments : List String → Except Fault (List Word)
  | [] => .ok []
  | text :: rest =>
    if text = separatorText then .ok (separator :: rest.map plain)
    else do
      let w ← ofArgument text
      return w :: (← ofArguments rest)

end Word

end Chip8.CommandLine
