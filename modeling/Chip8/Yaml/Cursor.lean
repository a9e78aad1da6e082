import Chip8.Yaml.Fault

/-!
# Places in a text

A cursor is what is left of a text together with the place reached: how many characters were passed, the line,
and the column in it. Past the end it shows the null character, which no document may contain. The text may end
where it cannot be read any further: then what is wrong there takes the place of every fault at its end.
-/

namespace Chip8.Yaml

/-- The character shown past the end of the text. -/
def nul : Char := '\x00'

/-- Whether a character ends a line. -/
def isBreak (c : Char) : Bool :=
  c = '\n' || c = '\r' || c.toNat = 0x85 || c.toNat = 0x2028 || c.toNat = 0x2029

/-- Whether a character ends a line or the text. -/
def isEnd (c : Char) : Bool := c = nul || isBreak c

/-- Whether a character is a blank, or ends a line or the text. -/
def isGap (c : Char) : Bool := c = ' ' || c = '\t' || isEnd c

/-- The mark that may stand at the start of a text and takes no column. -/
def isByteOrderMark (c : Char) : Bool := c.toNat = 0xfeff

structure Cursor where
  rest : List Char
  /-- What is wrong with the text after its end. -/
  beyond : Option Fault := none
  index : Nat := 0
  line : Nat := 0
  column : Nat := 0
  deriving Repr

namespace Cursor

/-- The character `k` places ahead. -/
def peek (c : Cursor) (k : Nat := 0) : Char := (c.rest.drop k).headD nul

/-- What is wrong with a text that cannot go on like this. -/
def fault (c : Cursor) (f : Fault := .malformed) : Fault := if c.rest.isEmpty then c.beyond.getD f else f

/-- Goes past one character. A carriage return before a line feed does not end the line. -/
def step (c : Cursor) : Cursor :=
  match c.rest with
  | [] => c
  | x :: rest =>
    let c := { c with rest, index := c.index + 1 }
    if isBreak x && !(x = '\r' && rest.headD nul = '\n') then { c with line := c.line + 1, column := 0 }
    else if isByteOrderMark x then c
    else { c with column := c.column + 1 }

/-- Goes past `n` characters. -/
def skip (c : Cursor) : (n : Nat) → Cursor
  | 0 => c
  | n + 1 => c.step.skip n

/-- The characters up to the first without a property, and the place of that one. -/
def span (p : Char → Bool) (c : Cursor) : List Char × Cursor :=
  let taken := c.rest.takeWhile p
  (taken, c.skip taken.length)

/-- Goes past the characters with a property. -/
def past (p : Char → Bool) (c : Cursor) : Cursor := (c.span p).2

/-- Goes past a line break, and gives it as it counts in a scalar: most breaks count as a line feed. -/
def lineBreak (c : Cursor) : List Char × Cursor :=
  let x := c.peek
  if x = '\r' && c.peek 1 = '\n' then (['\n'], c.skip 2)
  else if x = '\r' || x = '\n' || x.toNat = 0x85 then (['\n'], c.step)
  else if isBreak x then ([x], c.step)
  else ([], c)

/-- Whether a document marker, three equal characters before a gap, stands here. -/
def atMarker (x : Char) (c : Cursor) : Bool :=
  c.peek = x && c.peek 1 = x && c.peek 2 = x && isGap (c.peek 3)

/-- Whether a marker of the start or the end of a document stands here. -/
def atSeparator (c : Cursor) : Bool := c.atMarker '-' || c.atMarker '.'

/-- A number of repetitions that suffices for any loop that goes forward. -/
def fuel (c : Cursor) : Nat := c.rest.length + 1

end Cursor

end Chip8.Yaml
