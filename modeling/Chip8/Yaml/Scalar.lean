import Chip8.Text
import Chip8.Yaml.Cursor
import Chip8.Yaml.Fault

/-!
# Scalars in the text

The five forms of a scalar: plain, between single or double quotes, and the literal and folded blocks. A scan
gives the text that the scalar stands for and the place after it. A line break inside a plain or quoted scalar
counts as a blank, unless empty lines follow it: then these count, and it does not.
-/

namespace Chip8.Yaml

/-! ## Folding -/

/-- A line break and the empty lines after it, folded: a plain break alone is a blank, with empty lines it is
nothing. -/
def folded (first breaks : List Char) : List Char :=
  (if first ≠ ['\n'] then first else if breaks.isEmpty then [' '] else []) ++ breaks

/-! ## Plain scalars -/

/-- Blanks and line breaks inside a plain scalar; nothing if a document marker starts a line. -/
def plainBreaks (breaks : List Char) : (fuel : Nat) → Cursor → Option (List Char) × Cursor
  | 0, c => (some breaks, c)
  | fuel + 1, c =>
    if c.peek = ' ' then plainBreaks breaks fuel c.step
    else if isBreak c.peek then
      let (b, c) := c.lineBreak
      if c.atSeparator then (none, c) else plainBreaks (breaks ++ b) fuel c
    else (some breaks, c)

/-- The gap after a stretch of a plain scalar: what it counts as if the scalar goes on, whether it goes over a
line break, and the place after it. -/
def plainGap (c : Cursor) : Option (List Char) × Bool × Cursor :=
  let (blanks, c) := c.span (· = ' ')
  if isBreak c.peek then
    let (first, c) := c.lineBreak
    if c.atSeparator then (none, true, c)
    else
      let (breaks, c) := plainBreaks [] c.fuel c
      (breaks.map (folded first), true, c)
  else (if blanks.isEmpty then none else some blanks, false, c)

/-- How long a stretch of a plain scalar is: it ends at a gap, at a colon before a gap, and inside brackets at
an indicator. -/
def plainLength (inFlow : Bool) : List Char → Nat
  | [] => 0
  | x :: rest =>
    let next := rest.headD nul
    if isGap x || (x = ':' && (isGap next || inFlow && ",[]\x7b\x7d".contains next))
        || (inFlow && ",?[]\x7b\x7d".contains x) then 0
    else plainLength inFlow rest + 1

/-- The stretches of a plain scalar on lines that are indented by at least `indent`; also gives whether it ends
after a line break. -/
def plainStretches (inFlow : Bool) (indent : Nat) (gap : List Char) (crossed : Bool) :
    (fuel : Nat) → Cursor → List Char × Bool × Cursor
  | 0, c => ([], crossed, c)
  | fuel + 1, c =>
    let length := plainLength inFlow c.rest
    if c.peek = '#' || length = 0 then ([], crossed, c)
    else
      let stretch := gap ++ c.rest.take length
      let (next, crossed, c) := plainGap (c.skip length)
      match next with
      | none => (stretch, crossed, c)
      | some gap =>
        if c.peek = '#' || (!inFlow && c.column < indent) then (stretch, crossed, c)
        else
          let (more, crossed, c) := plainStretches inFlow indent gap crossed fuel c
          (stretch ++ more, crossed, c)

/-- A plain scalar, whether it ends after a line break, and the place after it. -/
def plainScalar (inFlow : Bool) (indent : Nat) (c : Cursor) : List Char × Bool × Cursor :=
  plainStretches inFlow indent [] false c.fuel c

/-! ## Quoted scalars -/

/-- Empty lines inside a quoted scalar; a document marker is no part of one. -/
def quotedBreaks (breaks : List Char) : (fuel : Nat) → Cursor → Except Fault (List Char × Cursor)
  | 0, _ => .error .malformed
  | fuel + 1, c =>
    if c.atSeparator then .error c.fault
    else
      let c := c.past fun x => x = ' ' || x = '\t'
      if isBreak c.peek then
        let (b, c) := c.lineBreak
        quotedBreaks (breaks ++ b) fuel c
      else .ok (breaks, c)

/-- Blanks and line breaks inside a quoted scalar. -/
def quotedGap (c : Cursor) : Except Fault (List Char × Cursor) := do
  let (blanks, c) := c.span fun x => x = ' ' || x = '\t'
  if c.peek = nul then throw c.fault
  else if isBreak c.peek then
    let (first, c) := c.lineBreak
    let (breaks, c) ← quotedBreaks [] c.fuel c
    return (folded first breaks, c)
  else return (blanks, c)

/-- The characters that one letter stands for after a backslash. -/
def letterEscapes : List (Char × Nat) :=
  [ ('0', 0x00), ('a', 0x07), ('b', 0x08), ('t', 0x09), ('\t', 0x09), ('n', 0x0a), ('v', 0x0b), ('f', 0x0c),
    ('r', 0x0d), ('e', 0x1b), (' ', 0x20), ('\x22', 0x22), ('\\', 0x5c), ('/', 0x2f), ('N', 0x85), ('_', 0xa0),
    ('L', 0x2028), ('P', 0x2029) ]

/-- The letters that come before a code point, and its number of digits. -/
def codeEscapes : List (Char × Nat) := [('x', 2), ('u', 4), ('U', 8)]

def hexValue? (c : Char) : Option Nat :=
  if '0' ≤ c ∧ c ≤ '9' then some (c.toNat - '0'.toNat)
  else if 'a' ≤ c ∧ c ≤ 'f' then some (c.toNat - 'a'.toNat + 10)
  else if 'A' ≤ c ∧ c ≤ 'F' then some (c.toNat - 'A'.toNat + 10)
  else none

def hexNumber? (digits : List Char) : Option Nat :=
  digits.foldl (fun n d => do return (← n) * 16 + (← hexValue? d)) (some 0)

/-- The code point with a number that was written by its digits. -/
def codePoint (n : Nat) : Except Fault CodePoint :=
  match CodePoint.ofNat? n with
  | some p => .ok p
  | none => .error (if n < 0x80000000 then .codePoint else .codePointLimit)

/-- What stands after a backslash between double quotes. -/
def escaped (c : Cursor) : Except Fault (List CodePoint × Cursor) :=
  let x := c.peek
  match letterEscapes.lookup x, codeEscapes.lookup x with
  | some n, _ => .ok ([.char (Char.ofNat n)], c.step)
  | none, some digits =>
    let c := c.step
    let row := c.rest.take digits
    match hexNumber? row with
    | none => .error .malformed
    | some n => do
      if row.length < digits then throw (c.skip digits).fault
      return ([← codePoint n], c.skip digits)
  | none, none =>
    if isBreak x then
      let (_, c) := c.lineBreak
      do
        let (breaks, c) ← quotedBreaks [] c.fuel c
        return (breaks.map .char, c)
    else .error c.fault

/-- Whether a character has a meaning of its own in a quoted scalar. -/
def isQuotedSpecial (c : Char) : Bool :=
  c = '\x27' || c = '\x22' || c = '\\' || isGap c

/-- Characters of a quoted scalar up to a gap or the closing quote. -/
def quotedStretch (double : Bool) (text : List CodePoint) :
    (fuel : Nat) → Cursor → Except Fault (List CodePoint × Cursor)
  | 0, c => .ok (text, c)
  | fuel + 1, c => do
    let (plain, c) := c.span fun x => !isQuotedSpecial x
    let text := text ++ plain.map .char
    let x := c.peek
    if !double && x = '\x27' && c.peek 1 = '\x27' then
      quotedStretch double (text ++ [.char '\x27']) fuel (c.skip 2)
    else if (double && x = '\x27') || (!double && (x = '\x22' || x = '\\')) then
      quotedStretch double (text ++ [.char x]) fuel c.step
    else if double && x = '\\' then
      let (more, c) ← escaped c.step
      quotedStretch double (text ++ more) fuel c
    else return (text, c)

/-- The stretches and gaps of a quoted scalar up to its closing quote. -/
def quotedParts (double : Bool) (text : List CodePoint) :
    (fuel : Nat) → Cursor → Except Fault (List CodePoint × Cursor)
  | 0, _ => .error .malformed
  | fuel + 1, c => do
    let (stretch, c) ← quotedStretch double [] c.fuel c
    let text := text ++ stretch
    if c.peek = (if double then '\x22' else '\x27') then return (text, c.step)
    let (gap, c) ← quotedGap c
    quotedParts double (text ++ gap.map .char) fuel c

/-- A scalar between quotes; the opening quote stands at the cursor. -/
def quotedScalar (c : Cursor) : Except Fault (Text × Cursor) := do
  let (points, c) ← quotedParts (c.peek = '\x22') [] c.fuel c.step
  return (⟨points⟩, c)

/-! ## Block scalars -/

/-- What becomes of the line breaks at the end of a block. -/
inductive Chomping where
  | strip
  | clip
  | keep
  deriving DecidableEq, Repr

def chomping? : Char → Option Chomping
  | '+' => some .keep
  | '-' => some .strip
  | _ => none

def digit? (c : Char) : Option Nat := if '0' ≤ c ∧ c ≤ '9' then some (c.toNat - '0'.toNat) else none

/-- The indicators in the head of a block: chomping and indentation, in either order. -/
def blockHead (c : Cursor) : Except Fault ((Chomping × Option Nat) × Cursor) := do
  let digit (c : Cursor) : Except Fault (Option Nat × Cursor) :=
    match digit? c.peek with
    | some 0 => .error .malformed
    | some n => .ok (some n, c.step)
    | none => .ok (none, c)
  let (chomping, increment, c) ← match chomping? c.peek with
    | some chomping => do
      let (increment, c) ← digit c.step
      pure (chomping, increment, c)
    | none => do
      let (increment, c) ← digit c
      match increment, chomping? c.peek with
      | some _, some chomping => pure (chomping, increment, c.step)
      | _, _ => pure (.clip, increment, c)
  if c.peek = ' ' || isEnd c.peek then return ((chomping, increment), c) else throw c.fault

/-- Goes past the rest of a line that may hold blanks and a comment only. -/
def ignoredLine (c : Cursor) : Except Fault Cursor :=
  let c := c.past (· = ' ')
  let c := if c.peek = '#' then c.past fun x => !isEnd x else c
  if isEnd c.peek then .ok c.lineBreak.2 else .error c.fault

/-- The empty lines before the first line of a block, and the greatest indentation seen in them. -/
def blockIndentation (breaks : List Char) (deepest : Nat) : (fuel : Nat) → Cursor → List Char × Nat × Cursor
  | 0, c => (breaks, deepest, c)
  | fuel + 1, c =>
    if c.peek = ' ' then
      let c := c.step
      blockIndentation breaks (max deepest c.column) fuel c
    else if isBreak c.peek then
      let (b, c) := c.lineBreak
      blockIndentation (breaks ++ b) deepest fuel c
    else (breaks, deepest, c)

/-- Goes past the blanks of an indentation. -/
def blockIndent (indent : Nat) (c : Cursor) : Cursor :=
  c.skip (((c.rest.takeWhile (· = ' ')).length).min (indent - c.column))

/-- Empty lines of a block, and the indentation of the line after them. -/
def blockBreaks (indent : Nat) (breaks : List Char) : (fuel : Nat) → Cursor → List Char × Cursor
  | 0, c => (breaks, c)
  | fuel + 1, c =>
    let c := blockIndent indent c
    if isBreak c.peek then
      let (b, c) := c.lineBreak
      blockBreaks indent (breaks ++ b) fuel c
    else (breaks, c)

/-- The lines of a block, the line break that ends the last one, the empty lines after it, and the place. In a
folded block a line break between two lines that do not start with a blank counts as a blank. -/
def blockLines (isFolded : Bool) (indent : Nat) (text breaks : List Char) :
    (fuel : Nat) → Cursor → List Char × List Char × List Char × Cursor
  | 0, c => (text, [], breaks, c)
  | fuel + 1, c =>
    let text := text ++ breaks
    let startsDark := !(c.peek = ' ' || c.peek = '\t')
    let (line, c) := c.span fun x => !isEnd x
    let text := text ++ line
    let (ending, c) := c.lineBreak
    let (breaks, c) := blockBreaks indent [] c.fuel c
    if c.column = indent && c.peek ≠ nul then
      let joint :=
        if isFolded && ending = ['\n'] && startsDark && !(c.peek = ' ' || c.peek = '\t') then
          if breaks.isEmpty then [' '] else []
        else ending
      blockLines isFolded indent (text ++ joint) breaks fuel c
    else (text, ending, breaks, c)

/-- A block scalar inside a collection indented by `outer`; its indicator stands at the cursor. -/
def blockScalar (isFolded : Bool) (outer : Int) (c : Cursor) : Except Fault (List Char × Cursor) := do
  let ((chomping, increment), c) ← blockHead c.step
  let c ← ignoredLine c
  let least := max 1 (outer + 1).toNat
  let (indent, breaks, c) := match increment with
    | some n =>
      let indent := least + n - 1
      let (breaks, c) := blockBreaks indent [] c.fuel c
      (indent, breaks, c)
    | none =>
      let (breaks, deepest, c) := blockIndentation [] 0 c.fuel c
      (max least deepest, breaks, c)
  let (text, ending, breaks, c) :=
    if c.column = indent && c.peek ≠ nul then blockLines isFolded indent [] breaks c.fuel c
    else ([], [], breaks, c)
  let tail := match chomping with
    | .strip => []
    | .clip => ending
    | .keep => ending ++ breaks
  return (text ++ tail, c)

end Chip8.Yaml
