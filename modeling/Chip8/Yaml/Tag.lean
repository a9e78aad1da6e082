import Chip8.Text

/-!
# Tags

What a node is taken for. The tags of the standard types are known; any other address is kept as it is. A
scalar without tag may get one by its looks: `ofLooks` tries the forms of truth values, fractions, integers,
null, points in time, the two special keys and the indicators, and takes everything else for text. A line feed
at the end does not change the looks.
-/

namespace Chip8.Yaml

inductive Tag where
  | null
  | bool
  | int
  | float
  | binary
  | timestamp
  | omap
  | pairs
  | set
  | str
  | seq
  | map
  | merge
  | value
  | other (address : String)
  deriving DecidableEq, Repr

namespace Tag

/-- The address that the addresses of all standard tags start with. -/
def standardLead : String := "tag:yaml.org,2002:"

def standard : List (String × Tag) :=
  [ ("null", null), ("bool", bool), ("int", int), ("float", float), ("binary", binary),
    ("timestamp", timestamp), ("omap", omap), ("pairs", pairs), ("set", set), ("str", str), ("seq", seq),
    ("map", map), ("merge", merge), ("value", value) ]

def ofAddress (address : String) : Tag :=
  match standard.find? fun (name, _) => address = standardLead ++ name with
  | some (_, tag) => tag
  | none => other address

/-! ## Looks of plain scalars -/

/-- Takes a sign off. -/
def unsigned : List Char → List Char
  | '+' :: rest | '-' :: rest => rest
  | s => s

/-- Whether a character is a decimal digit or an underscore. -/
def isSpacedDigit (c : Char) : Bool := c.isDigit || c = '_'

/-- Base-sixty groups after the first number: each a colon and a number below sixty. -/
def isSixties : List Char → Bool
  | [] => true
  | ':' :: a :: b :: rest =>
    if a.isDigit && b.isDigit then a < '6' && isSixties rest else a.isDigit && isSixties (b :: rest)
  | [':', a] => a.isDigit
  | _ => false

/-- Whether a text looks like an integer: binary, octal, decimal, hexadecimal or base sixty. -/
def looksInt (s : List Char) : Bool :=
  match unsigned s with
  | '0' :: 'b' :: d :: rest => (d :: rest).all fun c => c = '0' || c = '1' || c = '_'
  | '0' :: 'x' :: d :: rest => (d :: rest).all fun c =>
      c.isDigit || 'a' ≤ c && c ≤ 'f' || 'A' ≤ c && c ≤ 'F' || c = '_'
  | '0' :: rest => rest.all fun c => '0' ≤ c && c ≤ '7' || c = '_'
  | d :: rest =>
    let sixties := rest.dropWhile isSpacedDigit
    d.isDigit && isSixties sixties
  | [] => false

/-- Whether a text is an exponent with a sign, or nothing. -/
def isExponent : List Char → Bool
  | [] => true
  | e :: sign :: rest =>
    (e = 'e' || e = 'E') && (sign = '+' || sign = '-') && !rest.isEmpty && rest.all Char.isDigit
  | _ => false

/-- Whether a text looks like a fraction: decimal, base sixty, infinite or no number. -/
def looksFloat (s : List Char) : Bool :=
  let isSpecial := [".inf", ".Inf", ".INF"].any fun t => unsigned s = t.toList
  let isNan := [".nan", ".NaN", ".NAN"].any fun t => s = t.toList
  let startsAtPoint := match s with
    | '.' :: d :: rest => d.isDigit && isExponent (rest.dropWhile isSpacedDigit)
    | _ => false
  let startsAtDigit := match unsigned s with
    | d :: rest =>
      d.isDigit &&
        match rest.dropWhile isSpacedDigit with
        | '.' :: fraction => isExponent (fraction.dropWhile isSpacedDigit)
        | ':' :: more =>
          let groups := (':' :: more).takeWhile (· ≠ '.')
          isSixties groups && (((':' :: more).drop groups.length).headD ' ' = '.')
            && (((':' :: more).drop (groups.length + 1)).all isSpacedDigit)
        | _ => false
    | [] => false
  isSpecial || isNan || startsAtPoint || startsAtDigit

/-- Whether a text is one of some words in small letters, capitals, or with one capital in front. -/
def isWord (words : List String) (s : String) : Bool :=
  words.any fun w => s = w || s = w.capitalize || s = w.toUpper

def truthWords : List (String × Bool) :=
  [("yes", true), ("no", false), ("true", true), ("false", false), ("on", true), ("off", false)]

/-- The parts of a point in time as written; without a time of day it is a day. -/
structure Stamp where
  year : List Char
  month : List Char
  day : List Char
  time : Option (List Char × List Char × List Char) := none
  fraction : List Char := []
  /-- The sign, the hours and the minutes of an offset; a bare `Z` has no sign. -/
  zone : Option (Option Char × List Char × List Char) := none

/-- One or two digits at the start of a text, and what follows. -/
def oneOrTwo : List Char → Option (List Char × List Char)
  | a :: b :: rest =>
    if a.isDigit && b.isDigit then some ([a, b], rest) else if a.isDigit then some ([a], b :: rest) else none
  | [a] => if a.isDigit then some ([a], []) else none
  | [] => none

/-- Exactly two digits at the start of a text, and what follows. -/
def two : List Char → Option (List Char × List Char)
  | a :: b :: rest => if a.isDigit && b.isDigit then some ([a, b], rest) else none
  | _ => none

/-- A given character at the start of a text, and what follows. -/
def mark (c : Char) : List Char → Option (List Char)
  | x :: rest => if x = c then some rest else none
  | [] => none

/-- Whether a character is a blank inside a line. -/
def isInnerBlank (c : Char) : Bool := c = ' ' || c = '\t'

/-- The offset at the end of a point in time. -/
def zone? (s : List Char) : Option (Option (Option Char × List Char × List Char)) :=
  match s, s.dropWhile isInnerBlank with
  | [], _ => some none
  | _, ['Z'] => some (some (none, [], []))
  | _, sign :: rest => do
    if sign ≠ '+' ∧ sign ≠ '-' then none
    else
      let (hours, rest) ← oneOrTwo rest
      match rest with
      | [] => some (some (some sign, hours, []))
      | _ =>
        let (minutes, rest) ← two (← mark ':' rest)
        if rest.isEmpty then some (some (some sign, hours, minutes)) else none
  | _, [] => none

/-- The parts of a point in time, if a text looks like one. -/
def stamp? (s : List Char) : Option Stamp := do
  let year := s.take 4
  if year.length < 4 || !year.all Char.isDigit then none
  else
    let (month, rest) ← oneOrTwo (← mark '-' (s.drop 4))
    let (day, rest) ← oneOrTwo (← mark '-' rest)
    match rest with
    | [] => return { year, month, day }
    | x :: after =>
      let rest ←
        if x = 'T' || x = 't' then some after
        else if isInnerBlank x then some (after.dropWhile isInnerBlank)
        else none
      let (hour, rest) ← oneOrTwo rest
      let (minute, rest) ← two (← mark ':' rest)
      let (second, rest) ← two (← mark ':' rest)
      let (fraction, rest) := match rest with
        | '.' :: rest => (rest.takeWhile Char.isDigit, rest.dropWhile Char.isDigit)
        | rest => ([], rest)
      let zone ← zone? rest
      return { year, month, day, time := some (hour, minute, second), fraction, zone }

/-- Whether a text looks like a point in time: a bare day has two digits for month and day. -/
def looksTimestamp (s : List Char) : Bool :=
  match stamp? s with
  | some t => t.time.isSome || t.month.length = 2 && t.day.length = 2
  | none => false

/-- A text without the line feed at its end. -/
def withoutLastBreak (s : List Char) : List Char := if s.getLast? = some '\n' then s.dropLast else s

/-- The tag of a row of characters by its looks. -/
def ofChars (s : List Char) : Tag :=
  let text := String.ofList s
  if isWord (truthWords.map (·.1)) text then bool
  else if looksFloat s then float
  else if looksInt s then int
  else if text = "<<" then merge
  else if text = "" || text = "~" || isWord ["null"] text then null
  else if looksTimestamp s then timestamp
  else if text = "=" then value
  else if text = "!" || text = "&" || text = "*" then other (standardLead ++ "yaml")
  else str

def ofLooks (t : Text) : Tag :=
  match t.toList? with
  | none | some ['\n'] => str
  | some s => ofChars (withoutLastBreak s)

end Tag

end Chip8.Yaml
