import Chip8.Yaml.Token

/-!
# The tokens of a text

Indentation and simple keys make the structure of a block visible: a line that starts further to the right
opens a collection, one further to the left closes collections, and a key is known as one only by the colon
after it. So every token that may be a key is remembered with its place, and a colon puts the key token, and
where needed the start of a mapping, before it. A key must stand on one line and be short; if it is all that
its line can be, it must be followed by a colon.

`scan` gives all tokens of a text. Where the text cannot be read on, the last token says why.
-/

namespace Chip8.Yaml

/-- A token that is a key if a colon follows. -/
structure PossibleKey where
  /-- The place of the token in the row of tokens. -/
  place : Nat
  /-- Whether nothing else than a key can stand there. -/
  required : Bool
  index : Nat
  line : Nat
  column : Nat
  deriving DecidableEq, Repr

structure Lexer where
  cursor : Cursor
  /-- How many flow collections are open. -/
  flow : Nat := 0
  /-- The column of the innermost block collection, and those of the ones around it. -/
  indent : Int := -1
  indents : List Int := []
  /-- Whether a simple key may start here. -/
  keyAllowed : Bool := true
  /-- The possible key of each flow level that has one. -/
  keys : List (Nat × PossibleKey) := []
  tokens : Array Token := #[]

namespace Lexer

/-- How far apart a simple key and its colon may be. -/
def keyReach : Nat := 1024

def push (l : Lexer) (t : Token) : Lexer := { l with tokens := l.tokens.push t }

/-- Pushes a token and goes past the `n` characters of its indicator. -/
def pushPast (l : Lexer) (t : Token) (n : Nat := 1) : Lexer := { l.push t with cursor := l.cursor.skip n }

/-- Whether no colon can make a possible key a key any more. -/
def isStale (l : Lexer) (k : PossibleKey) : Bool :=
  k.line ≠ l.cursor.line || keyReach < l.cursor.index - k.index

/-- Forgets the possible keys that no colon can make a key any more. -/
def dropStale (l : Lexer) : Except Fault Lexer :=
  if l.keys.any fun (_, k) => l.isStale k && k.required then .error .malformed
  else .ok { l with keys := l.keys.filter fun (_, k) => !l.isStale k }

/-- The tokens when the text cannot be read on from the place reached. A possible key must be known to be one
or not before its token is given out, so the tokens from the first possible key on are never seen. -/
def breakOff (l : Lexer) (fault : Fault) : Array Token :=
  let open_ := l.keys.filter fun (_, k) => !l.isStale k
  let seen := open_.foldl (fun n (_, k) => min n k.place) l.tokens.size
  (l.tokens.extract 0 seen).push (.broken fault)

/-- Forgets the possible key of the present flow level. -/
def dropKey (l : Lexer) : Except Fault Lexer :=
  match l.keys.lookup l.flow with
  | some k =>
    if k.required then .error .malformed else .ok { l with keys := l.keys.filter (·.1 ≠ l.flow) }
  | none => .ok l

/-- Remembers that the next token may be a key. -/
def saveKey (l : Lexer) : Except Fault Lexer :=
  if l.keyAllowed then do
    let l ← l.dropKey
    let key : PossibleKey :=
      { place := l.tokens.size, required := l.flow = 0 && l.indent = l.cursor.column,
        index := l.cursor.index, line := l.cursor.line, column := l.cursor.column }
    return { l with keys := (l.flow, key) :: l.keys }
  else .ok l

/-- Closes the block collections that are indented further than a column. -/
def unwindTo (column : Int) (indent : Int) (tokens : Array Token) : List Int → Int × List Int × Array Token
  | [] => (indent, [], tokens)
  | outer :: rest =>
    if column < indent then unwindTo column outer (tokens.push .blockEnd) rest
    else (indent, outer :: rest, tokens)

/-- Closes the block collections that are indented further than a column, unless a flow collection is open. -/
def unwind (l : Lexer) (column : Int) : Lexer :=
  if l.flow ≠ 0 then l
  else
    let (indent, indents, tokens) := unwindTo column l.indent l.tokens l.indents
    { l with indent, indents, tokens }

/-- Opens a block collection at a column, if none is open there: its token goes to a place in the row. -/
def openBlock (l : Lexer) (column : Nat) (place : Nat) (t : Token) : Lexer :=
  if l.flow = 0 && l.indent < column then
    { l with indents := l.indent :: l.indents, indent := column, tokens := l.tokens.insertIdxIfInBounds place t }
  else l

/-- Goes past blanks, comments and line breaks; outside flow collections a new line may start a key. -/
def skipGap (l : Lexer) : (fuel : Nat) → Lexer
  | 0 => l
  | fuel + 1 =>
    let c := l.cursor.past (· = ' ')
    let c := if c.peek = '#' then c.past fun x => !isEnd x else c
    if isBreak c.peek then
      skipGap { l with cursor := c.lineBreak.2, keyAllowed := l.keyAllowed || l.flow = 0 } fuel
    else { l with cursor := c }

/-- A marker that ends all open block collections. -/
def marker (l : Lexer) : Except Fault Lexer := do
  let l ← (l.unwind (-1)).dropKey
  return { l with keyAllowed := false }

def flowStart (l : Lexer) (t : Token) : Except Fault Lexer := do
  let l ← l.saveKey
  return { l with flow := l.flow + 1, keyAllowed := true }.pushPast t

def flowEnd (l : Lexer) (t : Token) : Except Fault Lexer := do
  let l ← l.dropKey
  if l.flow = 0 then throw l.cursor.step.fault
  return { l with flow := l.flow - 1, keyAllowed := false }.pushPast t

/-- The comma between the entries of a flow collection. -/
def flowEntry (l : Lexer) : Except Fault Lexer := do
  let l ← { l with keyAllowed := true }.dropKey
  return l.pushPast .flowEntry

/-- The dash before an entry of a block sequence. -/
def blockEntry (l : Lexer) : Except Fault Lexer := do
  if l.flow = 0 && !l.keyAllowed then throw .malformed
  let l := l.openBlock l.cursor.column l.tokens.size .blockSequenceStart
  let l ← { l with keyAllowed := true }.dropKey
  return l.pushPast .blockEntry

def explicitKey (l : Lexer) : Except Fault Lexer := do
  if l.flow = 0 && !l.keyAllowed then throw .malformed
  let l := l.openBlock l.cursor.column l.tokens.size .blockMappingStart
  let l ← { l with keyAllowed := l.flow = 0 }.dropKey
  return l.pushPast .key

/-- The colon before a value: it makes the possible key of the level a key. -/
def colon (l : Lexer) : Except Fault Lexer := do
  match l.keys.lookup l.flow with
  | some k =>
    let l := { l with keys := l.keys.filter (·.1 ≠ l.flow), tokens := l.tokens.insertIdxIfInBounds k.place .key }
    let l := l.openBlock k.column k.place .blockMappingStart
    return { l with keyAllowed := false }.pushPast .value
  | none =>
    if l.flow = 0 && !l.keyAllowed then throw .malformed
    let l := l.openBlock l.cursor.column l.tokens.size .blockMappingStart
    let l ← { l with keyAllowed := l.flow = 0 }.dropKey
    return l.pushPast .value

/-- A token that may be a key and is scanned by itself. -/
def word (l : Lexer) (scan : Cursor → Except Fault (Token × Cursor)) : Except Fault Lexer := do
  let l ← l.saveKey
  let (t, cursor) ← scan l.cursor
  return { l with keyAllowed := false, cursor }.push t

def block (l : Lexer) (isFolded : Bool) : Except Fault Lexer := do
  let l ← { l with keyAllowed := true }.dropKey
  let (text, cursor) ← blockScalar isFolded l.indent l.cursor
  return { l with cursor }.push (.scalar (Text.ofList text) false)

/-- A plain scalar; one that ends after a line break lets a key start there. -/
def plain (l : Lexer) : Except Fault Lexer := do
  let l ← l.saveKey
  let (text, crossed, cursor) := plainScalar (l.flow ≠ 0) (l.indent + 1).toNat l.cursor
  return { l with keyAllowed := crossed, cursor }.push (.scalar (Text.ofList text) true)

/-- Whether a plain scalar can start here. -/
def startsPlain (l : Lexer) : Bool :=
  let x := l.cursor.peek
  !(isGap x || "-?:,[]\x7b\x7d#&*!|>\x27\x22%@\x60".contains x)
    || (!isGap (l.cursor.peek 1) && (x = '-' || l.flow = 0 && (x = '?' || x = ':')))

/-- The token at the place reached; the end of the text is not among them. -/
def fetch (l : Lexer) : Except Fault Lexer :=
  let c := l.cursor
  let x := c.peek
  let alone := l.flow ≠ 0 || isGap (c.peek 1)
  if c.column = 0 && x = '%' then do
    let l ← l.marker
    let (d, cursor) ← scanDirective l.cursor
    return { l with cursor }.push (.directive d)
  else if c.column = 0 && c.atMarker '-' then do return (← l.marker).pushPast .documentStart 3
  else if c.column = 0 && c.atMarker '.' then do return (← l.marker).pushPast .documentEnd 3
  else if x = '[' then l.flowStart .flowSequenceStart
  else if x = '\x7b' then l.flowStart .flowMappingStart
  else if x = ']' then l.flowEnd .flowSequenceEnd
  else if x = '\x7d' then l.flowEnd .flowMappingEnd
  else if x = ',' then l.flowEntry
  else if x = '-' && isGap (c.peek 1) then l.blockEntry
  else if x = '?' && alone then l.explicitKey
  else if x = ':' && alone then l.colon
  else if x = '*' then l.word fun c => do let (n, c) ← scanName c; return (.alias n, c)
  else if x = '&' then l.word fun c => do let (n, c) ← scanName c; return (.anchor n, c)
  else if x = '!' then l.word scanTag
  else if x = '|' && l.flow = 0 then l.block false
  else if x = '>' && l.flow = 0 then l.block true
  else if x = '\x27' || x = '\x22' then
    l.word fun c => do let (s, c) ← quotedScalar c; return (.scalar s false, c)
  else if l.startsPlain then l.plain
  else .error .malformed

/-- Refuses the end of a text that cannot be read any further. -/
def ensureGoesOn (l : Lexer) : Except Fault Unit :=
  match l.cursor.rest, l.cursor.beyond with
  | [], some fault => .error fault
  | _, _ => .ok ()

/-- The token at the place reached, if the text goes on after it. -/
def fetchInside (l : Lexer) : Except Fault Lexer := do
  let l ← l.fetch
  l.ensureGoesOn
  return l

/-- Goes to the next token, closing the collections that end before it. -/
def approach (l : Lexer) : Except Fault Lexer := do
  let l := l.skipGap l.cursor.fuel
  l.ensureGoesOn
  let l ← l.dropStale
  return l.unwind l.cursor.column

def run (l : Lexer) : (fuel : Nat) → Array Token
  | 0 => l.breakOff .malformed
  | fuel + 1 =>
    match l.approach with
    | .error e => l.breakOff e
    | .ok next =>
      if next.cursor.peek = nul then
        match (next.unwind (-1)).dropKey with
        | .error e => l.breakOff e
        | .ok next => next.tokens.push .streamEnd
      else
        match next.fetchInside with
        | .error e => l.breakOff e
        | .ok next => run next fuel

end Lexer

/-- All tokens of a text from the place at its start. -/
def Token.scan (cursor : Cursor) : List Token :=
  let cursor := if isByteOrderMark cursor.peek then cursor.step else cursor
  (Lexer.run { cursor } (cursor.fuel + 1)).toList

end Chip8.Yaml
