import Chip8.Yaml.Scalar

/-!
# Tokens

The pieces of a YAML text: markers of documents and collections, entries, properties, aliases and scalars.
This module scans those that are words by themselves: names of anchors, tags and directives.
-/

namespace Chip8.Yaml

/-- A directive before a document. -/
inductive Directive where
  | version (major : Nat)
  | tag (handle lead : String)
  | other
  deriving DecidableEq, Repr

inductive Token where
  | directive (d : Directive)
  | documentStart
  | documentEnd
  | streamEnd
  | blockSequenceStart
  | blockMappingStart
  | blockEnd
  | flowSequenceStart
  | flowSequenceEnd
  | flowMappingStart
  | flowMappingEnd
  | flowEntry
  | blockEntry
  | key
  | value
  | alias (name : String)
  | anchor (name : String)
  /-- A tag: its handle, unless it is written out, and the rest. -/
  | tag (handle : Option String) (suffix : String)
  | scalar (text : Text) (plain : Bool)
  /-- The text cannot be read any further. -/
  | broken (fault : Fault)
  deriving DecidableEq, Repr

def isNameChar (c : Char) : Bool := c.isAlphanum || c = '-' || c = '_'

/-- Whether a character may stand in the address of a tag. -/
def isAddressChar (c : Char) : Bool :=
  c.isAlphanum || "-;/?:@&=+$,_.!~*\x27()[]%".contains c

/-- The name of an anchor or alias; its indicator stands at the cursor. -/
def scanName (c : Cursor) : Except Fault (String × Cursor) :=
  let (name, c) := c.step.span isNameChar
  if name.isEmpty then .error c.fault
  else if isGap c.peek || "?:,]\x7d%@\x60".contains c.peek then .ok (String.ofList name, c)
  else .error c.fault

def scanEscapes (bytes : List UInt8) : (fuel : Nat) → Cursor → Except Fault (List Char × Cursor)
  | 0, _ => .error .malformed
  | fuel + 1, c =>
    if c.peek = '%' then
      match hexValue? (c.peek 1), hexValue? (c.peek 2) with
      | some high, some low => scanEscapes (bytes ++ [UInt8.ofNat (high * 16 + low)]) fuel (c.skip 3)
      | some _, none => .error (c.skip 2).fault
      | none, _ => .error c.step.fault
    else
      match String.fromUTF8? (ByteArray.mk bytes.toArray) with
      | some s => .ok (s.toList, c)
      | none => .error c.fault

/-- The address of a tag, as far as it goes. -/
def scanAddressFrom (text : List Char) : (fuel : Nat) → Cursor → Except Fault (List Char × Cursor)
  | 0, c => .ok (text, c)
  | fuel + 1, c =>
    if c.peek = '%' then do
      let (more, c) ← scanEscapes [] c.fuel c
      scanAddressFrom (text ++ more) fuel c
    else if isAddressChar c.peek then scanAddressFrom (text ++ [c.peek]) fuel c.step
    else .ok (text, c)

def scanAddress (c : Cursor) : Except Fault (String × Cursor) := do
  if !isAddressChar c.peek then throw c.fault
  let (text, c) ← scanAddressFrom [] c.fuel c
  return (String.ofList text, c)

/-- The handle of a tag: an exclamation mark, or a name between two. -/
def scanHandle (c : Cursor) : Except Fault (String × Cursor) :=
  if c.peek ≠ '!' then .error c.fault
  else if c.peek 1 = ' ' then .ok ("!", c.step)
  else
    let (name, after) := c.step.span isNameChar
    if after.peek = '!' then .ok (String.ofList ('!' :: name ++ ['!']), after.step)
    else .error after.fault

/-- Whether a tag has a second exclamation mark before the next blank. -/
def hasHandle (c : Cursor) : Bool :=
  (c.step.rest.takeWhile fun x => !(x = ' ' || isEnd x)).contains '!'

/-- A tag; its exclamation mark stands at the cursor. -/
def scanTag (c : Cursor) : Except Fault (Token × Cursor) := do
  let (token, c) ←
    if c.peek 1 = '<' then do
      let (address, c) ← scanAddress (c.skip 2)
      if c.peek ≠ '>' then throw c.fault
      pure (Token.tag none address, c.step)
    else if isGap (c.peek 1) then pure (Token.tag none "!", c.step)
    else do
      let (handle, c) ← if hasHandle c then scanHandle c else pure ("!", c.step)
      let (address, c) ← scanAddress c
      pure (Token.tag (some handle) address, c)
  if c.peek = ' ' || isEnd c.peek then return (token, c) else throw c.fault

def scanNumber (c : Cursor) : Except Fault (Nat × Cursor) :=
  let (digits, c) := c.span Char.isDigit
  if digits.isEmpty then .error c.fault
  else if Numeral.maxDecimalDigits < digits.length then .error (c.fault (.longInteger digits.length))
  else .ok (digits.foldl (fun n d => n * 10 + (d.toNat - '0'.toNat)) 0, c)

/-- Whether a word of a directive may end here. -/
def wordEnds (c : Cursor) : Bool := c.peek = ' ' || isEnd c.peek

/-- A directive up to the end of its line; its per cent sign stands at the cursor. -/
def scanDirective (c : Cursor) : Except Fault (Directive × Cursor) := do
  let (name, c) := c.step.span isNameChar
  if name.isEmpty || !wordEnds c then throw c.fault
  let (directive, c) ← match String.ofList name with
    | "YAML" => do
      let (major, c) ← scanNumber (c.past (· = ' '))
      if c.peek ≠ '.' then throw c.fault
      let (_, c) ← scanNumber c.step
      if !wordEnds c then throw c.fault
      pure (Directive.version major, c)
    | "TAG" => do
      let (handle, c) ← scanHandle (c.past (· = ' '))
      if c.peek ≠ ' ' then throw c.fault
      let (lead, c) ← scanAddress (c.past (· = ' '))
      if !wordEnds c then throw c.fault
      pure (Directive.tag handle lead, c)
    | _ => pure (Directive.other, c.past fun x => !isEnd x)
  return (directive, ← ignoredLine c)

end Chip8.Yaml
