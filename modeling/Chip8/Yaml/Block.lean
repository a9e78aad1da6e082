import Chip8.Yaml.Cursor

/-!
# Blocks of a file

A document is read from its file block by block, and a block is judged when the scan gets to it: its bytes must
be UTF-8, and all its characters must be allowed. So a fault that the scan finds may come before one of the text.
The first two blocks are read at once. Line ends of all systems count as a line feed.
-/

namespace Chip8.Yaml

/-- How many bytes are taken from a file at once. -/
def bytesAtOnce : Nat := 8192

def blockSize : Nat := 4096

/-- The text with every line end as a line feed. -/
def withLineFeeds : List Char → List Char
  | '\r' :: '\n' :: rest => '\n' :: withLineFeeds rest
  | '\r' :: rest => '\n' :: withLineFeeds rest
  | c :: rest => c :: withLineFeeds rest
  | [] => []

/-- Whether a character may stand in a document. -/
def isAllowed (c : Char) : Bool :=
  let n := c.toNat
  n = 0x09 || n = 0x0a || n = 0x0d || 0x20 ≤ n && n ≤ 0x7e || n = 0x85 || 0xa0 ≤ n && n ≤ 0xfffd || 0x10000 ≤ n

/-- The character that bytes in UTF-8 start with, and its number of bytes. -/
def charAhead? (bytes : List UInt8) : Option (Char × Nat) :=
  [1, 2, 3, 4].findSome? fun n =>
    match (String.fromUTF8? ⟨(bytes.take n).toArray⟩).map String.toList with
    | some [c] => some (c, n)
    | _ => none

/-- The characters that bytes in UTF-8 start with, up to the first that is none, and their number of bytes. -/
def charsAhead : (fuel : Nat) → List UInt8 → List Char × Nat
  | 0, _ => ([], 0)
  | fuel + 1, bytes =>
    match charAhead? bytes with
    | none => ([], 0)
    | some (c, n) =>
      let (rest, size) := charsAhead fuel (bytes.drop n)
      (c :: rest, size + n)

/-- How many characters are read before the block that a place is in. -/
def charsBefore (place : Nat) : Nat := if place < 2 * blockSize then 0 else place / blockSize * blockSize

/-- The first character that is not allowed makes its block a fault of the document. -/
def faultOfChars (s : List Char) : Option (Nat × Fault) :=
  let place := s.findIdx fun c => !isAllowed c
  if place < s.length then some (charsBefore place, .malformed) else none

/-- Whether bytes are the start of a character in UTF-8, but not all of it. -/
def isCutOff (bytes : List UInt8) : Bool :=
  let isFirstOf (rest : List UInt8) : Bool :=
    match charAhead? (bytes ++ rest) with
    | some (_, n) => n = bytes.length + rest.length
    | none => false
  [0x80, 0xbf].any fun next => [0, 1, 2].any fun n => isFirstOf (next :: List.replicate n 0x80)

/-- The number of bytes that must be read to see that those after the given number of good ones are no UTF-8. -/
def bytesUpToFault (data : List UInt8) (good : Nat) : Nat :=
  let rest := data.drop good
  good + ([1, 2, 3].takeWhile fun n => n ≤ rest.length && isCutOff (rest.take n)).length

/-- Bytes that are no UTF-8 after the given number of good ones make the first block a fault that is not filled
by what is taken from the file before. -/
def faultOfBytes (data : List UInt8) (good : Nat) : Nat × Fault :=
  let seen := bytesUpToFault data good
  let bytes := if seen < data.length then data.take (seen / bytesAtOnce * bytesAtOnce) else data
  (charsBefore (withLineFeeds (charsAhead bytes.length bytes).1).length, .notText)

/-- The place at the start of the text, as far as it can be read. -/
def Cursor.ofText (s : List Char) : Option (Nat × Fault) → Cursor
  | some (count, fault) => { rest := s.take count, beyond := some fault }
  | none => { rest := s }

/-- The place at the start of a file with the given bytes. -/
def Cursor.ofFile (data : List UInt8) : Cursor :=
  match String.fromUTF8? ⟨data.toArray⟩ with
  | some text =>
    let s := withLineFeeds text.toList
    .ofText s (faultOfChars s)
  | none =>
    let (chars, good) := charsAhead data.length data
    let s := withLineFeeds chars
    let byBytes := faultOfBytes data good
    .ofText s ((faultOfChars s).filter (·.1 < byBytes.1) <|> some byBytes)

end Chip8.Yaml
