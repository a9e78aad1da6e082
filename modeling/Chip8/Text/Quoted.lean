import Chip8.Numeral.Radix
import Chip8.Text
import Chip8.Text.Printable

/-!
# Quoted text

Text between quotes on one line. The quotes are single, unless the text has single quotes and no double ones.
A backslash stands before itself and before the quote; tab, line feed and carriage return have a letter; every
other code point that does not print is written by its number in hexadecimal.
-/

namespace Chip8.Text

open Numeral

def singleQuote : Char := '\x27'
def doubleQuote : Char := '\x22'

/-- The quote that goes around a text with some characters. -/
def quoteFor (s : List Char) : Char :=
  if s.contains singleQuote && !s.contains doubleQuote then doubleQuote else singleQuote

/-- A number after a backslash and a letter, in a number of hexadecimal digits. -/
def escapeCode (letter : Char) (width n : Nat) : List Char :=
  '\\' :: letter :: ({ base := 16, width : Format }.write n).toList

/-- A character as it stands between quotes. -/
def escape (quote c : Char) : List Char :=
  let n := c.toNat
  if c = quote || c = '\\' then ['\\', c]
  else if c = '\t' then ['\\', 't']
  else if c = '\n' then ['\\', 'n']
  else if c = '\r' then ['\\', 'r']
  else if isPrintable c then [c]
  else if n ≤ 0xff then escapeCode 'x' 2 n
  else if n ≤ 0xffff then escapeCode 'u' 4 n
  else escapeCode 'U' 8 n

/-- A code point as it stands between quotes. -/
def escapePoint (quote : Char) : CodePoint → List Char
  | .char c => escape quote c
  | .half n => escapeCode 'u' 4 (CodePoint.half n).value

def quoted (t : Text) : String :=
  let quote := quoteFor t.chars
  String.ofList (quote :: t.points.flatMap (escapePoint quote) ++ [quote])

/-- The first `limit` characters of the text between quotes. -/
def quotedUpTo (limit : Nat) (t : Text) : String := String.ofList ((quoted t).toList.take limit)

example : quoted "it's\n" = "\x22it's\\n\x22" ∧ quoted ⟨[.half 0, .char 'a']⟩ = "'\\ud800a'" := by decide +kernel

end Chip8.Text
