import Chip8.Numeral.Radix

/-!
# Faults of documents

Why a YAML text gives no data. `malformed` covers everything the format itself rules out: broken syntax,
unknown tags and anchors, several documents. The other faults come from a scalar that has the look or the tag
of a number, a truth value or a point in time and stands for none.
-/

namespace Chip8.Yaml

open Numeral

/-- Which part of a point in time is out of range. -/
inductive CalendarPart where
  | year (n : Nat)
  | month
  | day
  | hour
  | minute
  | second
  | offset (literal : String)
  deriving DecidableEq, Repr

inductive Fault where
  | malformed
  /-- The bytes are no text in UTF-8. -/
  | notText
  /-- An escaped code point beyond the last one. -/
  | codePoint
  /-- An escaped code point that is no number of 32 bits with sign. -/
  | codePointLimit
  /-- A collection too deep inside others, or a text that is defined by itself. -/
  | tooDeep
  /-- A text, given quoted, that is no numeral in the base. -/
  | notInteger (base : Nat) (quoted : String)
  /-- A decimal numeral with too many digits. -/
  | longInteger (digits : Nat)
  /-- A text, given quoted, that is no decimal fraction. -/
  | notDecimal (quoted : String)
  /-- A digit of base sixty at a place that no double can say. -/
  | placeLimit
  /-- A point in time that the calendar or the clock does not have. -/
  | calendar (part : CalendarPart)
  /-- A text tagged as a truth value that is none. -/
  | notTruthValue
  /-- A text tagged as a point in time that does not have its form. -/
  | notTimestamp
  /-- A mapping tagged as a point in time. -/
  | timestampMapping
  /-- An empty text tagged as a number. -/
  | emptyNumeral
  deriving DecidableEq, Repr

def Fault.message : Fault → String
  | malformed => "malformed document"
  | notText => "no text"
  | codePoint => "chr() arg not in range(0x110000)"
  | codePointLimit => "code point too large"
  | tooDeep => "maximum recursion depth exceeded"
  | notInteger base quoted => "invalid literal for int() with base " ++ decimal base ++ ": " ++ quoted
  | longInteger digits =>
    "Exceeds the limit (4300 digits) for integer string conversion: value has " ++ decimal digits
      ++ " digits; use sys.set_int_max_str_digits() to increase the limit"
  | placeLimit => "int too large to convert to float"
  | notDecimal quoted => "could not convert string to float: " ++ quoted
  | calendar (.year n) => "year " ++ decimal n ++ " is out of range"
  | calendar .month => "month must be in 1..12"
  | calendar .day => "day is out of range for month"
  | calendar .hour => "hour must be in 0..23"
  | calendar .minute => "minute must be in 0..59"
  | calendar .second => "second must be in 0..59"
  | calendar (.offset literal) =>
    "offset must be a timedelta strictly between -timedelta(hours=24) and timedelta(hours=24), not " ++ literal ++ "."
  | notTruthValue => "no truth value"
  | notTimestamp => "no point in time"
  | timestampMapping => "no text of a point in time"
  | emptyNumeral => "string index out of range"

end Chip8.Yaml
