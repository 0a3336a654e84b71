import Mathlib.Data.List.DropRight
import Dripline.Strategies.Types
import Dripline.Swaps.Error

/-!
# Texts of a token

What the filters ask of a text.

* `trimMatches`, `trim`, `meaningfulSymbol` — a text without what is around it.
* `parseF64` — the number that a text is, if it is one.
-/

namespace Dripline.Filtering

open Dripline.Strategies (F64)
open Dripline.Swaps (isWhitespace)

/-- `char::is_control`. -/
def isControl (c : Char) : Bool := c.toNat < 0x20 || decide (0x7F ≤ c.toNat ∧ c.toNat < 0xA0)

/-- `str::trim_matches`. -/
def trimMatches (p : Char → Bool) (text : String) : String :=
  String.ofList ((text.toList.dropWhile p).rdropWhile p)

/-- `str::trim`. -/
def trim (text : String) : String := trimMatches isWhitespace text

/-- Source: `sources/onchain.rs` -/
def meaningfulSymbol (symbol : String) : String :=
  trimMatches (fun c => isWhitespace c || isControl c) symbol

/-- `str::to_ascii_lowercase`. -/
def toAsciiLowercase (text : String) : String := String.ofList (text.toList.map Char.toLower)

/-- `str::eq_ignore_ascii_case`. -/
def eqIgnoreAsciiCase (a b : String) : Bool := toAsciiLowercase a == toAsciiLowercase b

/-- `str::split_whitespace`. -/
def splitWhitespace (text : String) : List (List Char) :=
  (text.toList.splitOnP isWhitespace).filter (· ≠ [])

/-- The number of some digits. -/
def digitsValue (digits : List Char) : ℕ :=
  digits.foldl (fun value digit => 10 * value + (digit.toNat - '0'.toNat)) 0

/-- A sign, and the text behind it. -/
def splitSign : List Char → Bool × List Char
  | '-' :: rest => (true, rest)
  | '+' :: rest => (false, rest)
  | text => (false, text)

/-- The exponent that a text ends with; none is zero. -/
def parseExponent : List Char → Option ℤ
  | [] => some 0
  | mark :: rest =>
    let (negative, digits) := splitSign rest
    if mark.toLower = 'e' ∧ digits ≠ [] ∧ digits.all Char.isDigit then
      some (if negative then -digitsValue digits else digitsValue digits)
    else none

/-- From here on a number is written as infinite. -/
def f64Bound : ℚ := 2 ^ 1024 - 2 ^ 970

/-- `str::parse::<f64>`. A number that is too great is infinite. -/
def parseF64 (text : List Char) : Option F64 :=
  let (negative, magnitude) := splitSign text
  let lower := String.ofList (magnitude.map Char.toLower)
  if lower = "nan" then some .nan
  else if lower = "inf" ∨ lower = "infinity" then some (if negative then .negInf else .posInf)
  else
    let whole := magnitude.takeWhile Char.isDigit
    let (fraction, rest) := match magnitude.dropWhile Char.isDigit with
      | '.' :: rest => (rest.takeWhile Char.isDigit, rest.dropWhile Char.isDigit)
      | rest => ([], rest)
    if whole = [] ∧ fraction = [] then none
    else (parseExponent rest).map fun (exponent : ℤ) =>
      let value : ℚ := digitsValue (whole ++ fraction) * 10 ^ (exponent - (fraction.length : ℤ))
      if f64Bound ≤ value then (if negative then .negInf else .posInf)
      else .finite (if negative then -value else value)

end Dripline.Filtering
