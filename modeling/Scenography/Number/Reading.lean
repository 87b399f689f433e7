import Scenography.Number.Bits
import Scenography.Number.Shortest

namespace Scenography.Number

def leadDigits (value count : Nat) : List Char → Nat × Nat × List Char
  | [] => (value, count, [])
  | c :: cs =>
    if c.isDigit then leadDigits (10 * value + (c.toNat - 48)) (count + 1) cs
    else (value, count, c :: cs)

/-- The double nearest to `coefficient * 10 ^ exponent`. Sizes no double has are settled before any
power is formed. -/
def ofDecimal (coefficient : Nat) (exponent : Int) : Float :=
  let size := Decimal.digitCount coefficient + exponent
  if coefficient = 0 ∨ size < -330 then 0.0
  else if 310 < size then infinity
  else if 0 ≤ exponent then Float.ofScientific coefficient false exponent.toNat
  else Float.ofScientific coefficient true (-exponent).toNat

def leadSign : List Char → Bool × List Char
  | '-' :: cs => (true, cs)
  | '+' :: cs => (false, cs)
  | cs => (false, cs)

def exponent? : List Char → Option Int
  | [] => some 0
  | c :: cs =>
    if c = 'e' ∨ c = 'E' then
      let (negative, ds) := leadSign cs
      match leadDigits 0 0 ds with
      | (_, 0, _) => none
      | (n, _, []) => some (if negative then -n else n)
      | _ => none
    else none

def magnitude? (cs : List Char) : Option Float :=
  let (whole, wholeCount, rest) := leadDigits 0 0 cs
  let (coefficient, places, rest) := match rest with
    | '.' :: rest => leadDigits whole 0 rest
    | rest => (whole, 0, rest)
  if wholeCount + places = 0 then none
  else (exponent? rest).map fun e => ofDecimal coefficient (e - places)

/-- Any double without its sign: a decimal text, or in any case of letters `inf`, `infinity` or
`nan`. -/
def unsigned? (cs : List Char) : Option Float :=
  let word := String.ofList (cs.map Char.toLower)
  if word = "inf" ∨ word = "infinity" then some infinity
  else if word = "nan" then some notANumber
  else magnitude? cs

/-- The bits of the double a text stands for; a negative NaN keeps its sign. -/
def bits? (s : String) : Option Bits :=
  let (negative, cs) := leadSign s.toList
  (unsigned? cs).map fun x => (Bits.ofFloat x).withSign negative

def float? (s : String) : Option Float :=
  (bits? s).map Bits.toFloat

end Scenography.Number
