import Scenography.Number.Shortest

namespace Scenography.Number

open Decimal

def zeros (n : Nat) : List Char :=
  List.replicate n '0'

/-- Digits with the point set `point` places after the first digit's left side. -/
def positional (digits : List Char) (point : Int) : List Char :=
  if point ≤ 0 then ['0', '.'] ++ zeros (-point).toNat ++ digits
  else if digits.length ≤ point.toNat then digits ++ zeros (point.toNat - digits.length)
  else digits.take point.toNat ++ '.' :: digits.drop point.toNat

def unsignedPlain (b : Binary64) : List Char :=
  if b.mantissa = 0 then ['0']
  else
    let d := Shortest.decimal b
    let ds := digits d.coefficient
    positional ds (ds.length + d.exponent)

def sign (negative : Bool) (cs : List Char) : String :=
  String.ofList (if negative then '-' :: cs else cs)

def special (x : Float) : String :=
  if 0 < x then "inf" else if x < 0 then "-inf" else "NaN"

/-- Shortest digits in positional form, never with an exponent and without an empty fraction. -/
def plain (x : Float) : String :=
  match Binary64.ofFloat? x with
  | some b => sign b.negative (unsignedPlain b)
  | none => special x

def tidy (x : Float) : String :=
  if x == 0 then "0" else plain x

def roundEven (n d : Nat) : Nat :=
  let q := n / d
  let twice := 2 * (n % d)
  if twice < d then q else if d < twice then q + 1 else q + q % 2

def fixed (places : Nat) (x : Float) : String :=
  match Binary64.ofFloat? x with
  | some b =>
    let ds := digits (roundEven (b.top * Nat.pow 10 places) b.bottom)
    let padded := zeros (places + 1 - ds.length) ++ ds
    sign b.negative (positional padded (padded.length - places))
  | none => special x

/-- Shortest digits with a fraction or an exponent always written; the exponent stands in from
`10 ^ 16` up and below `10 ^ -5`. -/
def jsonText (b : Binary64) : String :=
  if b.mantissa = 0 then sign b.negative ['0', '.', '0']
  else
    let d := Shortest.decimal b
    let ds := digits d.coefficient
    let point := ds.length + d.exponent
    if -5 < point ∧ point ≤ 16 then
      sign b.negative (positional ds point ++ if ds.length ≤ point then ['.', '0'] else [])
    else
      let mantissa := match ds with
        | [] => []
        | [c] => [c]
        | c :: cs => c :: '.' :: cs
      sign b.negative (mantissa ++ 'e' :: (toString (point - 1)).toList)

end Scenography.Number
