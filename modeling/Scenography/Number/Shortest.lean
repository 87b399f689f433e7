import Scenography.Number.Binary64

namespace Scenography

structure Decimal where
  coefficient : Nat
  exponent : Int
deriving DecidableEq

namespace Decimal

def digits (n : Nat) : List Char :=
  Nat.toDigits 10 n

def digitCount (n : Nat) : Nat :=
  (digits n).length

def strip : Nat → Decimal → Decimal
  | 0, d => d
  | fuel + 1, d =>
    if d.coefficient ≠ 0 ∧ d.coefficient % 10 = 0
    then strip fuel ⟨d.coefficient / 10, d.exponent + 1⟩
    else d

end Decimal

namespace Shortest

open Decimal

/-- A decimal grid of spacing `10 ^ place` beside a double, in one integer measure: a quarter of the
mantissa's unit is `unit` long, a grid step `step`. -/
structure Grid where
  place : Int
  unit : Nat
  step : Nat

def gridAt (b : Binary64) (place : Int) : Grid :=
  let e := b.exponent - 2
  ⟨place, Nat.pow 10 (-place).toNat <<< e.toNat, Nat.pow 10 place.toNat <<< (-e).toNat⟩

def below (b : Binary64) : Nat :=
  if b.mantissa = Binary64.unit ∧ -1074 < b.exponent then 1 else 2

/-- The grid point `c` rounds to the value; the ends of the interval do so for an even mantissa. -/
def holds (b : Binary64) (g : Grid) (c : Nat) : Bool :=
  let low := (4 * b.mantissa - below b) * g.unit
  let high := (4 * b.mantissa + 2) * g.unit
  let point := c * g.step
  if b.mantissa % 2 = 0 then low ≤ point && point ≤ high else low < point && point < high

/-- Of the two grid points about the value the nearer that rounds to it, the upper one on a tie. -/
def neighbour? (b : Binary64) (g : Grid) : Option Nat :=
  let value := 4 * b.mantissa * g.unit
  let c := value / g.step
  let lower := holds b g c
  let upper := holds b g (c + 1)
  if lower && upper then
    some (if value - c * g.step < (c + 1) * g.step - value then c else c + 1)
  else if lower then some c
  else if upper then some (c + 1)
  else none

def magnitude (b : Binary64) : Int :=
  if b.bottom ≤ b.top then digitCount (b.top / b.bottom)
  else 1 - (digitCount ((b.bottom + b.top - 1) / b.top - 1) : Int)

def search (b : Binary64) (k : Int) : (fuel n : Nat) → Decimal
  | 0, _ => ⟨b.mantissa, 0⟩
  | fuel + 1, n =>
    let g := gridAt b (k - n)
    match neighbour? b g with
    | some c => ⟨c, g.place⟩
    | none => search b k fuel (n + 1)

/-- The fewest digits that read back as `b`, and of those the nearest; no double needs more than
seventeen. -/
def decimal (b : Binary64) : Decimal :=
  if b.mantissa = 0 then ⟨0, 0⟩ else (search b (magnitude b) 17 1).strip 1

end Shortest

end Scenography
