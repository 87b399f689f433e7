namespace Scenography

/-- The finite double `± mantissa * 2 ^ exponent`. -/
structure Binary64 where
  negative : Bool
  mantissa : Nat
  exponent : Int
deriving DecidableEq

namespace Binary64

def unit : Nat := 0x10000000000000

def signBit : Nat := 0x8000000000000000

def ofFloat? (x : Float) : Option Binary64 :=
  let bits := x.toBits.toNat
  let negative := decide (signBit ≤ bits)
  let fraction := bits % unit
  let biased : Nat := bits / unit % 0x800
  if biased = 0x7ff then none
  else if biased = 0 then some ⟨negative, fraction, -1074⟩
  else some ⟨negative, unit + fraction, (biased : Int) - 1075⟩

/-- The double of this value, exact while `mantissa < 2 ^ 53` and `exponent` is in range. -/
def toFloat (b : Binary64) : Float :=
  if b.mantissa = 0 then if b.negative then -0.0 else 0.0
  else
    let shift := min (52 - b.mantissa.log2) (b.exponent + 1074).toNat
    let mantissa := b.mantissa <<< shift
    let biased := if mantissa < unit then 0 else (b.exponent - shift + 1075).toNat
    let sign := if b.negative then signBit else 0
    Float.ofBits (UInt64.ofNat (sign + biased * unit + mantissa % unit))

def top (b : Binary64) : Nat :=
  b.mantissa <<< b.exponent.toNat

def bottom (b : Binary64) : Nat :=
  1 <<< (-b.exponent).toNat

def signed (b : Binary64) (n : Nat) : Int :=
  if b.negative then -n else n

def truncate (b : Binary64) : Int :=
  b.signed (b.top / b.bottom)

def floor (b : Binary64) : Int :=
  if b.negative then -((b.top + b.bottom - 1) / b.bottom : Nat) else (b.top / b.bottom : Nat)

def nearest (b : Binary64) : Int :=
  b.signed ((2 * b.top + b.bottom) / (2 * b.bottom))

def remainder (b : Binary64) (n : Nat) : Binary64 :=
  if 0 ≤ b.exponent then ⟨b.negative, b.top % n, 0⟩
  else ⟨b.negative, b.mantissa % (n * b.bottom), b.exponent⟩

theorem bottom_pos (b : Binary64) : 0 < b.bottom := by
  rw [bottom, Nat.one_shiftLeft]
  exact Nat.two_pow_pos _

end Binary64

namespace Number

def infinity : Float := Float.ofBits 0x7ff0000000000000

def notANumber : Float := Float.ofBits 0x7ff8000000000000

/-- Rounds by `f`; an infinity lies past every word, and NaN counts as zero. -/
def toInt (f : Binary64 → Int) (x : Float) : Int :=
  match Binary64.ofFloat? x with
  | some b => f b
  | none => if 0 < x then UInt64.size else if x < 0 then -UInt64.size else 0

def toInt64 (x : Float) : Int64 :=
  Int64.ofIntClamp (toInt Binary64.truncate x)

def toUInt64 (x : Float) : UInt64 :=
  UInt64.ofNatClamp (toInt Binary64.truncate x).toNat

end Number

end Scenography
