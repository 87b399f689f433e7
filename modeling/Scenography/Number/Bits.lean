import Scenography.Number.Binary64
/-!
Doubles as their bits. NaN is one double but has many bit patterns, which differ as bits.
-/

namespace Scenography.Number

structure Bits where
  word : UInt64
deriving DecidableEq

namespace Bits

def ofFloat (x : Float) : Bits :=
  ⟨x.toBits⟩

def toFloat (b : Bits) : Float :=
  Float.ofBits b.word

instance : Coe Float Bits where
  coe := ofFloat

def withSign (negative : Bool) (b : Bits) : Bits :=
  if negative then ⟨b.word ||| UInt64.ofNat Binary64.signBit⟩ else b

end Bits

end Scenography.Number
