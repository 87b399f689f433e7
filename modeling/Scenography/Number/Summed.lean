/-!
Sums of words, which may leave their type.
-/

namespace Scenography

/-- What comes of sums of words that wrap, and whether one of them has left its type. -/
structure Summed (α : Type) where
  value : α
  overflowed : Bool := false

namespace Summed

variable {α β : Type}

instance : Monad Summed where
  pure a := { value := a }
  bind x f := ⟨(f x.value).value, x.overflowed || (f x.value).overflowed⟩

def value? (x : Summed α) : Option α :=
  if x.overflowed then none else some x.value

def int64 (a b : Int64) : Summed Int64 :=
  ⟨a + b, a.toBitVec.saddOverflow b.toBitVec⟩

def uint64 (a b : UInt64) : Summed UInt64 :=
  ⟨a + b, a.toBitVec.uaddOverflow b.toBitVec⟩

section

variable (a : α) (x : Summed α) (f : α → Summed β) (g : α → β)

@[simp] theorem value_pure : (pure a : Summed α).value = a := rfl

@[simp] theorem overflowed_pure : (pure a : Summed α).overflowed = false := rfl

@[simp] theorem value_bind : (x >>= f).value = (f x.value).value := rfl

@[simp] theorem overflowed_bind : (x >>= f).overflowed = (x.overflowed || (f x.value).overflowed) := rfl

@[simp] theorem value_map : (g <$> x).value = g x.value := rfl

@[simp] theorem overflowed_map : (g <$> x).overflowed = x.overflowed :=
  Bool.or_false x.overflowed

end

theorem int64_overflowed_iff {a b : Int64} : (int64 a b).overflowed = true ↔
    a.toInt + b.toInt < -9223372036854775808 ∨ 9223372036854775808 ≤ a.toInt + b.toInt := by
  simp only [int64, BitVec.saddOverflow, Int64.toInt_toBitVec, Bool.or_eq_true, decide_eq_true_eq]
  omega

theorem uint64_overflowed_iff {a b : UInt64} :
    (uint64 a b).overflowed = true ↔ 18446744073709551616 ≤ a.toNat + b.toNat :=
  decide_eq_true_iff

theorem toInt_int64 {a b : Int64} (h : (int64 a b).overflowed = false) :
    (int64 a b).value.toInt = a.toInt + b.toInt :=
  BitVec.toInt_add_of_not_saddOverflow (by simpa [int64] using h)

end Summed

end Scenography
