import Mathlib.Data.List.Basic
import Scenography.Counters
import Scenography.References

namespace Scenography

theorem toDigits_injective {m n : Nat} (h : Nat.toDigits 10 m = Nat.toDigits 10 n) : m = n := by
  rw [← @Nat.ofDigitChars_ten_toDigits m, h, Nat.ofDigitChars_ten_toDigits]

theorem toString_injective {m n : Nat} (h : toString m = toString n) : m = n := by
  apply toDigits_injective
  rw [← Nat.toList_repr, ← Nat.toList_repr]
  exact congrArg String.toList h

theorem toString_ne_sharedTimeline (n : Nat) : toString (n + 2) ≠ Counters.sharedTimeline := by
  intro h
  have hone : toString (n + 2) = toString 1 := h
  have := toString_injective hone
  omega

namespace References

theorem toList_actionId (event action : Nat) :
    (actionId event action).toList = Nat.toDigits 10 event ++ '_' :: Nat.toDigits 10 action := by
  have h (n : Nat) : (toString n).toList = Nat.toDigits 10 n := Nat.toList_repr
  rw [actionId, String.toList_append, String.toList_append, h, h]
  simp

theorem actionId_injective {i j i' j' : Nat} (h : actionId i j = actionId i' j') : i = i' ∧ j = j' := by
  have hl := congrArg String.toList h
  rw [toList_actionId, toList_actionId,
    List.append_cons_inj_of_notMem Nat.underscore_not_in_toDigits Nat.underscore_not_in_toDigits] at hl
  exact ⟨toDigits_injective hl.1, toDigits_injective hl.2.2⟩

end References

end Scenography
