import Scenography.Proofs.Json.Texts
import Scenography.Proofs.NumberTexts

namespace Scenography

def Unbroken (s : String) : Prop :=
  '\n' ∉ s.toList

namespace Unbroken

theorem append {s t : String} (hs : Unbroken s) (ht : Unbroken t) : Unbroken (s ++ t) := by
  rw [Unbroken, String.toList_append, List.mem_append]
  exact not_or.2 ⟨hs, ht⟩

theorem intercalate {sep : String} (hsep : Unbroken sep) {l : List String} (h : ∀ s ∈ l, Unbroken s) :
    Unbroken (sep.intercalate l) := by
  induction l with
  | nil => simp [Unbroken]
  | cons s l ih =>
    obtain ⟨hs, hl⟩ := List.forall_mem_cons.1 h
    cases l with
    | nil => simpa [Unbroken] using hs
    | cons t l =>
      rw [String.intercalate_cons_cons]
      exact (hs.append hsep).append (ih hl)

theorem of_isNumeral {s : String} (h : ∀ c ∈ s.toList, Number.isNumeral c = true) : Unbroken s := by
  intro hmem
  have hnumeral := h _ hmem
  simp [Number.isNumeral, Char.isDigit] at hnumeral

theorem toString (n : Nat) : Unbroken (ToString.toString n) :=
  .of_isNumeral fun _ => Number.isNumeral_of_mem_toString

end Unbroken

namespace Json

open Number Decimal

end Json

end Scenography
