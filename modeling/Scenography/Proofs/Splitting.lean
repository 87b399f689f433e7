import Mathlib.Data.List.Basic
import Scenography.Text.Split

namespace Scenography.Text

variable {sep : Char}

section Chars

variable {cs : List Char}

theorem cutChars?_append (h : sep ∉ cs) (rest : List Char) : cutChars? sep (cs ++ sep :: rest) = some (cs, rest) := by
  induction cs with
  | nil => simp [cutChars?]
  | cons c cs ih =>
    obtain ⟨hne, hcs⟩ := List.ne_and_not_mem_of_not_mem_cons h
    rw [List.cons_append, cutChars?, if_neg hne.symm, ih hcs, Option.map_some]

theorem splitChars_of_notMem (h : sep ∉ cs) : splitChars sep cs = [cs] := by
  induction cs with
  | nil => rfl
  | cons c cs ih =>
    obtain ⟨hne, hcs⟩ := List.ne_and_not_mem_of_not_mem_cons h
    rw [splitChars, if_neg hne.symm, ih hcs]

theorem splitChars_append_cons (cs rest : List Char) :
    splitChars sep (cs ++ sep :: rest) = splitChars sep cs ++ splitChars sep rest := by
  induction cs with
  | nil => simp [splitChars]
  | cons c cs ih =>
    rw [List.cons_append, splitChars, splitChars, ih]
    split
    · rfl
    · cases hparts : splitChars sep cs with
      | nil => exact (splitChars_ne_nil sep cs hparts).elim
      | cons p ps => rfl

theorem splitChars_append (h : sep ∉ cs) (rest : List Char) :
    splitChars sep (cs ++ sep :: rest) = cs :: splitChars sep rest := by
  rw [splitChars_append_cons, splitChars_of_notMem h, List.singleton_append]

theorem splitChars_intercalate {parts : List (List Char)} (hne : parts ≠ []) (h : ∀ p ∈ parts, sep ∉ p) :
    splitChars sep ([sep].intercalate parts) = parts := by
  induction parts with
  | nil => exact (hne rfl).elim
  | cons p ps ih =>
    obtain ⟨hp, hps⟩ := List.forall_mem_cons.1 h
    cases ps with
    | nil => simpa using splitChars_of_notMem hp
    | cons q qs =>
      rw [List.intercalate_cons_of_ne_nil (List.cons_ne_nil _ _), List.append_assoc, List.singleton_append,
        splitChars_append hp, ih (List.cons_ne_nil _ _) hps]

end Chars

section Strings

theorem cut?_append {s : String} (h : sep ∉ s.toList) (t : String) :
    cut? sep (s ++ String.singleton sep ++ t) = some (s, t) := by
  simp [cut?, String.toList_append, cutChars?_append h]

theorem notMem_append_sep {c : Char} {s t : String} (hc : c ≠ sep) (hs : c ∉ s.toList) (ht : c ∉ t.toList) :
    c ∉ (s ++ String.singleton sep ++ t).toList := by
  simp [String.toList_append, hc, hs, ht]

theorem append_sep_ne_empty (s t : String) : s ++ String.singleton sep ++ t ≠ "" := by
  intro h
  have hlist := congrArg String.toList h
  simp [String.toList_append] at hlist

theorem eq_of_append_sep {s s' t t' : String} (hs : sep ∉ s.toList) (hs' : sep ∉ s'.toList)
    (h : s ++ String.singleton sep ++ t = s' ++ String.singleton sep ++ t') : s = s' ∧ t = t' := by
  have hcut (s t : String) (hs : sep ∉ s.toList) :
      cutChars? sep (s ++ String.singleton sep ++ t).toList = some (s.toList, t.toList) := by
    rw [String.toList_append, String.toList_append, String.toList_singleton, List.append_assoc, List.singleton_append,
      cutChars?_append hs]
  have heq := (hcut s t hs).symm.trans (h ▸ hcut s' t' hs')
  obtain ⟨hfront, hback⟩ := Prod.mk.inj (Option.some.inj heq)
  exact ⟨String.toList_injective hfront, String.toList_injective hback⟩

theorem split_intercalate {parts : List String} (hne : parts ≠ []) (h : ∀ p ∈ parts, sep ∉ p.toList) :
    split sep (String.intercalate (String.singleton sep) parts) = parts := by
  have hparts : ∀ p ∈ parts.map String.toList, sep ∉ p := by
    intro p hp
    obtain ⟨s, hs, rfl⟩ := List.mem_map.1 hp
    exact h s hs
  rw [split, String.toList_intercalate, String.toList_singleton,
    splitChars_intercalate (by simpa using hne) hparts, List.map_map]
  simp [Function.comp_def]

theorem intercalate_injective {l l' : List String} (h : ∀ s ∈ l, s ≠ "" ∧ sep ∉ s.toList)
    (h' : ∀ s ∈ l', s ≠ "" ∧ sep ∉ s.toList)
    (heq : String.intercalate (String.singleton sep) l = String.intercalate (String.singleton sep) l') : l = l' := by
  have hnil (l : List String) (h : ∀ s ∈ l, s ≠ "" ∧ sep ∉ s.toList)
      (heq : String.intercalate (String.singleton sep) l = "") : l = [] := by
    by_contra hne
    have hsplit := split_intercalate hne fun s hs => (h s hs).2
    rw [heq] at hsplit
    exact (h "" (hsplit ▸ List.mem_singleton.2 rfl)).1 rfl
  by_cases hl : l = []
  · rw [hl] at heq
    rw [hl, hnil l' h' heq.symm]
  · by_cases hl' : l' = []
    · rw [hl'] at heq
      exact (hl (hnil l h heq)).elim
    · rw [← split_intercalate hl fun s hs => (h s hs).2, heq, split_intercalate hl' fun s hs => (h' s hs).2]

end Strings

end Scenography.Text
