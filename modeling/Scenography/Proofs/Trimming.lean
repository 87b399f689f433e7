import Mathlib.Data.List.DropRight
import Scenography.Text.Blank

namespace Scenography.Text

theorem trim_append {before after : String} (hbefore : allBlank before = true) (hafter : allBlank after = true)
    (s : String) : trim (before ++ s ++ after) = trim s := by
  have hleft : ∀ c ∈ before.toList, isBlank c = true := List.all_eq_true.1 hbefore
  have hright : ∀ c ∈ after.toList, isBlank c = true := List.all_eq_true.1 hafter
  have hreverse : ∀ c ∈ after.toList.reverse, isBlank c = true := fun c hc => hright c (List.mem_reverse.1 hc)
  rw [trim, trim, trimChars, trimChars, String.toList_append, String.toList_append, List.append_assoc,
    List.dropWhile_append_of_pos hleft, List.dropWhile_append]
  split
  next hblank =>
    rw [List.isEmpty_iff.1 hblank, List.dropWhile_eq_nil_iff.2 hright]
  next => rw [List.reverse_append, List.dropWhile_append_of_pos hreverse]

theorem exists_trim (s : String) : ∃ before after, allBlank before = true ∧ allBlank after = true ∧
    before ++ trim s ++ after = s := by
  let inner := s.toList.dropWhile isBlank
  refine ⟨String.ofList (s.toList.takeWhile isBlank), String.ofList (inner.rtakeWhile isBlank), ?_, ?_, ?_⟩
  · simp only [allBlank, String.toList_ofList, List.all_takeWhile]
  · simpa only [allBlank, String.toList_ofList, List.all_eq_true] using fun _ => List.mem_rtakeWhile_imp
  · have htrim : trimChars s.toList = inner.rdropWhile isBlank := rfl
    rw [trim, htrim, ← String.ofList_append, ← String.ofList_append, List.append_assoc,
      List.rdropWhile_append_rtakeWhile, List.takeWhile_append_dropWhile, String.ofList_toList]

theorem trim_trim (s : String) : trim (trim s) = trim s := by
  obtain ⟨before, after, hbefore, hafter, h⟩ := exists_trim s
  rw [← trim_append hbefore hafter (trim s), h]

theorem allBlank_append (s t : String) : allBlank (s ++ t) = (allBlank s && allBlank t) := by
  rw [allBlank, String.toList_append, List.all_append]
  rfl

theorem allBlank_join (l : List String) : allBlank (String.join l) = l.all allBlank := by
  induction l with
  | nil => rfl
  | cons s l ih => rw [String.join_cons, allBlank_append, ih, List.all_cons]

def trimEnd (s : String) : String :=
  String.ofList (s.toList.rdropWhile isBlank)

theorem trim_trimEnd (s : String) : trim (trimEnd s) = trim s := by
  have hend : allBlank (String.ofList (s.toList.rtakeWhile isBlank)) = true := by
    simpa only [allBlank, String.toList_ofList, List.all_eq_true] using fun _ => List.mem_rtakeWhile_imp
  have hself : "" ++ trimEnd s ++ String.ofList (s.toList.rtakeWhile isBlank) = s := by
    rw [String.empty_append, trimEnd, ← String.ofList_append, List.rdropWhile_append_rtakeWhile, String.ofList_toList]
  have hstart : allBlank "" = true := rfl
  rw [← trim_append hstart hend (trimEnd s), hself]

def trimStart (s : String) : String :=
  String.ofList (s.toList.dropWhile isBlank)

theorem trim_trimStart (s : String) : trim (trimStart s) = trim s := by
  rw [trim, trim, trimStart, String.toList_ofList, trimChars, List.dropWhile_idempotent, trimChars]

theorem mem_of_mem_trimStart {c : Char} {s : String} (h : c ∈ (trimStart s).toList) : c ∈ s.toList := by
  rw [trimStart, String.toList_ofList] at h
  exact (List.dropWhile_sublist isBlank).mem h

theorem mem_of_mem_trimEnd {c : Char} {s : String} (h : c ∈ (trimEnd s).toList) : c ∈ s.toList := by
  rw [trimEnd, String.toList_ofList] at h
  exact (List.rdropWhile_prefix isBlank s.toList).mem h

theorem mem_of_mem_trim {c : Char} {s : String} (h : c ∈ (trim s).toList) : c ∈ s.toList := by
  obtain ⟨before, after, -, -, hself⟩ := exists_trim s
  rw [← hself, String.toList_append, String.toList_append]
  exact List.mem_append_left _ (List.mem_append_right _ h)

theorem rdropWhile_append_cons {c : Char} (hc : isBlank c = false) (cs ds : List Char) :
    (cs ++ c :: ds).rdropWhile isBlank = cs ++ c :: ds.rdropWhile isBlank := by
  rw [List.rdropWhile, List.reverse_append, List.reverse_cons, List.append_assoc, List.dropWhile_append]
  split
  next hblank => simp [List.rdropWhile, List.isEmpty_iff.1 hblank, hc]
  next => simp [List.rdropWhile]

theorem trimEnd_append {c : Char} (hc : isBlank c = false) (s t : String) :
    trimEnd (s ++ String.singleton c ++ t) = s ++ String.singleton c ++ trimEnd t := by
  simp [trimEnd, ← String.toList_inj, String.toList_append, rdropWhile_append_cons hc]

theorem trim_append_singleton_append {c : Char} (hc : isBlank c = false) (s t : String) :
    trim (s ++ String.singleton c ++ t) =
      trimStart s ++ String.singleton c ++ trimEnd t := by
  have hfront : (s.toList ++ c :: t.toList).dropWhile isBlank = s.toList.dropWhile isBlank ++ c :: t.toList := by
    rw [List.dropWhile_append]
    split
    next hblank => simp [List.isEmpty_iff.1 hblank, hc]
    next => rfl
  have htrim (cs : List Char) : trimChars cs = (cs.dropWhile isBlank).rdropWhile isBlank := rfl
  simp only [trim, trimStart, trimEnd, ← String.toList_inj, String.toList_append, String.toList_singleton, String.toList_ofList,
    List.append_assoc, List.singleton_append, htrim, hfront, rdropWhile_append_cons hc]

end Scenography.Text
