import Scenography.Proofs.Splitting
import Scenography.Text.Path

namespace Scenography

namespace Text

theorem mem_of_mem_splitChars {sep c : Char} {cs p : List Char} (hp : p ∈ splitChars sep cs) (hc : c ∈ p) :
    c ∈ cs ∧ c ≠ sep := by
  induction cs generalizing p with
  | nil =>
    rw [splitChars, List.mem_singleton] at hp
    rw [hp] at hc
    cases hc
  | cons d cs ih =>
    have hlater {q : List Char} (hq : q ∈ splitChars sep cs) (hcq : c ∈ q) : c ∈ d :: cs ∧ c ≠ sep :=
      ⟨List.mem_cons_of_mem _ (ih hq hcq).1, (ih hq hcq).2⟩
    unfold splitChars at hp
    split at hp
    · rcases List.mem_cons.1 hp with rfl | hp
      · cases hc
      · exact hlater hp hc
    next hd =>
      split at hp
      next hnil => exact (splitChars_ne_nil sep cs hnil).elim
      next q qs hsplit =>
        rcases List.mem_cons.1 hp with rfl | hp
        · rcases List.mem_cons.1 hc with rfl | hc
          · exact ⟨List.mem_cons_self, hd⟩
          · exact hlater (hsplit ▸ List.mem_cons_self) hc
        · exact hlater (hsplit ▸ List.mem_cons_of_mem _ hp) hc

theorem mem_of_mem_split {sep c : Char} {s part : String} (hpart : part ∈ split sep s) (hc : c ∈ part.toList) :
    c ∈ s.toList ∧ c ≠ sep := by
  obtain ⟨p, hp, rfl⟩ := List.mem_map.1 hpart
  rw [String.toList_ofList] at hc
  exact mem_of_mem_splitChars hp hc

end Text

namespace Path

theorem mem_of_mem_cutExtension {name : String} {c : Char} (hc : c ∈ (cutExtension name).1.toList) : c ∈ name.toList := by
  unfold cutExtension at hc
  split at hc
  next extension d ds hcut =>
    rw [String.toList_ofList, List.mem_reverse] at hc
    rw [← List.mem_reverse, ← Text.append_of_cutChars? hcut]
    exact List.mem_append_right _ (List.mem_cons_of_mem _ hc)
  next => exact hc

theorem mem_of_mem_stem? {path stem : String} (h : stem? path = some stem) {c : Char} (hc : c ∈ stem.toList) :
    c ∈ path.toList ∧ c ≠ '/' := by
  obtain ⟨name, hname, rfl⟩ := Option.map_eq_some_iff.1 h
  have hlast : name ∈ parts path := List.mem_of_getLast? (Option.filter_eq_some_iff.1 hname).1
  exact Text.mem_of_mem_split (List.mem_of_mem_filter hlast) (mem_of_mem_cutExtension hc)

end Path

end Scenography
