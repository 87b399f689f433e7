import Scenography.Proofs.Spelling
import Scenography.Proofs.Trimming

namespace Scenography

namespace Markup

open Text (allBlank trim)

def runs : List Node → List (List String)
  | [] => [[]]
  | .element _ :: ns => [] :: runs ns
  | .text value _ :: ns => (runs ns).modifyHead (value :: ·)

section Nodes

theorem runs_ne_nil (ns : List Node) : runs ns ≠ [] := by
  induction ns with
  | nil => simp [runs]
  | cons n ns ih => cases n <;> simp [runs, ih]

theorem flatten_runs (ns : List Node) : (runs ns).flatten = textsOf ns := by
  induction ns with
  | nil => rfl
  | cons n ns ih =>
    cases n with
    | element e => exact ih
    | text value span =>
      obtain ⟨run, more, h⟩ := List.exists_cons_of_ne_nil (runs_ne_nil ns)
      rw [runs, textsOf, ← ih, h]
      rfl

theorem runs_append_element (ns : List Node) (e : Element) : runs (ns ++ [.element e]) = runs ns ++ [[]] := by
  induction ns with
  | nil => rfl
  | cons n ns ih =>
    cases n with
    | element d => rw [List.cons_append, runs, ih, runs, List.cons_append]
    | text value span =>
      obtain ⟨run, more, h⟩ := List.exists_cons_of_ne_nil (runs_ne_nil ns)
      rw [List.cons_append, runs, ih, runs, h]
      rfl

theorem exists_runs_append_text (ns : List Node) : ∃ init last, runs ns = init ++ [last] ∧
    ∀ value span, runs (ns ++ [.text value span]) = init ++ [last ++ [value]] := by
  induction ns with
  | nil => exact ⟨[], [], rfl, fun _ _ => rfl⟩
  | cons n ns ih =>
    obtain ⟨init, last, h, htext⟩ := ih
    cases n with
    | element d => exact ⟨[] :: init, last, by rw [runs, h]; rfl, fun value span => by rw [List.cons_append, runs, htext]; rfl⟩
    | text before place =>
      cases init with
      | nil => exact ⟨[], before :: last, by rw [runs, h]; rfl, fun value span => by rw [List.cons_append, runs, htext]; rfl⟩
      | cons run init =>
        exact ⟨(before :: run) :: init, last, by rw [runs, h]; rfl, fun value span => by rw [List.cons_append, runs, htext]; rfl⟩

end Nodes

def isWorded (run : List String) : Bool :=
  run.any fun s => !allBlank s

def worded (ns : List Node) : List String :=
  ((runs ns).filter isWorded).flatten

/-- From the first word to the last, no blank stretch stands by itself. -/
def unbroken (ns : List Node) : Bool :=
  (((worded ns).dropWhile allBlank).rdropWhile allBlank).all fun s => s = "" || !allBlank s

theorem filter_worded (ns : List Node) :
    (worded ns).filter (fun s => !allBlank s) = (textsOf ns).filter fun s => !allBlank s := by
  rw [← flatten_runs, worded]
  induction runs ns with
  | nil => rfl
  | cons run more ih =>
    rw [List.filter_cons]
    split
    next => rw [List.flatten_cons, List.flatten_cons, List.filter_append, List.filter_append, ih]
    next hblank =>
      have hrun : run.filter (fun s => !allBlank s) = [] := by simpa [isWorded] using hblank
      rw [ih, List.flatten_cons, List.filter_append, hrun, List.nil_append]

theorem isWorded_eq (run : List String) : isWorded run = !allBlank (String.join run) := by
  rw [Text.allBlank_join, isWorded, List.not_all_eq_any_not]

theorem join_filter_of_all {l : List String} (h : (l.all fun s => s = "" || !allBlank s) = true) :
    String.join (l.filter fun s => !allBlank s) = String.join l := by
  induction l with
  | nil => rfl
  | cons s l ih =>
    obtain ⟨hs, hl⟩ := Bool.and_eq_true_iff.1 (List.all_cons ▸ h)
    rw [List.filter_cons, String.join_cons]
    split
    next => rw [String.join_cons, ih hl]
    next hblank =>
      obtain rfl : s = "" := by simpa [hblank] using hs
      rw [ih hl, String.empty_append]

theorem trim_join_of_unbroken {ns : List Node} (h : unbroken ns = true) :
    trim (String.join ((textsOf ns).filter fun s => !allBlank s)) = trim (String.join (worded ns)) := by
  rw [← filter_worded]
  generalize hl : worded ns = l
  rw [unbroken, hl] at h
  obtain ⟨before, after, hbefore, hafter, hsplit⟩ : ∃ before after, (∀ s ∈ before, allBlank s = true) ∧
      (∀ s ∈ after, allBlank s = true) ∧ before ++ ((l.dropWhile allBlank).rdropWhile allBlank) ++ after = l :=
    ⟨_, _, fun _ => List.mem_takeWhile_imp, fun _ => List.mem_rtakeWhile_imp, by
      rw [List.append_assoc, List.rdropWhile_append_rtakeWhile, List.takeWhile_append_dropWhile]⟩
  have hblank {m : List String} (hm : ∀ s ∈ m, allBlank s = true) : m.filter (fun s => !allBlank s) = [] := by
    simpa [List.filter_eq_nil_iff] using hm
  rw [← hsplit, List.filter_append, List.filter_append, hblank hbefore, hblank hafter, List.nil_append, List.append_nil,
    join_filter_of_all h, String.join_append, String.join_append]
  exact (Text.trim_append (Text.allBlank_join _ ▸ List.all_eq_true.2 hbefore)
    (Text.allBlank_join _ ▸ List.all_eq_true.2 hafter) _).symm

theorem join_worded {ns ns' : List Node} (hruns : (runs ns).map String.join = (runs ns').map String.join)
    (hwhole : ∀ run ∈ runs ns', run.length ≤ 1) :
    String.join ((textsOf ns').filter fun s => !allBlank s) = String.join (worded ns) := by
  have hjoin (l : List (List String)) :
      String.join (l.filter isWorded).flatten = String.join ((l.map String.join).filter fun s => !allBlank s) := by
    induction l with
    | nil => rfl
    | cons run l ih =>
      rw [List.map_cons, List.filter_cons, List.filter_cons, isWorded_eq]
      split
      next => rw [List.flatten_cons, String.join_append, String.join_cons, ih]
      next => exact ih
  have hworded : ∀ s ∈ worded ns', (!allBlank s) = true := by
    intro s hs
    obtain ⟨run, hrun, hs⟩ := List.mem_flatten.1 hs
    obtain ⟨hrun, hword⟩ := List.mem_filter.1 hrun
    obtain ⟨t, ht, hword⟩ := List.any_eq_true.1 hword
    cases run with
    | nil => cases hs
    | cons r run =>
      obtain rfl : run = [] := by simpa using hwhole _ hrun
      rwa [List.mem_singleton.1 hs, ← List.mem_singleton.1 ht]
  rw [← filter_worded, List.filter_eq_self.2 hworded, worded, worded, hjoin, hjoin, hruns]

def Spelling.quiet : Spelling where
  value _ _ raw := raw
  span _ := default
  texts name ns := (elementsOf ns).map .element ++
    [.text (if name = "CustomCommandAction" then trim (String.join (textsOf ns)) else "") default]
  elements_texts name ns := by
    rw [elementsOf_append, elementsOf_map_element, elementsOf, elementsOf, List.append_nil]
  words_texts ns := by
    rw [textsOf_append, textsOf_map_element]
    simp [textsOf, Text.trim_trim]

theorem Spelling.quiet_isLiteral : Spelling.quiet.IsLiteral := fun _ _ => rfl

theorem Element.alike_quiet {name : String} {attributes : KeyMap String String} {ns ns' : List Node} {span span' : Span}
    (helements : List.Forall₂ (Alike .quiet) (elementsOf ns) (elementsOf ns'))
    (hwords : name = "CustomCommandAction" → trim (String.join (textsOf ns)) = trim (String.join (textsOf ns'))) :
    Alike .quiet (mk name attributes ns span) (mk name attributes ns' span') := by
  have hsaid : (if name = "CustomCommandAction" then trim (String.join (textsOf ns)) else "") =
      if name = "CustomCommandAction" then trim (String.join (textsOf ns')) else "" := by
    split
    next h => exact hwords h
    next => rfl
  rw [Alike, respell, respell, respellAll_eq_map, respellAll_eq_map]
  simp only [Spelling.quiet, elementsOf_respell, textsOf_respell] at helements ⊢
  rw [forall₂_alike_iff.1 helements, hsaid]

mutual

def Element.commandsUnbroken : Element → Bool
  | .mk name _ children _ => (name ≠ "CustomCommandAction" || unbroken children) && allCommandsUnbroken children

def allCommandsUnbroken : List Node → Bool
  | [] => true
  | .element e :: ns => e.commandsUnbroken && allCommandsUnbroken ns
  | .text _ _ :: ns => allCommandsUnbroken ns

end

def Element.ReadsAs (e e' : Element) : Prop :=
  e.commandsUnbroken = true → Alike .quiet e.pruned e'.pruned

theorem Element.allCommandsUnbroken_iff (ns : List Node) :
    allCommandsUnbroken ns = true ↔ ∀ e ∈ elementsOf ns, e.commandsUnbroken = true := by
  induction ns with
  | nil => simp [allCommandsUnbroken, elementsOf]
  | cons n ns ih => cases n <;> simp [allCommandsUnbroken, elementsOf, ih]

theorem Element.readsAs_mk {name : String} {attributes : KeyMap String String} {ns ns' : List Node} {span span' : Span}
    (helements : List.Forall₂ Element.ReadsAs (elementsOf ns) (elementsOf ns'))
    (hruns : (runs ns).map String.join = (runs ns').map String.join) (hwhole : ∀ run ∈ runs ns', run.length ≤ 1) :
    Element.ReadsAs (.mk name attributes ns span) (.mk name attributes ns' span') := by
  intro h
  obtain ⟨hname, hdeep⟩ := Bool.and_eq_true_iff.1 h
  rw [pruned, pruned]
  apply alike_quiet
  · rw [elementsOf_pruned, elementsOf_pruned, List.forall₂_map_left_iff, List.forall₂_map_right_iff]
    have hboth := (List.forall₂_and_left _ _).2 ⟨(allCommandsUnbroken_iff ns).1 hdeep, helements⟩
    exact hboth.imp fun _ _ he => he.2 he.1
  · intro hcommand
    have hunbroken : unbroken ns = true := by simpa [hcommand] using hname
    rw [textsOf_pruned, textsOf_pruned, trim_join_of_unbroken hunbroken, join_worded hruns hwhole]

end Markup

end Scenography
