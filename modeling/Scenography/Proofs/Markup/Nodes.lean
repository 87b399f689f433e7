import Scenography.Markup.Element

namespace Scenography.Markup

open Text (allBlank)

def elementsOf : List Node → List Element
  | [] => []
  | .element e :: ns => e :: elementsOf ns
  | .text _ _ :: ns => elementsOf ns

def textsOf : List Node → List String
  | [] => []
  | .element _ :: ns => textsOf ns
  | .text value _ :: ns => value :: textsOf ns

attribute [simp] elementsOf textsOf

theorem Element.elements_eq (e : Element) : e.elements = elementsOf e.children := by
  rw [elements]
  induction e.children with
  | nil => rfl
  | cons n ns ih => cases n <;> simp [ih]

theorem Element.text_eq (e : Element) : e.text = String.join (textsOf e.children) := by
  rw [text]
  congr 1
  induction e.children with
  | nil => rfl
  | cons n ns ih => cases n <;> simp [ih]

theorem elementsOf_append (ns ms : List Node) : elementsOf (ns ++ ms) = elementsOf ns ++ elementsOf ms := by
  induction ns with
  | nil => rfl
  | cons n ns ih => cases n <;> simp [ih]

theorem textsOf_append (ns ms : List Node) : textsOf (ns ++ ms) = textsOf ns ++ textsOf ms := by
  induction ns with
  | nil => rfl
  | cons n ns ih => cases n <;> simp [ih]

theorem elementsOf_map_element (es : List Element) : elementsOf (es.map .element) = es := by
  induction es with
  | nil => rfl
  | cons e es ih => rw [List.map_cons, elementsOf, ih]

theorem textsOf_map_element (es : List Element) : textsOf (es.map .element) = [] := by
  induction es with
  | nil => rfl
  | cons e es ih => rw [List.map_cons, textsOf, ih]

theorem elementsOf_pruned (ns : List Node) : elementsOf (prunedAll ns) = (elementsOf ns).map Element.pruned := by
  induction ns with
  | nil => rfl
  | cons n ns ih =>
    cases n with
    | element e => simp [prunedAll, ih]
    | text value span =>
      rw [prunedAll]
      split <;> simp [ih]

theorem textsOf_pruned (ns : List Node) : textsOf (prunedAll ns) = (textsOf ns).filter fun s => !allBlank s := by
  induction ns with
  | nil => rfl
  | cons n ns ih =>
    cases n with
    | element e => simp [prunedAll, ih]
    | text value span =>
      rw [prunedAll]
      split
      next h => simp [ih, h]
      next h => simp [ih, h]

end Scenography.Markup
