import Mathlib.Data.List.Forall2
import Scenography.Parameters
import Scenography.Proofs.KeyMap
import Scenography.Proofs.Markup.Nodes
/-!
Elements with other texts in their attributes and between their tags, and other places: what is asked of such an
element is what is asked of the first one, spelled anew.
-/

namespace Scenography

namespace KeyMap

variable {κ α β : Type} [Key κ]

def mapWithKey (f : κ → α → β) (m : KeyMap κ α) : KeyMap κ β :=
  ⟨m.entries.map fun e => (e.1, f e.1 e.2),
    (List.pairwise_map (f := fun e : κ × α => (e.1, f e.1 e.2))).2 m.sorted⟩

theorem get?_mapWithKey [DecidableEq κ] (f : κ → α → β) (m : KeyMap κ α) (k : κ) :
    (m.mapWithKey f).get? k = (m.get? k).map (f k) := by
  simp only [get?, mapWithKey, List.find?_map, Option.map_map, Function.comp_def]
  apply Option.map_congr
  intro e he
  have hk := List.find?_some he
  rw [of_decide_eq_true hk]

theorem mapWithKey_eq {f : κ → α → β} {m n : KeyMap κ α}
    (h : List.Forall₂ (fun p q => p.1 = q.1 ∧ f p.1 p.2 = f p.1 q.2) m.entries n.entries) :
    m.mapWithKey f = n.mapWithKey f := by
  have hentry : List.Forall₂ (fun p q => (p.1, f p.1 p.2) = (q.1, f q.1 q.2)) m.entries n.entries := by
    refine h.imp ?_
    rintro ⟨k, a⟩ ⟨k', b⟩ ⟨hk, hv⟩
    cases hk
    exact congrArg (k, ·) hv
  exact ext (List.forall₂_eq_eq_eq ▸ List.forall₂_map_left_iff.2 (List.forall₂_map_right_iff.2 hentry))

end KeyMap

theorem rel_head? {α β : Type} {R : α → β → Prop} {l : List α} {l' : List β} (h : List.Forall₂ R l l') :
    Option.Rel R l.head? l'.head? := by
  cases h with
  | nil => exact .none
  | cons h _ => exact .some h

theorem optionRel_imp {α β : Type} {R S : α → β → Prop} {o : Option α} {o' : Option β} (h : Option.Rel R o o')
    (hrs : ∀ a b, R a b → S a b) : Option.Rel S o o' := by
  cases h with
  | none => exact .none
  | some h => exact .some (hrs _ _ h)

theorem exists_of_optionRel {α β : Type} {R : α → β → Prop} {o : Option α} {o' : Option β} {a : α}
    (h : Option.Rel R o o') (ha : o = some a) : ∃ b, o' = some b ∧ R a b := by
  cases h with
  | none => cases ha
  | @some a' b h => exact ⟨b, rfl, Option.some.inj ha ▸ h⟩

theorem bind_eq_of_optionRel {α β γ : Type} {R : α → β → Prop} {o : Option α} {o' : Option β} (h : Option.Rel R o o')
    {f : α → Option γ} {g : β → Option γ} (hfg : ∀ a b, R a b → f a = g b) : o.bind f = o'.bind g := by
  cases h with
  | none => rfl
  | some h => exact hfg _ _ h

namespace Markup

/-- How to spell attribute values, by the element's name and the key, where to put elements, and how to part the texts
between them; a custom command stays the same but for white space around it. -/
structure Spelling where
  value : (element key raw : String) → String
  span : Span → Span
  texts : (element : String) → List Node → List Node := fun _ ns => ns
  elements_texts : ∀ name ns, elementsOf (texts name ns) = elementsOf ns := by intros; rfl
  words_texts : ∀ ns, Text.trim (String.join (textsOf (texts "CustomCommandAction" ns))) =
    Text.trim (String.join (textsOf ns)) := by intros; rfl

def Spelling.KeepsNames (f : Spelling) : Prop :=
  ∀ raw, f.value "Property" "name" raw = raw

mutual

def Element.respell (f : Spelling) : Element → Element
  | .mk name attributes children span =>
    .mk name (attributes.mapWithKey (f.value name)) (f.texts name (respellAll f children)) (f.span span)

def Node.respell (f : Spelling) : Node → Node
  | .element e => .element (e.respell f)
  | .text value span => .text value (f.span span)

def respellAll (f : Spelling) : List Node → List Node
  | [] => []
  | n :: ns => n.respell f :: respellAll f ns

end

namespace Element

variable (f : Spelling) (e : Element)

@[simp] theorem name_respell : (e.respell f).name = e.name := by
  cases e
  rfl

@[simp] theorem attr?_respell (key : String) : (e.respell f).attr? key = (e.attr? key).map (f.value e.name key) := by
  cases e
  exact KeyMap.get?_mapWithKey _ _ _

theorem respellAll_eq_map (ns : List Node) : respellAll f ns = ns.map (·.respell f) := by
  induction ns with
  | nil => rfl
  | cons n ns ih => rw [respellAll, ih, List.map_cons]

theorem children_respell : (e.respell f).children = f.texts e.name (e.children.map (·.respell f)) := by
  rw [← respellAll_eq_map]
  cases e
  rfl

theorem elementsOf_respell (f : Spelling) (ns : List Node) :
    elementsOf (ns.map (·.respell f)) = (elementsOf ns).map (·.respell f) := by
  induction ns with
  | nil => rfl
  | cons n ns ih => cases n <;> simp [elementsOf, Node.respell, ih]

theorem textsOf_respell (f : Spelling) (ns : List Node) : textsOf (ns.map (·.respell f)) = textsOf ns := by
  induction ns with
  | nil => rfl
  | cons n ns ih => cases n <;> simp [textsOf, Node.respell, ih]

@[simp] theorem elements_respell : (e.respell f).elements = e.elements.map (respell f) := by
  rw [elements_eq, elements_eq, children_respell, f.elements_texts, elementsOf_respell]

@[simp] theorem child?_respell (name : String) : (e.respell f).child? name = (e.child? name).map (respell f) := by
  rw [child?, elements_respell, List.find?_map, child?]
  simp only [Function.comp_def, name_respell]

@[simp] theorem hasChild_respell (name : String) : (e.respell f).hasChild name = e.hasChild name := by
  simp [hasChild]

@[simp] theorem childrenNamed_respell (name : String) :
    (e.respell f).childrenNamed name = (e.childrenNamed name).map (respell f) := by
  simp [childrenNamed, List.filter_map, Function.comp_def]

@[simp] theorem descend?_respell (path : List String) :
    (e.respell f).descend? path = (e.descend? path).map (respell f) := by
  induction path generalizing e with
  | nil => rfl
  | cons name path ih =>
    rw [descend?, descend?, child?_respell]
    cases e.child? name with
    | none => rfl
    | some child => exact ih child

@[simp] theorem firstElement?_respell : (e.respell f).firstElement? = e.firstElement?.map (respell f) := by
  simp [firstElement?]

theorem trim_text_respell (h : e.name = "CustomCommandAction") : Text.trim (e.respell f).text = Text.trim e.text := by
  rw [text_eq, text_eq, children_respell, h, f.words_texts, textsOf_respell]

theorem name_of_child? {e child : Element} {name : String} (h : e.child? name = some child) : child.name = name := by
  have hname := List.find?_some h
  exact of_decide_eq_true hname

theorem child?_eq_head? (name : String) : e.child? name = (e.childrenNamed name).head? :=
  List.head?_filter.symm

theorem properties_respell {f : Spelling} (hf : f.KeepsNames) (e : Element) :
    (e.respell f).properties = e.properties.map fun p => (p.1, f.value "Property" "value" p.2) := by
  unfold properties
  rw [child?_respell]
  cases e.child? "Properties" with
  | none => rfl
  | some list =>
    simp only [Option.map_some, childrenNamed_respell, List.filterMap_map, List.map_filterMap]
    apply List.filterMap_congr
    intro p hp
    have hp : p.name = "Property" := of_decide_eq_true (List.mem_filter.1 hp).2
    simp only [Function.comp_apply, attr?_respell, hp]
    cases p.attr? "name" <;> cases p.attr? "value" <;> simp [hf _]

theorem property?_respell {f : Spelling} (hf : f.KeepsNames) (e : Element) (name : String) :
    (e.respell f).property? name = (e.property? name).map (f.value "Property" "value") := by
  simp [property?, properties_respell hf, List.find?_map, Function.comp_def]

end Element

def Spelling.bare : Spelling where
  value _ _ raw := raw
  span _ := default

namespace Element

theorem text_respell_bare (e : Element) : (e.respell .bare).text = e.text := by
  rw [text_eq, text_eq, children_respell]
  exact congrArg String.join (textsOf_respell _ _)

/-- Two elements that are the same once spelled anew. -/
def Alike (f : Spelling) (e e' : Element) : Prop :=
  e.respell f = e'.respell f

theorem forall₂_alike_iff {f : Spelling} {l l' : List Element} :
    List.Forall₂ (Alike f) l l' ↔ l.map (respell f) = l'.map (respell f) := by
  rw [← List.forall₂_eq_eq_eq, List.forall₂_map_left_iff, List.forall₂_map_right_iff]
  rfl

theorem rel_alike_iff {f : Spelling} {o o' : Option Element} :
    Option.Rel (Alike f) o o' ↔ o.map (respell f) = o'.map (respell f) := by
  constructor
  · rintro (h | -)
    · exact congrArg some h
    · rfl
  · intro h
    cases o with
    | none =>
      cases o' with
      | none => exact .none
      | some e' => cases h
    | some e =>
      cases o' with
      | none => cases h
      | some e' => exact .some (Option.some.inj h)

namespace Alike

variable {f : Spelling} {e e' : Element}

theorem name_eq (h : Alike f e e') : e.name = e'.name := by
  rw [← name_respell f e, h, name_respell]

theorem child? (h : Alike f e e') (name : String) : Option.Rel (Alike f) (e.child? name) (e'.child? name) := by
  rw [rel_alike_iff, ← child?_respell, h, child?_respell]

theorem bind_child? {o o' : Option Element} (h : Option.Rel (Alike f) o o') (name : String) :
    Option.Rel (Alike f) (o.bind (·.child? name)) (o'.bind (·.child? name)) := by
  cases h with
  | none => exact .none
  | some h => exact h.child? name

theorem descend? (h : Alike f e e') (path : List String) :
    Option.Rel (Alike f) (e.descend? path) (e'.descend? path) := by
  rw [rel_alike_iff, ← descend?_respell, h, descend?_respell]

theorem childrenNamed (h : Alike f e e') (name : String) :
    List.Forall₂ (Alike f) (e.childrenNamed name) (e'.childrenNamed name) := by
  rw [forall₂_alike_iff, ← childrenNamed_respell, h, childrenNamed_respell]

end Alike

theorem eq_of_alike {α : Type} {g : Element → α} {f : Spelling} {e e' : Element} (hg : ∀ e, g (e.respell f) = g e)
    (h : Alike f e e') : g e = g e' := by
  rw [← hg e, h, hg]

end Element

section Variation

abbrev Leave := (path : List String) → (element key raw respelled : String) → Prop

mutual

/-- The second element is the first one, but for places and for attribute values that may stand for the
first one's. -/
inductive Element.Varies (may : Leave) : (path : List String) → Element → Element → Prop
  | mk {path : List String} {name : String} {attributes attributes' : KeyMap String String}
      {children children' : List Node} {span span' : Span}
      (values : List.Forall₂ (fun p q => p.1 = q.1 ∧ (p.2 = q.2 ∨ may path name p.1 p.2 q.2))
        attributes.entries attributes'.entries)
      (nodes : NodesVary may path children children') :
      Element.Varies may path (.mk name attributes children span) (.mk name attributes' children' span')

inductive NodesVary (may : Leave) : (path : List String) → List Node → List Node → Prop
  | nil {path : List String} : NodesVary may path [] []
  | element {path : List String} {e e' : Element} {ns ns' : List Node}
      (first : Element.Varies may (path ++ [e.name]) e e') (rest : NodesVary may path ns ns') :
      NodesVary may path (.element e :: ns) (.element e' :: ns')
  | text {path : List String} {value : String} {span span' : Span} {ns ns' : List Node}
      (rest : NodesVary may path ns ns') : NodesVary may path (.text value span :: ns) (.text value span' :: ns')

end

variable {may : Leave} {f : Spelling}

def Leave.Within (may : Leave) (f : Spelling) (path : List String) : Prop :=
  ∀ path' element key raw raw', path <+: path' → may path' element key raw raw' →
    f.value element key raw = f.value element key raw'

theorem Leave.Within.deeper {path : List String} (h : may.Within f path) (name : String) :
    may.Within f (path ++ [name]) :=
  fun path' element key raw raw' hp => h path' element key raw raw' ((List.prefix_append _ _).trans hp)

mutual

theorem Element.Varies.respell_eq (hspan : ∀ a b, f.span a = f.span b) {path : List String} {e e' : Element}
    (h : e.Varies may path e') (hmay : may.Within f path) : e.respell f = e'.respell f := by
  cases h with
  | @mk _ name _ _ _ _ span span' values nodes =>
    have hvalues := KeyMap.mapWithKey_eq (f := f.value name) (values.imp fun p q hpq =>
      ⟨hpq.1, hpq.2.elim (congrArg _) (hmay path name p.1 p.2 q.2 (List.prefix_refl _))⟩)
    rw [Element.respell, Element.respell, hvalues, nodes.respell_eq hspan hmay, hspan span span']

theorem NodesVary.respell_eq (hspan : ∀ a b, f.span a = f.span b) {path : List String} {ns ns' : List Node}
    (h : NodesVary may path ns ns') (hmay : may.Within f path) : respellAll f ns = respellAll f ns' := by
  cases h with
  | nil => rfl
  | element first rest =>
    rw [respellAll, respellAll, Node.respell, Node.respell, first.respell_eq hspan (hmay.deeper _),
      rest.respell_eq hspan hmay]
  | @text _ _ span span' _ _ rest =>
    rw [respellAll, respellAll, Node.respell, Node.respell, hspan span span', rest.respell_eq hspan hmay]

end

mutual

theorem Element.Varies.refl (path : List String) : (e : Element) → e.Varies may path e
  | .mk _ _ children _ => .mk (List.forall₂_same.2 fun _ _ => ⟨rfl, .inl rfl⟩) (NodesVary.refl path children)

theorem NodesVary.refl (path : List String) : (ns : List Node) → NodesVary may path ns ns
  | [] => .nil
  | .element e :: ns => .element (Element.Varies.refl _ e) (NodesVary.refl path ns)
  | .text _ _ :: ns => .text (NodesVary.refl path ns)

end

theorem NodesVary.elements {path : List String} {ns ns' : List Node} (name name' : String)
    (attributes attributes' : KeyMap String String) (span span' : Span) :
    NodesVary may path ns ns' →
      List.Forall₂ (fun e e' => Element.Varies may (path ++ [e.name]) e e')
        (Element.mk name attributes ns span).elements (Element.mk name' attributes' ns' span').elements
  | .nil => .nil
  | .element first rest => .cons first (rest.elements name name' attributes attributes' span span')
  | .text rest => rest.elements name name' attributes attributes' span span'

theorem childrenNamed_of_elements {R : String → Element → Element → Prop} {e e' : Element}
    (h : List.Forall₂ (fun a a' => a.name = a'.name ∧ R a.name a a') e.elements e'.elements) (name : String) :
    List.Forall₂ (R name) (e.childrenNamed name) (e'.childrenNamed name) := by
  unfold Element.childrenNamed
  generalize e.elements = l, e'.elements = l' at h
  induction h with
  | nil => exact .nil
  | @cons a a' l l' ha _ ih =>
    rw [List.filter_cons, List.filter_cons, ← ha.1]
    by_cases hn : a.name = name
    · simp only [hn, decide_true, if_true]
      exact .cons (hn ▸ ha.2) ih
    · simpa only [hn, decide_false, Bool.false_eq_true, if_false] using ih

namespace Element.Varies

variable {path : List String} {e e' : Element}

theorem name_eq (h : e.Varies may path e') : e.name = e'.name := by
  cases h
  rfl

theorem elements (h : e.Varies may path e') :
    List.Forall₂ (fun a a' => a.Varies may (path ++ [a.name]) a') e.elements e'.elements := by
  obtain ⟨-, nodes⟩ := h
  exact nodes.elements ..

theorem childrenNamed (h : e.Varies may path e') (name : String) :
    List.Forall₂ (Element.Varies may (path ++ [name])) (e.childrenNamed name) (e'.childrenNamed name) :=
  childrenNamed_of_elements (R := fun name => Element.Varies may (path ++ [name]))
    (h.elements.imp fun _ _ ha => ⟨ha.name_eq, ha⟩) name

theorem child? (h : e.Varies may path e') (name : String) :
    Option.Rel (Element.Varies may (path ++ [name])) (e.child? name) (e'.child? name) := by
  rw [Element.child?_eq_head?, Element.child?_eq_head?]
  exact rel_head? (h.childrenNamed name)

end Element.Varies

end Variation

end Markup

namespace Parameters

variable {ps : List Parameter} {token value : String}

def meaning (ps : List Parameter) (token : String) : String :=
  (resolveOrKeep ⟨ps, false⟩ token).1

def Names (ps : List Parameter) (token value : String) : Prop :=
  ∃ name p, reference? token = some name ∧ find? name ps = some p ∧ p.value = value ∧ reference? value = none

/-- A text, or the value it names where that refers to nothing further. -/
def plain (ps : List Parameter) (token : String) : String :=
  match (reference? token).bind (find? · ps) with
  | some p => if reference? p.value = none then p.value else token
  | none => token

theorem resolveOrKeep_fst (p : Parameters) (token : String) : (p.resolveOrKeep token).1 = meaning p.declared token :=
  rfl

theorem meaning_of_reference?_eq_none (h : reference? token = none) : meaning ps token = token := by
  simp [meaning, resolveOrKeep, resolve, h]

theorem Names.meaning_eq (h : Names ps token value) : meaning ps token = value := by
  obtain ⟨name, p, hname, hp, hvalue, -⟩ := h
  simp [meaning, resolveOrKeep, resolve, hname, hp, hvalue]

theorem Names.plain_eq (h : Names ps token value) : plain ps token = plain ps value := by
  obtain ⟨name, p, hname, hp, hvalue, hnone⟩ := h
  simp [plain, hname, hp, hvalue, hnone]

theorem plain_eq_or_names (ps : List Parameter) (token : String) :
    plain ps token = token ∨ Names ps token (plain ps token) := by
  unfold plain
  split
  next p hp =>
    obtain ⟨name, hname, hp⟩ := Option.bind_eq_some_iff.1 hp
    split
    next hvalue => exact .inr ⟨name, p, hname, hp, rfl, hvalue⟩
    next => exact .inl rfl
  next => exact .inl rfl

theorem meaning_plain (ps : List Parameter) (token : String) : meaning ps (plain ps token) = meaning ps token := by
  rcases plain_eq_or_names ps token with h | h
  · rw [h]
  · obtain ⟨-, -, -, -, -, hnone⟩ := id h
    rw [h.meaning_eq, meaning_of_reference?_eq_none hnone]

end Parameters

namespace Markup.Spelling

def Faithful (f : Spelling) (ps : List Parameter) : Prop :=
  ∀ element key raw, Parameters.meaning ps (f.value element key raw) = Parameters.meaning ps raw

def plain (ps : List Parameter) (kept : (element key : String) → Bool) : Spelling where
  value element key raw := if kept element key then raw else Parameters.plain ps raw
  span _ := default

def IsLiteral (f : Spelling) : Prop :=
  ∀ element key, f.value element key = id

section Literal

variable {f : Spelling} (hf : f.IsLiteral)

include hf

theorem IsLiteral.faithful (ps : List Parameter) : f.Faithful ps := by
  intro element key raw
  rw [hf, id]

theorem IsLiteral.keepsNames : f.KeepsNames := by
  intro raw
  rw [hf, id]

end Literal

theorem bare_isLiteral : bare.IsLiteral :=
  fun _ _ => rfl

theorem bare_faithful (ps : List Parameter) : bare.Faithful ps :=
  bare_isLiteral.faithful ps

theorem bare_keepsNames : bare.KeepsNames :=
  bare_isLiteral.keepsNames

theorem plain_faithful (ps : List Parameter) (kept : (element key : String) → Bool) :
    (plain ps kept).Faithful ps := by
  intro element key raw
  unfold plain
  dsimp only
  split
  · rfl
  · exact Parameters.meaning_plain ps raw

end Markup.Spelling

end Scenography
