import Mathlib.Data.List.Forall2
import Scenography.Proofs.Thinning

namespace Scenography

open Markup (Element Spelling)

namespace Markup.Element

variable {changes : String → Element → Element → Prop} {change : Element → Element → Prop} {e e' : Element}
  {l l' : List Element} {name other : String}

def body (e : Element) : Element :=
  .mk "" ∅ e.children default

def SameChildren (e e' : Element) : Prop :=
  Alike .bare e.body e'.body

def Within (changes : String → Element → Element → Prop) (e e' : Element) : Prop :=
  e.SameTag e' ∧ List.Forall₂ (fun a a' => a.name = a'.name ∧ changes a.name a a') e.elements e'.elements

inductive FirstChanged (name : String) (change : Element → Element → Prop) : List Element → List Element → Prop
  | first {e e' : Element} {l l' : List Element} (hname : e.name = name) (hchange : change e e')
      (rest : List.Forall₂ (Alike .bare) l l') : FirstChanged name change (e :: l) (e' :: l')
  | other {e e' : Element} {l l' : List Element} (hname : e.name ≠ name) (halike : Alike .bare e e')
      (rest : FirstChanged name change l l') : FirstChanged name change (e :: l) (e' :: l')

theorem SameChildren.child? (h : e.SameChildren e') (name : String) :
    Option.Rel (Alike .bare) (e.child? name) (e'.child? name) :=
  Alike.child? h name

theorem SameChildren.descend? (h : e.SameChildren e') (first : String) (path : List String) :
    Option.Rel (Alike .bare) (e.descend? (first :: path)) (e'.descend? (first :: path)) :=
  Alike.descend? h (first :: path)

theorem SameChildren.childrenNamed (h : e.SameChildren e') (name : String) :
    List.Forall₂ (Alike .bare) (e.childrenNamed name) (e'.childrenNamed name) :=
  Alike.childrenNamed h name

namespace Within

theorem childrenNamed (h : e.Within changes e') (name : String) :
    List.Forall₂ (changes name) (e.childrenNamed name) (e'.childrenNamed name) :=
  childrenNamed_of_elements h.2 name

theorem child? (h : e.Within changes e') (name : String) :
    Option.Rel (changes name) (e.child? name) (e'.child? name) := by
  rw [child?_eq_head?, child?_eq_head?]
  exact rel_head? (h.childrenNamed name)

theorem hasChild_eq (h : e.Within changes e') (name : String) : e.hasChild name = e'.hasChild name := by
  have hchild := h.child? name
  unfold hasChild
  generalize e.child? name = o, e'.child? name = o' at hchild
  cases hchild <;> rfl

theorem descend? (h : e.Within changes e') (first : String) (hfirst : changes first = Alike .bare) (path : List String) :
    Option.Rel (Alike .bare) (e.descend? (first :: path)) (e'.descend? (first :: path)) := by
  have hchild := h.child? first
  rw [hfirst] at hchild
  rw [Element.descend?, Element.descend?]
  generalize e.child? first = o, e'.child? first = o' at hchild
  cases hchild with
  | none => exact .none
  | some hchild => exact Alike.descend? hchild path

theorem of {attributes : List (String × String)} {children children' : List Element}
    (h : List.Forall₂ (fun a a' => a.name = a'.name ∧ changes a.name a a') children children') :
    (Element.of name attributes children).Within changes (.of name attributes children') := by
  refine ⟨⟨rfl, rfl⟩, ?_⟩
  rw [Element.elements_of, Element.elements_of]
  exact h

end Within

namespace FirstChanged

theorem find? (h : FirstChanged name change l l') : ∃ a a', l.find? (·.name = name) = some a ∧ change a a' ∧
    ∀ other, (other = name ∨ l.find? (·.name = other) = none) → a'.name = other →
      l'.find? (·.name = other) = some a' := by
  induction h with
  | @first e e' l l' hname hchange rest =>
    refine ⟨e, e', by simp [hname], hchange, fun other _ hother => ?_⟩
    simp [hother]
  | @other e e' l l' hname halike rest ih =>
    obtain ⟨a, a', hget, hchange, hothers⟩ := ih
    refine ⟨a, a', by simpa [hname] using hget, hchange, fun other hfree hother => ?_⟩
    have hne : e.name ≠ other := by
      rcases hfree with rfl | hnone
      · exact hname
      · intro he
        simp [he] at hnone
    have hnone : other = name ∨ l.find? (·.name = other) = none := by
      refine hfree.imp_right fun hnone => ?_
      simpa [hne] using hnone
    rw [List.find?_cons_of_neg (by simpa using halike.name_eq ▸ hne)]
    exact hothers other hnone hother

theorem names_eq (h : FirstChanged name change l l') (hchange : ∀ a a', change a a' → a.name = a'.name) :
    l.map Element.name = l'.map Element.name := by
  induction h with
  | @first e e' l l' hname hchanged rest =>
    rw [List.map_cons, List.map_cons, hchange e e' hchanged, ← List.forall₂_eq_eq_eq,
      List.forall₂_cons, List.forall₂_map_left_iff, List.forall₂_map_right_iff]
    exact ⟨rfl, rest.imp fun _ _ => Alike.name_eq⟩
  | @other e e' l l' hname halike rest ih => rw [List.map_cons, List.map_cons, halike.name_eq, ih]

end FirstChanged

theorem child?_eq_none_iff : e.child? name = none ↔ name ∉ e.elements.map Element.name := by
  simp [child?]

end Markup.Element

section Changes

variable (catalog : Catalog) (ps : List Parameter)

def entryName (reference : Element) : String :=
  ((reference.attr? "entryName").map (Parameters.meaning ps)).getD ""

variable (find : String → Option Element) (name : String)

def Answered (reference e : Element) : Prop :=
  e.name = name ∧ ∃ fragment, find (entryName ps reference) = some fragment ∧ fragment.SameChildren e

/-- Where no child has the name, the first reference is replaced by one of that name. -/
def Inlined (e e' : Element) : Prop :=
  e.child? name = none ∧ e.SameTag e' ∧
    Element.FirstChanged "CatalogReference" (Answered ps find name) e.elements e'.elements

def InlinedAssignment (e e' : Element) : Prop :=
  e.Alike .bare e' ∨ Inlined ps catalog.route? "Route" e e'

def InlinedFollowing (e e' : Element) : Prop :=
  e.Alike .bare e' ∨
    e.child? "TrajectoryRef" = none ∧ Inlined ps catalog.trajectory? "Trajectory" e e' ∨
    e.child? "Trajectory" = none ∧ e.SameTag e' ∧ Element.FirstChanged "TrajectoryRef"
      (Inlined ps catalog.trajectory? "Trajectory") e.elements e'.elements

def InlinedRouting : Element → Element → Prop :=
  Element.Within fun
    | "AssignRouteAction" => InlinedAssignment catalog ps
    | "FollowTrajectoryAction" => InlinedFollowing catalog ps
    | _ => Element.Alike .bare

def InlinedPrivateAction : Element → Element → Prop :=
  Element.Within fun
    | "RoutingAction" => InlinedRouting catalog ps
    | _ => Element.Alike .bare

def InlinedAction : Element → Element → Prop :=
  Element.Within fun
    | "PrivateAction" => InlinedPrivateAction catalog ps
    | _ => Element.Alike .bare

def InlinedEvent : Element → Element → Prop :=
  Element.Within fun
    | "Action" => InlinedAction catalog ps
    | _ => Element.Alike .bare

def InlinedManeuver : Element → Element → Prop :=
  Element.Within fun
    | "Event" => InlinedEvent catalog ps
    | _ => Element.Alike .bare

/-- A group with the maneuvers the catalog answers after its own, in the order of the references, and without
references. -/
structure CompletedGroup (e e' : Element) : Prop where
  tag : e.SameTag e'
  others : ∀ name, name ≠ "Maneuver" → name ≠ "CatalogReference" →
    List.Forall₂ (Element.Alike .bare) (e.childrenNamed name) (e'.childrenNamed name)
  referenceless : e'.childrenNamed "CatalogReference" = []
  maneuvers : ∃ own added, e'.childrenNamed "Maneuver" = own ++ added ∧
    List.Forall₂ (InlinedManeuver catalog ps) (e.childrenNamed "Maneuver") own ∧
    List.Forall₂ Element.SameChildren
      ((e.childrenNamed "CatalogReference").filterMap fun r => catalog.maneuver? (entryName ps r)) added

def InlinedGroup (e e' : Element) : Prop :=
  CompletedGroup catalog ps e e' ∨
    e.Within (fun
      | "Maneuver" => InlinedManeuver catalog ps
      | _ => Element.Alike .bare) e'

def InlinedAct : Element → Element → Prop :=
  Element.Within fun
    | "ManeuverGroup" => InlinedGroup catalog ps
    | _ => Element.Alike .bare

def InlinedStory : Element → Element → Prop :=
  Element.Within fun
    | "Act" => InlinedAct catalog ps
    | _ => Element.Alike .bare

def InlinedEnvironment (e e' : Element) : Prop :=
  e.Alike .bare e' ∨ Inlined ps catalog.environment? "Environment" e e'

def InlinedGlobalAction : Element → Element → Prop :=
  Element.Within fun
    | "EnvironmentAction" => InlinedEnvironment catalog ps
    | _ => Element.Alike .bare

def InlinedPrivate : Element → Element → Prop :=
  Element.Within fun
    | "PrivateAction" => InlinedPrivateAction catalog ps
    | _ => Element.Alike .bare

def InlinedInit : Element → Element → Prop :=
  Element.Within fun
    | "Actions" => Element.Within fun
      | "GlobalAction" => InlinedGlobalAction catalog ps
      | "Private" => InlinedPrivate catalog ps
      | _ => Element.Alike .bare
    | _ => Element.Alike .bare

def InlinedStoryboard : Element → Element → Prop :=
  Element.Within fun
    | "Init" => InlinedInit catalog ps
    | "Story" => InlinedStory catalog ps
    | _ => Element.Alike .bare

def InlinedDocument (root root' : Element) : Prop :=
  root.Within (fun
    | "Storyboard" => InlinedStoryboard catalog (Staging.parametersOf root)
    | _ => Element.Alike .bare) root'

variable {ps find name} {e e' : Element}

theorem Inlined.exists (h : Inlined ps find name e e') : e.child? name = none ∧
    ∃ reference fragment stood, e.child? "CatalogReference" = some reference ∧
      find (entryName ps reference) = some fragment ∧ e'.child? name = some stood ∧ fragment.SameChildren stood := by
  obtain ⟨hnone, -, hchanged⟩ := h
  obtain ⟨reference, stood, hreference, ⟨hname, fragment, hfind, hsame⟩, hothers⟩ := hchanged.find?
  exact ⟨hnone, reference, fragment, stood, hreference, hfind, hothers name (.inr hnone) hname, hsame⟩

end Changes

end Scenography
