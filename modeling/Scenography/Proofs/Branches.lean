import Scenography.Proofs.Inlined.Elements
import Scenography.Proofs.Readers

namespace Scenography

open Markup (Element)

namespace Markup.Element

def SameBut (names : List String) (e e' : Element) : Prop :=
  e.SameTag e' ∧ ∀ name ∉ names, e.childrenNamed name = e'.childrenNamed name

theorem SameBut.child? {names : List String} {e e' : Element} (h : e.SameBut names e') {name : String}
    (hname : name ∉ names) : e.child? name = e'.child? name := by
  rw [child?_eq_head?, child?_eq_head?, h.2 name hname]

end Markup.Element

namespace Staging

namespace Branch

def path (b : Branch) : List String :=
  if b.isByValue then ["ByValueCondition", b.elementName]
  else ["ByEntityCondition", "EntityCondition", b.elementName]

def element? (b : Branch) (condition : Element) : Option Element :=
  condition.descend? b.path

def earlier (b : Branch) : List Branch :=
  all.takeWhile (· ≠ b)

def later (b : Branch) : List Branch :=
  (all.dropWhile (· ≠ b)).tail

structure First (b : Branch) (node condition : Element) : Prop where
  there : b.element? condition = some node
  none : ∀ c ∈ b.earlier, c.element? condition = none

theorem mem_all (b : Branch) : b ∈ all := by
  cases b <;> decide

/-- Below the elements where branches stand, elements of later branches come and go, and elements of different names
change places. -/
def Rearranged (b : Branch) : Element → Element → Prop :=
  Element.Within fun
    | "ByValueCondition" => Element.SameBut (b.later.map elementName)
    | "ByEntityCondition" => Element.Within fun
      | "EntityCondition" => Element.SameBut (b.later.map elementName)
      | _ => Eq
    | _ => Eq

theorem elementName_notMem_later {b c : Branch} (h : c = b ∨ c ∈ b.earlier) :
    c.elementName ∉ b.later.map elementName := by
  revert h
  cases b <;> cases c <;> decide

theorem Rearranged.element?_eq {b c : Branch} {e e' : Element} (h : b.Rearranged e e')
    (hc : c = b ∨ c ∈ b.earlier) : c.element? e = c.element? e' := by
  have hsame (a a' : Element) (hbut : a.SameBut (b.later.map elementName) a') :
      a.descend? [c.elementName] = a'.descend? [c.elementName] := by
    rw [Element.descend?, Element.descend?, hbut.child? (elementName_notMem_later hc)]
  unfold element? path
  cases c.isByValue with
  | true => exact bind_eq_of_optionRel (h.child? "ByValueCondition") hsame
  | false =>
    refine bind_eq_of_optionRel (h.child? "ByEntityCondition") fun a a' hwithin => ?_
    exact bind_eq_of_optionRel (Element.Within.child? hwithin "EntityCondition") hsame

theorem Rearranged.first {b : Branch} {node e e' : Element} (h : b.Rearranged e e') (hfirst : b.First node e) :
    b.First node e' where
  there := h.element?_eq (.inl rfl) ▸ hfirst.there
  none c hc := h.element?_eq (.inr hc) ▸ hfirst.none c hc

def Makes : Branch → Test → Prop
  | time, .time .. => True
  | parameter, .laneAttach .. => True
  | elementState, .elementState .. => True
  | timeToCollision, .timeToCollision .. => True
  | relativeDistance, .distance .. => True
  | distance, .point .. => True
  | reach, .reach .. => True
  | speed, .speed _ _ .absolute .. => True
  | relativeSpeed, .speed _ _ .relative .. => True
  | headway, .headway .. => True
  | _, _ => False

end Branch

/-- What comes of a condition of a branch: a test of its kind, or the failure of a condition of the name. -/
def Branch.Outcome {α : Type} (b : Branch) (name : String) (test : α → Test) : Except Fault α → Prop
  | .ok a => b.Makes (test a)
  | .error f => f = .unsupportedTrigger name

section Conditions

variable (actor name : String) {e e' node : Element} {b : Branch}

section Runs

variable (sources : Sources) (map : RoadMap) (s : Stage)

end Runs

end Conditions

section Sample

namespace Sample

def collision : Element :=
  .of "TimeToCollisionCondition" [("value", "2"), ("rule", "lessThan")] []

def headway : Element :=
  .of "TimeHeadwayCondition" [("entityRef", "Ego"), ("value", "2"), ("rule", "lessThan")] []

end Sample

end Sample

end Staging

end Scenography
