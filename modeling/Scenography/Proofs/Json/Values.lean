import Mathlib.Data.List.Basic
import Scenography.Json.Coding
import Scenography.Proofs.Json.Numbers

namespace Scenography.Json

def ReadsBack (x : Float) : Prop :=
  number? (floatText x).toList = some (float x, [])

/-- Values with a text of their own: integers fit a word, doubles read back, and lists and objects stand
within the given levels of nesting. -/
def Fits : (depth : Nat) → Json → Prop
  | _, null => True
  | _, bool _ => True
  | _, int i => IsWord i
  | _, float x => ReadsBack x
  | _, str _ => True
  | 0, arr _ => False
  | depth + 1, arr items => ∀ j ∈ items, Fits depth j
  | 0, obj _ => False
  | depth + 1, obj members => ∀ m ∈ members, Fits depth m.2
  | _, unusable => False

section Fits

variable {d : Nat}

theorem fits_null : null.Fits d := by cases d <;> trivial

theorem fits_bool {b : Bool} : (bool b).Fits d := by cases d <;> trivial

theorem fits_str {s : String} : (str s).Fits d := by cases d <;> trivial

theorem fits_int {i : Int} : (int i).Fits d ↔ IsWord i := by cases d <;> rfl

theorem fits_float {x : Float} : (float x).Fits d ↔ ReadsBack x := by cases d <;> rfl

theorem not_fits_unusable : ¬unusable.Fits d := by
  intro h
  cases d <;> exact h

end Fits

mutual

def refit (f : String → Form) : Json → Json
  | null => null
  | bool b => bool b
  | int i => int i
  | float x => float x
  | str s => str s
  | arr items => arr (refitItems f items)
  | obj members => obj (refitMembers f members)
  | unusable => unusable

def refitItems (f : String → Form) : List Json → List Json
  | [] => []
  | j :: js => refit f j :: refitItems f js

def refitMembers (f : String → Form) : List (Name × Json) → List (Name × Json)
  | [] => []
  | (name, j) :: ms => (⟨name.text, f name.text⟩, refit f j) :: refitMembers f ms

end

section Refit

variable {f g : String → Form}

theorem refitItems_eq (items : List Json) : refitItems f items = items.map (refit f) := by
  induction items with
  | nil => rfl
  | cons j js ih => rw [refitItems, ih, List.map_cons]

theorem refitMembers_eq (members : List (Name × Json)) :
    refitMembers f members = members.map fun m => (⟨m.1.text, f m.1.text⟩, m.2.refit f) := by
  induction members with
  | nil => rfl
  | cons m ms ih => rw [refitMembers, ih, List.map_cons]

@[simp] theorem refit_arr (items : List Json) : (arr items).refit f = arr (items.map (refit f)) := by
  rw [refit, refitItems_eq]

@[simp] theorem refit_obj (members : List (Name × Json)) :
    (obj members).refit f = obj (members.map fun m => (⟨m.1.text, f m.1.text⟩, m.2.refit f)) := by
  rw [refit, refitMembers_eq]

theorem holdItems?_eq {items : List Json} (h : ∀ j ∈ items, hold? (j.refit f) = some (j.refit g)) :
    holdItems? (items.map (refit f)) = some (items.map (refit g)) := by
  induction items with
  | nil => rfl
  | cons j js ih =>
    obtain ⟨hj, hjs⟩ := List.forall_mem_cons.1 h
    simp [holdItems?, hj, ih hjs]

theorem holdMembers?_eq {members : List (Name × Json)}
    (h : ∀ m ∈ members, hold? (m.2.refit f) = some (m.2.refit fun _ => .held)) :
    holdMembers? (members.map fun m => (⟨m.1.text, f m.1.text⟩, m.2.refit f)) =
      some (members.map fun m => (⟨m.1.text, .held⟩, m.2.refit fun _ => .held)) := by
  induction members with
  | nil => rfl
  | cons m ms ih =>
    obtain ⟨hm, hms⟩ := List.forall_mem_cons.1 h
    simp [holdMembers?, hm, ih hms]

theorem hold?_refit {j : Json} {d : Nat} (h : j.Fits d) : hold? (j.refit f) = some (j.refit fun _ => .held) := by
  induction d generalizing j with
  | zero => cases j <;> first | rfl | exact h.elim
  | succ d ih =>
    cases j with
    | arr items =>
      rw [refit_arr, refit_arr, hold?, holdItems?_eq fun j hj => ih (h j hj)]
      rfl
    | obj members =>
      rw [refit_obj, refit_obj, hold?, holdMembers?_eq fun m hm => ih (h m hm)]
      rfl
    | null => rfl
    | bool b => rfl
    | int i => rfl
    | float x => rfl
    | str s => rfl
    | unusable => exact h.elim

end Refit

end Scenography.Json
