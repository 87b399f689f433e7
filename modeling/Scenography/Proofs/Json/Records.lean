import Mathlib.Data.List.Forall2
import Scenography.Proofs.Json.Values

namespace Scenography.Json

variable {f : String → Form}

section Members

def named (f : String → Form) (members : List (String × Json)) : List (Name × Json) :=
  members.map fun m => (⟨m.1, f m.1⟩, m.2.refit f)

theorem refit_ofMembers (members : List (String × Json)) : (ofMembers members).refit f = obj (named f members) := by
  rw [ofMembers, refit_obj, List.map_map]
  rfl

theorem text_ne_of_mem_named {members : List (String × Json)} {name : String} (h : name ∉ members.map (·.1))
    {m : Name × Json} (hm : m ∈ named f members) : m.1.text ≠ name := by
  obtain ⟨m', hmem, rfl⟩ := List.mem_map.1 hm
  rintro rfl
  exact h (List.mem_map_of_mem hmem)

theorem member?_cons_self (name : String) (form : Form) (j : Json) {ms : List (Name × Json)}
    (h : ∀ m ∈ ms, m.1.text ≠ name) : member? ((⟨name, form⟩, j) :: ms) name = some (some j) := by
  have hnone : ms.filter (·.1.text = name) = [] := by simpa using h
  simp [member?, hnone]

theorem member?_cons_of_ne {name : String} {m : Name × Json} (ms : List (Name × Json)) (h : m.1.text ≠ name) :
    member? (m :: ms) name = member? ms name := by
  simp [member?, h]

theorem member?_of_mem {members : List (String × Json)} (hn : (members.map (·.1)).Nodup) {name : String} {j : Json}
    (h : (name, j) ∈ members) : member? (named f members) name = some (some (j.refit f)) := by
  induction members with
  | nil => cases h
  | cons m ms ih =>
    rw [List.map_cons, List.nodup_cons] at hn
    rw [named, List.map_cons]
    rcases List.mem_cons.1 h with rfl | h
    · exact member?_cons_self _ _ _ fun m' hm' => text_ne_of_mem_named hn.1 hm'
    · have hne : m.1 ≠ name := fun heq => hn.1 (List.mem_map.2 ⟨_, h, heq.symm⟩)
      rw [member?_cons_of_ne _ hne]
      exact ih hn.2 h

theorem record?_of_members {members : List (String × Json)} (hn : (members.map (·.1)).Nodup) {names : List String}
    {values : List Json} (h : List.Forall₂ (fun name j => (name, j) ∈ members) names values) :
    record? names ((ofMembers members).refit f) = some (values.map fun j => some (j.refit f)) := by
  rw [refit_ofMembers, record?, recordFrom?]
  induction h with
  | nil => rfl
  | cons hmem _ ih => simp [member?_of_mem hn hmem, ih]

end Members

section Records

variable {names : List String} {values : List Json} {d : Nat}

theorem record?_refit (hn : names.Nodup) (hl : names.length = values.length) :
    record? names ((record names values).refit f) = some (values.map fun j => some (j.refit f)) := by
  refine record?_of_members ?_ (List.forall₂_iff_zip.2 ⟨hl, id⟩)
  rw [List.map_fst_zip (Nat.le_of_eq hl)]
  exact hn

theorem fits_record (h : ∀ j ∈ values, j.Fits d) : (record names values).Fits (d + 1) := by
  intro m hm
  obtain ⟨⟨name, j⟩, hmem, rfl⟩ := List.mem_map.1 hm
  exact h j (List.of_mem_zip hmem).2

end Records

section Tags

variable {tag name : String} {members : List (String × Json)} {d : Nat}

theorem fits_tagged {j : Json} (h : j.Fits (d + 1)) : (tagged tag name j).Fits (d + 1) := by
  cases j with
  | obj members =>
    intro m hm
    rcases List.mem_cons.1 hm with rfl | hm
    · cases d <;> trivial
    · exact h m hm
  | null => trivial
  | bool b => trivial
  | int i => exact h
  | float x => exact h
  | str s => trivial
  | arr items => exact h
  | unusable => exact h

theorem split?_tagged (name : String) (htag : tag ∉ members.map (·.1)) (hfits : (ofMembers members).Fits d) :
    split? tag ((tagged tag name (ofMembers members)).refit f) =
      some (str name, (ofMembers members).refit fun _ => .held) := by
  have hother : ∀ m ∈ named f members, m.1.text ≠ tag := fun m hm => text_ne_of_mem_named htag hm
  have htagged : (tagged tag name (ofMembers members)).refit f = obj ((⟨tag, f tag⟩, str name) :: named f members) := by
    have h := refit_ofMembers (f := f) ((tag, str name) :: members)
    exact h
  have hmember := member?_cons_self tag (f tag) (str name) hother
  have hrest : ((⟨tag, f tag⟩, str name) :: named f members).filter (·.1.text ≠ tag) = named f members := by
    rw [List.filter_cons_of_neg (by simp), List.filter_eq_self]
    simpa using hother
  have hheld := hold?_refit (f := f) hfits
  rw [refit_ofMembers] at hheld
  rw [htagged, split?]
  simp only [hmember, hrest, hheld]
  rfl

end Tags

end Scenography.Json
