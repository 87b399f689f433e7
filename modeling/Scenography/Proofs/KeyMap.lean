import Mathlib.Data.List.Induction
import Mathlib.Data.List.Sort
import Scenography.KeyMap

namespace Scenography.KeyMap

variable {κ α β : Type} [Key κ] [DecidableEq κ]

@[simp] theorem get?_empty (k : κ) : (∅ : KeyMap κ α).get? k = none := rfl

theorem find_place (k k' : κ) (a : α) (es : List (κ × α)) :
    ((place k a es).find? fun e => e.1 = k').map (·.2) =
      if k' = k then some a else (es.find? fun e => e.1 = k').map (·.2) := by
  induction es with
  | nil => by_cases h : k' = k <;> simp [place, h, eq_comm]
  | cons e es ih =>
    unfold place
    split
    next => by_cases h : k' = k <;> simp [h, eq_comm (a := k)]
    next hk =>
      split
      next hek =>
        have hne : e.1 ≠ k := fun h => Key.irrefl k (h ▸ hek)
        by_cases he : e.1 = k'
        · have hk' : k' ≠ k := fun h => hne (he.trans h)
          simp [he, hk']
        · simpa [he] using ih
      next hek =>
        have he : k = e.1 := Key.total hk hek
        by_cases h : k' = k <;> simp [h, ← he, eq_comm (a := k)]

theorem get?_insert (m : KeyMap κ α) (k k' : κ) (a : α) :
    (m.insert k a).get? k' = if k' = k then some a else m.get? k' :=
  find_place k k' a m.entries

@[simp] theorem get?_insert_self (m : KeyMap κ α) (k : κ) (a : α) : (m.insert k a).get? k = some a := by
  simp [get?_insert]

theorem get?_insert_of_ne {k k' : κ} (h : k' ≠ k) (m : KeyMap κ α) (a : α) :
    (m.insert k a).get? k' = m.get? k' := by
  simp [get?_insert, h]

@[simp] theorem get?_map (f : α → β) (m : KeyMap κ α) (k : κ) : (m.map f).get? k = (m.get? k).map f := by
  simp [get?, map, List.find?_map, Function.comp_def]

theorem get?_modify (m : KeyMap κ α) (k k' : κ) (f : α → α) :
    (m.modify k f).get? k' = if k' = k then (m.get? k').map f else m.get? k' := by
  simp only [get?, modify, List.find?_map, Function.comp_def, Option.map_map]
  cases he : m.entries.find? fun e => e.1 = k' with
  | none => simp
  | some e =>
    have hk : e.1 = k' := by simpa using List.find?_some he
    by_cases h : k' = k <;> simp [h, hk]

omit [DecidableEq κ] in
theorem eq_of_mem_of_pairwise {es : List (κ × α)} {k : κ} {a b : α} (hs : es.Pairwise fun p q => p.1 < q.1)
    (ha : (k, a) ∈ es) (hb : (k, b) ∈ es) : a = b := by
  induction es with
  | nil => simp at ha
  | cons e es ih =>
    obtain ⟨he, hes⟩ := List.pairwise_cons.1 hs
    rcases List.mem_cons.1 ha with ha' | ha' <;> rcases List.mem_cons.1 hb with hb' | hb'
    · exact (Prod.mk.inj (ha'.trans hb'.symm)).2
    · exact (Key.irrefl k (by simpa [← ha'] using he _ hb')).elim
    · exact (Key.irrefl k (by simpa [← hb'] using he _ ha')).elim
    · exact ih hes ha' hb'

theorem get?_eq_some_iff {m : KeyMap κ α} {k : κ} {a : α} : m.get? k = some a ↔ (k, a) ∈ m.entries := by
  constructor
  · intro h
    obtain ⟨e, he, rfl⟩ := Option.map_eq_some_iff.1 h
    have hk : e.1 = k := by simpa using List.find?_some he
    exact hk ▸ List.mem_of_find?_eq_some he
  · intro h
    cases he : m.entries.find? fun e => e.1 = k with
    | none => simpa using List.find?_eq_none.1 he _ h
    | some e =>
      have hk : e.1 = k := by simpa using List.find?_some he
      have hm : (k, e.2) ∈ m.entries := hk ▸ List.mem_of_find?_eq_some he
      rw [get?, he, eq_of_mem_of_pairwise m.sorted h hm]
      rfl

theorem modify_get? {m : KeyMap κ α} {k : κ} {a : α} (h : m.get? k = some a) : m.modify k (fun _ => a) = m := by
  apply ext
  have hself : ∀ e ∈ m.entries, (e.1, if e.1 = k then a else e.2) = e := by
    rintro ⟨k', b⟩ he
    split
    next hk =>
      subst hk
      rw [eq_of_mem_of_pairwise m.sorted (get?_eq_some_iff.1 h) he]
    next => rfl
  exact (List.map_congr_left hself).trans (List.map_id _)

theorem mem_keys_iff {m : KeyMap κ α} {k : κ} : k ∈ m.keys ↔ (m.get? k).isSome := by
  rw [Option.isSome_iff_exists, keys, List.mem_map]
  constructor
  · rintro ⟨⟨_, a⟩, hmem, rfl⟩
    exact ⟨a, get?_eq_some_iff.2 hmem⟩
  · rintro ⟨a, ha⟩
    exact ⟨(k, a), get?_eq_some_iff.1 ha, rfl⟩

theorem keys_eq {m : KeyMap Nat α} {l : List Nat} (hl : l.Pairwise (· < ·)) (h : ∀ k, (m.get? k).isSome ↔ k ∈ l) :
    m.keys = l :=
  (List.pairwise_map.2 m.sorted : m.keys.Pairwise (· < ·)).eq_of_mem_iff hl fun k => mem_keys_iff.trans (h k)

omit [DecidableEq κ] in
theorem nodup_keys (m : KeyMap κ α) : m.keys.Nodup := by
  refine List.pairwise_map.2 (m.sorted.imp fun hlt => ?_)
  intro heq
  rw [heq] at hlt
  exact Key.irrefl _ hlt

theorem get?_ofList_last (l : List (κ × α)) (k : κ) :
    (ofList l).get? k = (l.reverse.find? fun e => e.1 = k).map (·.2) := by
  induction l using List.reverseRecOn with
  | nil => rfl
  | append_singleton l e ih =>
    have hlast : ofList (l ++ [e]) = (ofList l).insert e.1 e.2 := List.foldl_append
    rw [hlast, get?_insert, ih, List.reverse_concat]
    by_cases h : e.1 = k
    · simp [h]
    · simp [h, Ne.symm h]

theorem get?_ofList {l : List (κ × α)} (h : (l.map (·.1)).Nodup) {p : κ × α} (hp : p ∈ l) :
    (ofList l).get? p.1 = some p.2 := by
  rw [get?_ofList_last]
  cases he : l.reverse.find? fun e => e.1 = p.1 with
  | none => simpa using List.find?_eq_none.1 he p (List.mem_reverse.2 hp)
  | some e =>
    have hmem : e ∈ l := List.mem_reverse.1 (List.mem_of_find?_eq_some he)
    have hkey : e.1 = p.1 := by simpa using List.find?_some he
    rw [List.inj_on_of_nodup_map h hmem hp hkey, Option.map_some]

theorem get?_ofList_eq_some_iff {l : List (κ × α)} (h : (l.map (·.1)).Nodup) {k : κ} {a : α} :
    (ofList l).get? k = some a ↔ (k, a) ∈ l := by
  constructor
  · intro hget
    rw [get?_ofList_last, Option.map_eq_some_iff] at hget
    obtain ⟨e, he, rfl⟩ := hget
    have hk : e.1 = k := by simpa using List.find?_some he
    exact hk ▸ List.mem_reverse.1 (List.mem_of_find?_eq_some he)
  · exact fun hmem => get?_ofList h hmem

theorem ext_get? {m n : KeyMap κ α} (h : ∀ k, m.get? k = n.get? k) : m = n := by
  have hnodup (m : KeyMap κ α) : m.entries.Nodup := List.Nodup.of_map _ (nodup_keys m)
  have hperm : m.entries.Perm n.entries := by
    rw [List.perm_ext_iff_of_nodup (hnodup m) (hnodup n)]
    rintro ⟨k, a⟩
    rw [← get?_eq_some_iff, h, get?_eq_some_iff]
  refine ext (hperm.eq_of_pairwise (fun d e _ _ hde hed => ?_) m.sorted n.sorted)
  exact (Key.irrefl _ (Key.trans hde hed)).elim

theorem ofList_eq_of_perm {l l' : List (κ × α)} (h : (l.map (·.1)).Nodup) (hperm : l.Perm l') :
    ofList l = ofList l' := by
  have h' : (l'.map (·.1)).Nodup := ((hperm.map _).nodup_iff).1 h
  refine ext_get? fun k => Option.ext fun a => ?_
  rw [get?_ofList_eq_some_iff h, get?_ofList_eq_some_iff h', hperm.mem_iff]

omit [DecidableEq κ] in
theorem place_last {k : κ} {a : α} {es : List (κ × α)} (h : ∀ e ∈ es, e.1 < k) :
    place k a es = es ++ [(k, a)] := by
  induction es with
  | nil => rfl
  | cons e es ih =>
    have he : e.1 < k := h e (by simp)
    have hk : ¬k < e.1 := fun hk => Key.irrefl k (Key.trans hk he)
    rw [place, if_neg hk, if_pos he, ih fun d hd => h d (by simp [hd])]
    rfl

omit [DecidableEq κ] in
theorem ofList_entries (m : KeyMap κ α) : ofList m.entries = m := by
  have hfold (l : List (κ × α)) (n : KeyMap κ α) (h : (n.entries ++ l).Pairwise fun p q => p.1 < q.1) :
      (l.foldl (fun n e => n.insert e.1 e.2) n).entries = n.entries ++ l := by
    induction l generalizing n with
    | nil => rw [List.foldl_nil, List.append_nil]
    | cons e l ih =>
      have hlast : (n.insert e.1 e.2).entries = n.entries ++ [e] :=
        place_last fun d hd => (List.pairwise_append.1 h).2.2 d hd e List.mem_cons_self
      have happend : n.entries ++ e :: l = (n.insert e.1 e.2).entries ++ l := by simp [hlast]
      rw [List.foldl_cons, happend]
      exact ih _ (happend ▸ h)
  exact ext (hfold m.entries ∅ m.sorted)

section Keyed

variable {f : α → κ} {l : List α} (h : (l.map f).Pairwise (· < ·))

include h

omit [DecidableEq κ] in
theorem entries_ofList_map : (ofList (l.map fun a => (f a, a))).entries = l.map fun a => (f a, a) :=
  congrArg entries (ofList_entries ⟨l.map fun a => (f a, a), List.pairwise_map.2 (List.pairwise_map.1 h)⟩)

omit [DecidableEq κ] in
theorem keys_ofList_map : (ofList (l.map fun a => (f a, a))).keys = l.map f := by
  rw [keys, entries_ofList_map h, List.map_map]
  rfl

omit [DecidableEq κ] in
theorem values_ofList_map : (ofList (l.map fun a => (f a, a))).values = l := by
  rw [values, entries_ofList_map h, List.map_map]
  exact List.map_id _

theorem key_of_get?_ofList_map {k : κ} {a : α} (ha : (ofList (l.map fun a => (f a, a))).get? k = some a) : f a = k := by
  rw [get?_eq_some_iff, entries_ofList_map h] at ha
  obtain ⟨b, -, hb⟩ := List.mem_map.1 ha
  cases hb
  rfl

end Keyed

section Map

omit [DecidableEq κ]

variable (f : α → β)

theorem map_place (k : κ) (a : α) (es : List (κ × α)) :
    (place k a es).map (fun e => (e.1, f e.2)) = place k (f a) (es.map fun e => (e.1, f e.2)) := by
  induction es with
  | nil => rfl
  | cons e es ih =>
    rw [place, List.map_cons, place]
    split
    · rfl
    · split
      · rw [List.map_cons, ih]
      · rfl

theorem map_insert (m : KeyMap κ α) (k : κ) (a : α) : (m.insert k a).map f = (m.map f).insert k (f a) :=
  ext (map_place f k a m.entries)

theorem map_ofList (l : List (κ × α)) : (ofList l).map f = ofList (l.map fun e => (e.1, f e.2)) := by
  have hfold (m : KeyMap κ α) : (l.foldl (fun m e => m.insert e.1 e.2) m).map f =
      l.foldl (fun m e => m.insert e.1 (f e.2)) (m.map f) := by
    induction l generalizing m with
    | nil => rfl
    | cons e l ih => rw [List.foldl_cons, ih, map_insert, List.foldl_cons]
  rw [ofList, hfold, ofList, List.foldl_map]
  rfl

theorem map_modify [DecidableEq κ] {f : α → β} {g : α → α} {g' : β → β} (h : ∀ a, f (g a) = g' (f a))
    (m : KeyMap κ α) (k : κ) : (m.modify k g).map f = (m.map f).modify k g' := by
  apply ext
  simp only [map, modify, List.map_map]
  apply List.map_congr_left
  intro e _
  by_cases he : e.1 = k <;> simp [he, h]

end Map

end Scenography.KeyMap
