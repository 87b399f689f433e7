import Scenography.Cast
import Scenography.Proofs.KeyMap

namespace Scenography

def Entity.plain (e : Entity) : Entity :=
  { e with route := none, rampTimeline := none, mergeTimeline := none }

theorem Entity.id_of_plain {e e' : Entity} (h : e.plain = e'.plain) : e.id = e'.id := by
  have hp : e.plain.id = e'.plain.id := by rw [h]
  exact hp

theorem Entity.kind_of_plain {e e' : Entity} (h : e.plain = e'.plain) : e.kind = e'.kind := by
  have hp : e.plain.kind = e'.plain.kind := by rw [h]
  exact hp

theorem Entity.events_of_plain {e e' : Entity} (h : e.plain = e'.plain) : e.events = e'.events := by
  have hp : e.plain.events = e'.plain.events := by rw [h]
  exact hp

theorem Entity.behavior_of_plain {e e' : Entity} (h : e.plain = e'.plain) : e.behavior = e'.behavior := by
  have hp : e.plain.behavior = e'.plain.behavior := by rw [h]
  exact hp

namespace Cast

variable {c d : Cast} {name : String} {kind : EntityKind} {i : Nat} {e : Entity}

def who? (c : Cast) (name : String) : Option (EntityKind × Nat) :=
  (c.find? name).map fun e => (e.kind, e.id)

def behaviorOf (c : Cast) (name : String) : Behavior :=
  ((c.find? name).map (·.behavior)).getD .scripted

structure WellFormed (c : Cast) : Prop where
  id_eq : ∀ kind i e, (c.ofKind kind).get? i = some e → e.id = i
  kind_eq : ∀ kind i e, (c.ofKind kind).get? i = some e → e.kind = kind
  known : ∀ key who, c.names.get? key = some who → ((c.ofKind who.1).get? who.2).isSome

theorem find?_eq_some_iff :
    c.find? name = some e ↔
      ∃ kind i, c.names.get? (nameKey name) = some (kind, i) ∧ (c.ofKind kind).get? i = some e := by
  simp [find?, Option.bind_eq_some_iff]

theorem WellFormed.who?_eq_some_iff (h : c.WellFormed) :
    c.who? name = some (kind, i) ↔ c.names.get? (nameKey name) = some (kind, i) := by
  constructor
  · intro hw
    obtain ⟨e, he, hk⟩ := Option.map_eq_some_iff.1 hw
    obtain ⟨kind', i', hn, hg⟩ := find?_eq_some_iff.1 he
    rw [hn, ← hk, h.id_eq _ _ _ hg, h.kind_eq _ _ _ hg]
  · intro hn
    obtain ⟨e, hg⟩ := Option.isSome_iff_exists.1 (h.known _ _ hn)
    have he : c.find? name = some e := find?_eq_some_iff.2 ⟨kind, i, hn, hg⟩
    rw [who?, he, Option.map_some, h.id_eq _ _ _ hg, h.kind_eq _ _ _ hg]

theorem WellFormed.get?_of_find? (h : c.WellFormed) (he : c.find? name = some e) :
    (c.ofKind e.kind).get? e.id = some e := by
  obtain ⟨kind, i, -, hg⟩ := find?_eq_some_iff.1 he
  rw [h.id_eq _ _ _ hg, h.kind_eq _ _ _ hg]
  exact hg

theorem ofKind_mapKind (c : Cast) (kind kind' : EntityKind) (f : KeyMap Nat Entity → KeyMap Nat Entity) :
    (c.mapKind kind f).ofKind kind' = if kind' = kind then f (c.ofKind kind') else c.ofKind kind' := by
  cases kind <;> cases kind' <;> rfl

theorem names_mapKind (c : Cast) (kind : EntityKind) (f : KeyMap Nat Entity → KeyMap Nat Entity) :
    (c.mapKind kind f).names = c.names := by
  cases kind <;> rfl

theorem names_modify (c : Cast) (name : String) (f : Entity → Entity) : (c.modify name f).names = c.names := by
  unfold modify
  split
  · exact names_mapKind _ _ _
  · rfl

theorem get?_modify (c : Cast) (name : String) (f : Entity → Entity) (kind : EntityKind) (i : Nat) :
    ((c.modify name f).ofKind kind).get? i =
      if c.names.get? (nameKey name) = some (kind, i) then ((c.ofKind kind).get? i).map f
      else (c.ofKind kind).get? i := by
  unfold modify
  split
  next who hn =>
    rw [ofKind_mapKind, hn]
    obtain ⟨kind', i'⟩ := who
    by_cases hk : kind = kind'
    · subst hk
      simp [KeyMap.get?_modify, eq_comm]
    · simp [hk, eq_comm (a := kind')]
  next hn => simp [hn]

theorem get?_modify_cases {f : Entity → Entity} (h : ((c.modify name f).ofKind kind).get? i = some e) :
    (∃ e', c.find? name = some e' ∧ (c.ofKind kind).get? i = some e' ∧ e = f e') ∨
      (c.ofKind kind).get? i = some e := by
  rw [Cast.get?_modify] at h
  split at h
  next hn =>
    obtain ⟨e', he', rfl⟩ := Option.map_eq_some_iff.1 h
    exact .inl ⟨e', find?_eq_some_iff.2 ⟨kind, i, hn, he'⟩, he', rfl⟩
  next => exact .inr h

theorem WellFormed.get?_modify (h : c.WellFormed) (name : String) (f : Entity → Entity) (kind : EntityKind)
    (i : Nat) :
    ((c.modify name f).ofKind kind).get? i =
      if c.who? name = some (kind, i) then ((c.ofKind kind).get? i).map f else (c.ofKind kind).get? i := by
  rw [Cast.get?_modify]
  simp only [h.who?_eq_some_iff]

theorem modify_find? (he : c.find? name = some e) : c.modify name (fun _ => e) = c := by
  obtain ⟨kind, i, hn, hget⟩ := find?_eq_some_iff.1 he
  have hself : c.mapKind kind (fun _ => c.ofKind kind) = c := by cases kind <;> rfl
  have hmodify : c.mapKind kind (fun m => m.modify i fun _ => e) = c.mapKind kind fun _ => c.ofKind kind := by
    rw [← KeyMap.modify_get? hget]
    cases kind <;> rfl
  rw [modify, hn]
  exact hmodify.trans hself

theorem WellFormed.get?_put (h : c.WellFormed) (he : c.find? name = some e) (e' : Entity) (kind : EntityKind)
    (i : Nat) :
    ((c.modify name fun _ => e').ofKind kind).get? i =
      if kind = e.kind ∧ i = e.id then some e' else (c.ofKind kind).get? i := by
  have hw : c.who? name = some (e.kind, e.id) := by rw [who?, he, Option.map_some]
  rw [h.get?_modify, hw]
  by_cases hk : kind = e.kind ∧ i = e.id
  · obtain ⟨rfl, rfl⟩ := hk
    simp [h.get?_of_find? he]
  · have hne : ¬some (e.kind, e.id) = some (kind, i) := fun heq => by
      cases heq
      exact hk ⟨rfl, rfl⟩
    rw [if_neg hne, if_neg hk]

structure Same {β : Type} (view : Entity → β) (c d : Cast) : Prop where
  names : c.names = d.names
  view : ∀ kind i, ((c.ofKind kind).get? i).map view = ((d.ofKind kind).get? i).map view

namespace Same

variable {β : Type} {view : Entity → β}

protected theorem refl (c : Cast) : Same view c c := ⟨rfl, fun _ _ => rfl⟩

protected theorem symm (h : Same view c d) : Same view d c :=
  ⟨h.names.symm, fun kind i => (h.view kind i).symm⟩

protected theorem trans {b : Cast} (h : Same view b c) (h' : Same view c d) : Same view b d :=
  ⟨h.names.trans h'.names, fun kind i => (h.view kind i).trans (h'.view kind i)⟩

theorem get? (h : Same view c d) (hd : (d.ofKind kind).get? i = some e) :
    ∃ e', (c.ofKind kind).get? i = some e' ∧ view e' = view e := by
  have hv := h.view kind i
  rw [hd] at hv
  exact Option.map_eq_some_iff.1 hv

theorem find? (h : Same view c d) (name : String) : (c.find? name).map view = (d.find? name).map view := by
  unfold Cast.find?
  rw [h.names]
  cases d.names.get? (nameKey name) with
  | none => rfl
  | some who => exact h.view who.1 who.2

theorem find_eq (h : Same view c d) (hd : d.find? name = some e) : ∃ e', c.find? name = some e' ∧ view e' = view e := by
  have hv := h.find? name
  rw [hd] at hv
  exact Option.map_eq_some_iff.1 hv

theorem modify {f : Entity → Entity} (hf : ∀ e, c.find? name = some e → view (f e) = view e) :
    Same view c (c.modify name f) := by
  refine ⟨(names_modify _ _ _).symm, fun kind i => ?_⟩
  rw [Cast.get?_modify]
  split
  next hn =>
    cases he : (c.ofKind kind).get? i with
    | none => rfl
    | some e => simp [hf e (find?_eq_some_iff.2 ⟨kind, i, hn, he⟩)]
  next => rfl

theorem imp (h : Same view c d) {γ : Type} {view' : Entity → γ}
    (hview : ∀ e e', view e = view e' → view' e = view' e') : Same view' c d := by
  refine ⟨h.names, fun kind i => ?_⟩
  have hv := h.view kind i
  cases hc : (c.ofKind kind).get? i with
  | none =>
    rw [hc] at hv
    rw [Option.map_eq_none_iff.1 hv.symm, Option.map_none]
  | some e =>
    rw [hc] at hv
    obtain ⟨e', hd, he⟩ := Option.map_eq_some_iff.1 hv.symm
    rw [hd]
    exact congrArg some (hview _ _ he.symm)

theorem who? (h : Same (fun e => (e.kind, e.id)) c d) (name : String) : c.who? name = d.who? name :=
  h.find? name

theorem wellFormed (h : Same (fun e => (e.kind, e.id)) c d) (hc : c.WellFormed) : d.WellFormed := by
  constructor
  case id_eq =>
    intro kind i e he
    obtain ⟨e', he', hview⟩ := h.get? he
    exact (Prod.mk.inj hview).2.symm.trans (hc.id_eq _ _ _ he')
  case kind_eq =>
    intro kind i e he
    obtain ⟨e', he', hview⟩ := h.get? he
    exact (Prod.mk.inj hview).1.symm.trans (hc.kind_eq _ _ _ he')
  case known =>
    intro key who hn
    have hs := hc.known key who (h.names ▸ hn)
    rw [← Option.isSome_map (f := fun e : Entity => (e.kind, e.id))] at hs ⊢
    rwa [← h.view]

end Same

structure Alike (c d : Cast) : Prop where
  names : c.names = d.names
  plain : ∀ kind i, ((c.ofKind kind).get? i).map Entity.plain = ((d.ofKind kind).get? i).map Entity.plain

namespace Alike

protected theorem refl (c : Cast) : c.Alike c := ⟨rfl, fun _ _ => rfl⟩

protected theorem symm (h : c.Alike d) : d.Alike c := ⟨h.names.symm, fun kind i => (h.plain kind i).symm⟩

protected theorem trans {b : Cast} (h : b.Alike c) (h' : c.Alike d) : b.Alike d :=
  ⟨h.names.trans h'.names, fun kind i => (h.plain kind i).trans (h'.plain kind i)⟩

theorem same (h : c.Alike d) : Same Entity.plain c d := ⟨h.names, h.plain⟩

theorem get? (h : c.Alike d) (hd : (d.ofKind kind).get? i = some e) :
    ∃ e', (c.ofKind kind).get? i = some e' ∧ e'.plain = e.plain :=
  h.same.get? hd

theorem find? (h : c.Alike d) (name : String) :
    (c.find? name).map Entity.plain = (d.find? name).map Entity.plain :=
  h.same.find? name

theorem identities (h : c.Alike d) : Same (fun e => (e.kind, e.id)) c d :=
  h.same.imp fun _ _ hp => Prod.ext (Entity.kind_of_plain hp) (Entity.id_of_plain hp)

theorem who? (h : c.Alike d) (name : String) : c.who? name = d.who? name :=
  h.identities.who? name

theorem behaviorOf (h : c.Alike d) (name : String) : c.behaviorOf name = d.behaviorOf name := by
  have hf := congrArg (Option.map fun e : Entity => e.behavior) (h.find? name)
  rw [Option.map_map, Option.map_map] at hf
  exact congrArg (·.getD .scripted) hf

theorem wellFormed (h : c.Alike d) (hc : c.WellFormed) : d.WellFormed :=
  h.identities.wellFormed hc

theorem modify {f : Entity → Entity} (hf : ∀ e, c.find? name = some e → (f e).plain = e.plain) :
    c.Alike (c.modify name f) :=
  have h : Same Entity.plain c (c.modify name f) := .modify hf
  ⟨h.names, h.view⟩

end Alike

theorem WellFormed.modify (h : c.WellFormed) {f : Entity → Entity}
    (hf : ∀ e, c.find? name = some e → (f e).id = e.id ∧ (f e).kind = e.kind) : (c.modify name f).WellFormed := by
  have hget : ∀ kind i e, ((c.modify name f).ofKind kind).get? i = some e →
      ∃ e', (c.ofKind kind).get? i = some e' ∧ e.id = e'.id ∧ e.kind = e'.kind := by
    intro kind i e he
    rcases get?_modify_cases he with ⟨e', hfind, he', rfl⟩ | he
    · exact ⟨e', he', hf e' hfind⟩
    · exact ⟨e, he, rfl, rfl⟩
  constructor
  case id_eq =>
    intro kind i e he
    obtain ⟨e', he', hi, -⟩ := hget kind i e he
    exact hi.trans (h.id_eq _ _ _ he')
  case kind_eq =>
    intro kind i e he
    obtain ⟨e', he', -, hk⟩ := hget kind i e he
    exact hk.trans (h.kind_eq _ _ _ he')
  case known =>
    intro key who hn
    rw [names_modify] at hn
    have hs := h.known key who hn
    rw [Cast.get?_modify]
    split
    · rwa [Option.isSome_map]
    · exact hs

theorem WellFormed.find?_modify (h : c.WellFormed) (name : String) (f : Entity → Entity) (other : String) :
    (c.modify name f).find? other =
      if c.who? other = c.who? name then (c.find? other).map f else c.find? other := by
  cases hn : c.names.get? (nameKey other) with
  | none => simp [find?, names_modify, hn]
  | some who =>
    have hfind (d : Cast) (hd : d.names = c.names) : d.find? other = (d.ofKind who.1).get? who.2 := by
      rw [find?, hd, hn, Option.bind_some]
    have hwho : c.who? other = some (who.1, who.2) := h.who?_eq_some_iff.2 hn
    rw [hfind _ (names_modify _ _ _), hfind c rfl, h.get?_modify, hwho]
    simp only [eq_comm]

theorem WellFormed.find?_modify_of_ne (h : c.WellFormed) (he : c.find? name = some e) {other : String} {e' : Entity}
    (he' : c.find? other = some e') (hne : e' ≠ e) (f : Entity → Entity) :
    (c.modify name f).find? other = some e' := by
  rw [h.find?_modify, if_neg, he']
  intro hwho
  rw [who?, who?, he, he', Option.map_some, Option.map_some, Option.some.injEq, Prod.mk.injEq] at hwho
  have hget := h.get?_of_find? he'
  rw [hwho.1, hwho.2, h.get?_of_find? he, Option.some.injEq] at hget
  exact hne hget.symm

theorem who?_modify (h : c.WellFormed) {f : Entity → Entity}
    (hf : ∀ e, c.find? name = some e → (f e).id = e.id ∧ (f e).kind = e.kind) (other : String) :
    (c.modify name f).who? other = c.who? other := by
  have hm := h.modify hf
  apply Option.ext
  rintro ⟨kind, i⟩
  rw [hm.who?_eq_some_iff, h.who?_eq_some_iff, names_modify]

theorem ofKind_add (c : Cast) (e : Entity) (kind : EntityKind) :
    (c.add e).ofKind kind = if kind = e.kind then (c.ofKind kind).insert e.id e else c.ofKind kind := by
  unfold add
  rw [ofKind_mapKind]
  cases kind <;> rfl

theorem get?_add (c : Cast) (e : Entity) (kind : EntityKind) (i : Nat) :
    ((c.add e).ofKind kind).get? i =
      if kind = e.kind ∧ i = e.id then some e else (c.ofKind kind).get? i := by
  rw [ofKind_add]
  by_cases hk : kind = e.kind
  · simp [hk, KeyMap.get?_insert]
  · simp [hk]

theorem get?_add_cases {c : Cast} {e e' : Entity} {kind : EntityKind} {i : Nat}
    (h : ((c.add e).ofKind kind).get? i = some e') :
    (kind = e.kind ∧ i = e.id ∧ e' = e) ∨ (c.ofKind kind).get? i = some e' := by
  rw [get?_add] at h
  split at h
  next hplace => exact .inl ⟨hplace.1, hplace.2, (Option.some.inj h).symm⟩
  next => exact .inr h

theorem names_add (c : Cast) (e : Entity) :
    (c.add e).names = if c.isFree e.name then c.names.insert (nameKey e.name) (e.kind, e.id) else c.names := by
  unfold add
  exact names_mapKind _ _ _

theorem names_add_cases {c : Cast} {e : Entity} {key : String} {who : EntityKind × Nat}
    (h : (c.add e).names.get? key = some who) :
    (key = nameKey e.name ∧ who = (e.kind, e.id)) ∨ c.names.get? key = some who := by
  rw [names_add] at h
  split at h
  · rw [KeyMap.get?_insert] at h
    split at h
    next hkey => exact .inl ⟨hkey, (Option.some.inj h).symm⟩
    next => exact .inr h
  · exact .inr h

theorem WellFormed.add {c : Cast} (h : c.WellFormed) (e : Entity) : (c.add e).WellFormed := by
  constructor
  case id_eq =>
    intro kind i e' he
    rcases get?_add_cases he with ⟨-, rfl, rfl⟩ | he
    · rfl
    · exact h.id_eq _ _ _ he
  case kind_eq =>
    intro kind i e' he
    rcases get?_add_cases he with ⟨rfl, -, rfl⟩ | he
    · rfl
    · exact h.kind_eq _ _ _ he
  case known =>
    intro key who hn
    rw [get?_add]
    split
    · rfl
    next hne =>
      rcases names_add_cases hn with ⟨-, rfl⟩ | hn
      · exact (hne ⟨rfl, rfl⟩).elim
      · exact h.known key who hn

theorem mem_all {c : Cast} {kind : EntityKind} {i : Nat} {e : Entity} (he : (c.ofKind kind).get? i = some e) :
    e ∈ c.all := by
  have hvalue : e ∈ (c.ofKind kind).values := List.mem_map.2 ⟨(i, e), KeyMap.get?_eq_some_iff.1 he, rfl⟩
  simp only [all, List.mem_append]
  cases kind with
  | ego => exact .inl (.inl (.inl hvalue))
  | vehicle => exact .inl (.inl (.inr hvalue))
  | pedestrian => exact .inl (.inr hvalue)
  | obstacle => exact .inr hvalue

end Cast

end Scenography
