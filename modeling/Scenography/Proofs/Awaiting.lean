import Scenography.Proofs.References
/-!
What events of egos wait for. The id that a reference becomes tells the action's place, but not whether
it is a place among the free events or among those of the egos, which are numbered apart.
-/

namespace Scenography

open References

/-- Where an action stands: whether an ego has it, the place of its event there, and its own place. -/
structure ActionPlace where
  ofEgo : Bool
  event : Nat
  action : Nat
deriving DecidableEq

namespace ActionPlace

def id (p : ActionPlace) : String :=
  actionId p.event p.action

theorem id_eq_iff {p q : ActionPlace} : p.id = q.id ↔ p.event = q.event ∧ p.action = q.action := by
  constructor
  · exact actionId_injective
  · rintro ⟨he, ha⟩
    rw [id, id, he, ha]

end ActionPlace

def Test.reference? : Test → Option String
  | .elementState _ reference _ => some reference
  | _ => none

def Event.awaited? (e : Event) (m : Nat) : Option String :=
  e.conditions[m]?.bind fun c => c.test.reference?

namespace Scene

def numberedEvents (s : Scene) (ofEgo : Bool) : List Event :=
  if ofEgo then s.allEgoEvents else s.events.values

def carriers (s : Scene) (name : String) : List ActionPlace :=
  [false, true].flatMap fun ofEgo => (s.numberedEvents ofEgo).zipIdx.flatMap fun (e, event) =>
    e.actions.zipIdx.filterMap fun (a, action) => if a.name = name then some ⟨ofEgo, event, action⟩ else none

def awaited? (s : Scene) (ego n m : Nat) : Option String :=
  ((s.egoEvents.get? ego).bind (·.get? n)).bind (·.awaited? m)

theorem mem_carriers_iff {s : Scene} {name : String} {p : ActionPlace} :
    p ∈ s.carriers name ↔ NamedAt (s.numberedEvents p.ofEgo) name p.event p.action := by
  constructor
  · intro h
    simp only [carriers, List.mem_flatMap, List.mem_filterMap, Prod.exists, List.mk_mem_zipIdx_iff_getElem?] at h
    obtain ⟨ofEgo, -, e, event, he, a, action, ha, hp⟩ := h
    split at hp
    next hname => exact Option.some.inj hp ▸ ⟨e, a, he, ha, hname⟩
    next => cases hp
  · rintro ⟨e, a, he, ha, hname⟩
    simp only [carriers, List.mem_flatMap, List.mem_filterMap, Prod.exists, List.mk_mem_zipIdx_iff_getElem?]
    exact ⟨p.ofEgo, by simp, e, p.event, he, a, p.action, ha, by rw [if_pos hname]⟩

theorem id_of_carriers {s : Scene} {free own : String → String} {name : String} {p : ActionPlace}
    (hp : s.carriers name = [p]) (hfree : Renames s.events.values id free)
    (hown : Renames s.allEgoEvents free own) : own name = p.id := by
  have hsole : ∀ q, NamedAt (s.numberedEvents q.ofEgo) name q.event q.action → q = p := by
    intro q hq
    rw [← mem_carriers_iff, hp, List.mem_singleton] at hq
    exact hq
  have hnamed : NamedAt (s.numberedEvents p.ofEgo) name p.event p.action := by
    rw [← mem_carriers_iff, hp]
    exact List.mem_singleton_self p
  obtain ⟨ofEgo, i, j⟩ := p
  cases ofEgo with
  | true =>
    obtain ⟨i', j', hlast, hrename⟩ := hown.named name i j hnamed
    have hplace := hsole ⟨true, i', j'⟩ hlast.1
    rw [hrename, ← hplace, ActionPlace.id]
  | false =>
    -- no event of an ego has the name, so it is looked for among the free ones
    have hnone : ∀ i j, ¬NamedAt s.allEgoEvents name i j := by
      intro i' j' h'
      have hplace := hsole ⟨true, i', j'⟩ h'
      simp at hplace
    obtain ⟨i', j', hlast, hrename⟩ := hfree.named name i j hnamed
    have hplace := hsole ⟨false, i', j'⟩ hlast.1
    rw [hown.unnamed name hnone, hrename, ← hplace, ActionPlace.id]

end Scene

theorem Event.awaited?_renamed (rename : String → String) (e : Event) (m : Nat) :
    (e.renamed rename).awaited? m = (e.awaited? m).map rename := by
  have htest (t : Test) : (t.renamed rename).reference? = t.reference?.map rename := by
    cases t <;> rfl
  simp only [awaited?, Event.renamed, List.getElem?_map, Option.bind_map, Option.map_bind, Function.comp_def, htest]

theorem Scene.ResolvesTo.awaited? {s t : Scene} {name : String} {p : ActionPlace} {ego n m : Nat}
    (h : s.ResolvesTo t) (hs : s.awaited? ego n m = some name) (hp : s.carriers name = [p]) :
    t.awaited? ego n m = some p.id := by
  obtain ⟨free, own, hfree, hown, rfl⟩ := h
  obtain ⟨e, he, hawaited⟩ := Option.bind_eq_some_iff.1 hs
  obtain ⟨es, hes, hget⟩ := Option.bind_eq_some_iff.1 he
  rw [← id_of_carriers hp hfree hown]
  simp only [Scene.awaited?, KeyMap.get?_map, hes, Option.map_some, Option.bind_some, hget,
    Event.awaited?_renamed, hawaited]

/-- Two conditions of egos that wait for different actions get different references, unless one action is
a free one, the other an ego's, and both have the same place in their numberings. -/
theorem awaited_references_eq_iff {sources : Sources} {map : RoadMap} {root : Markup.Element} {staged : Staged}
    {ego n m ego' n' m' : Nat} {name name' : String} {p q : ActionPlace}
    (h : (stage sources root).run map = .ok staged)
    (hname : (finalStage sources map root).scene.awaited? ego n m = some name)
    (hname' : (finalStage sources map root).scene.awaited? ego' n' m' = some name')
    (hp : (finalStage sources map root).scene.carriers name = [p])
    (hq : (finalStage sources map root).scene.carriers name' = [q]) (hne : p ≠ q) :
    ∃ reference reference', staged.scene.awaited? ego n m = some reference ∧
      staged.scene.awaited? ego' n' m' = some reference' ∧
      (reference = reference' ↔ p.ofEgo ≠ q.ofEgo ∧ p.event = q.event ∧ p.action = q.action) := by
  obtain ⟨sections, hroot, rfl⟩ := run_stage h
  have hresolves := (finalStage sources map root).scene.withReferences_resolves
  refine ⟨p.id, q.id, hresolves.awaited? hname hp, hresolves.awaited? hname' hq, ?_⟩
  rw [ActionPlace.id_eq_iff]
  constructor
  · rintro ⟨hevent, haction⟩
    have hego : p.ofEgo ≠ q.ofEgo := by
      intro hego
      apply hne
      cases p
      cases q
      simp_all
    exact ⟨hego, hevent, haction⟩
  · exact And.right

namespace Sample

def waiting : Markup.Element :=
  .of "OpenSCENARIO" [] [
    .of "FileHeader" [] [],
    .of "Entities" [] [
      .of "ScenarioObject" [("name", "Ego")] [.of "Vehicle" [("name", "Sedan")] []],
      .of "ScenarioObject" [("name", "Car")] [.of "Vehicle" [("name", "Sedan")] []]],
    .of "Storyboard" [] [
      .of "Init" [] [],
      .of "Story" [] [.of "Act" [] [
        group "Car" [event [timeTest "1"] [speedAction "go" "step" "0" "9"]],
        group "Ego" [
          event [stateTest "go"] [speedAction "follow" "step" "0" "5"],
          event [stateTest "follow"] [speedAction "rest" "step" "0" "1"],
          event [stateTest "rest"] [speedAction "halt" "step" "0" "0"]]]]]]

theorem stage_waiting : (stage .bare waiting).run .blank =
    .ok ⟨(finalStage .bare .blank waiting).scene.withReferences, (finalStage .bare .blank waiting).journal⟩ :=
  run_stage_of_isOk (by decide)

theorem waiting_carriers : (finalStage .bare .blank waiting).scene.awaited? 1 0 0 = some "go" ∧
    (finalStage .bare .blank waiting).scene.awaited? 1 1 0 = some "follow" ∧
    (finalStage .bare .blank waiting).scene.awaited? 1 2 0 = some "rest" ∧
    (finalStage .bare .blank waiting).scene.carriers "go" = [⟨false, 0, 0⟩] ∧
    (finalStage .bare .blank waiting).scene.carriers "follow" = [⟨true, 0, 0⟩] ∧
    (finalStage .bare .blank waiting).scene.carriers "rest" = [⟨true, 1, 0⟩] := by
  decide +kernel

end Sample

theorem sample_awaited_references_differ : ∃ staged, (stage .bare Sample.waiting).run .blank = .ok staged ∧
    staged.scene.awaited? 1 0 0 = some "0_0" ∧ staged.scene.awaited? 1 2 0 = some "1_0" ∧
    ∃ reference reference', staged.scene.awaited? 1 0 0 = some reference ∧
      staged.scene.awaited? 1 2 0 = some reference' ∧ reference ≠ reference' := by
  have h := Sample.stage_waiting
  obtain ⟨hgo, -, hrest, hp, -, hq⟩ := Sample.waiting_carriers
  obtain ⟨reference, reference', hget, hget', hiff⟩ := awaited_references_eq_iff h hgo hrest hp hq (by decide)
  refine ⟨_, h, by decide +kernel, by decide +kernel, reference, reference', hget, hget', ?_⟩
  rw [ne_eq, hiff]
  decide

/-- The first free action and the first one of the egos get one id, though their names are two. -/
theorem awaited_references_collide : ∃ staged, (stage .bare Sample.waiting).run .blank = .ok staged ∧
    (finalStage .bare .blank Sample.waiting).scene.awaited? 1 0 0 = some "go" ∧
    (finalStage .bare .blank Sample.waiting).scene.awaited? 1 1 0 = some "follow" ∧
    (finalStage .bare .blank Sample.waiting).scene.carriers "go" = [⟨false, 0, 0⟩] ∧
    (finalStage .bare .blank Sample.waiting).scene.carriers "follow" = [⟨true, 0, 0⟩] ∧
    staged.scene.awaited? 1 0 0 = some "0_0" ∧ staged.scene.awaited? 1 1 0 = some "0_0" := by
  obtain ⟨hgo, hfollow, -, hp, hq, -⟩ := Sample.waiting_carriers
  exact ⟨_, Sample.stage_waiting, hgo, hfollow, hp, hq, by decide +kernel, by decide +kernel⟩

end Scenography
