import Mathlib.Data.List.Induction
import Scenography.Proofs.Numbering
import Scenography.Proofs.Ownership

namespace Scenography

open References

def NamedAt (events : List Event) (name : String) (i j : Nat) : Prop :=
  ∃ e a, events[i]? = some e ∧ e.actions[j]? = some a ∧ a.name = name

def LastNamed (events : List Event) (name : String) (i j : Nat) : Prop :=
  NamedAt events name i j ∧ ∀ i' j', NamedAt events name i' j' → i' < i ∨ i' = i ∧ j' ≤ j

structure Renames (events : List Event) (otherwise rename : String → String) : Prop where
  named : ∀ name i j, NamedAt events name i j →
    ∃ i' j', LastNamed events name i' j' ∧ rename name = actionId i' j'
  unnamed : ∀ name, (∀ i j, ¬NamedAt events name i j) → rename name = otherwise name

def Test.renamed (rename : String → String) : Test → Test
  | .elementState kind reference state => .elementState kind (rename reference) state
  | test => test

def Event.renamed (rename : String → String) (e : Event) : Event :=
  { e with
    conditions := e.conditions.map fun c => { c with test := c.test.renamed rename }
    actions := e.actions.mapIdx fun j a => { a with id := some j } }

def Scene.ResolvesTo (s t : Scene) : Prop :=
  ∃ free own, Renames s.events.values id free ∧ Renames s.allEgoEvents free own ∧
    t = { s with
      events := s.events.map (Event.renamed free)
      egoEvents := s.egoEvents.map (·.map (Event.renamed own))
      plannerEvents := s.plannerEvents.map (·.map (Event.renamed own)) }

theorem getElem?_append_singleton_iff {α : Type} {l : List α} {a b : α} {i : Nat} :
    (l ++ [b])[i]? = some a ↔ l[i]? = some a ∨ i = l.length ∧ b = a := by
  rcases Nat.lt_trichotomy i l.length with h | rfl | h
  · rw [List.getElem?_append_left h]
    have hne : i ≠ l.length := Nat.ne_of_lt h
    simp [hne]
  · simp
  · have hne : i ≠ l.length := Nat.ne_of_gt h
    have hlen : (l ++ [b]).length ≤ i := by
      rw [List.length_append, List.length_singleton]
      omega
    simp [List.getElem?_eq_none hlen, List.getElem?_eq_none (Nat.le_of_lt h), hne]

theorem NamedAt.lt {events : List Event} {name : String} {i j : Nat} (h : NamedAt events name i j) :
    i < events.length := by
  obtain ⟨e, -, he, -⟩ := h
  exact (List.getElem?_eq_some_iff.1 he).1

namespace References

variable {table : ActionTable} {name : String}

theorem enterActions_append (table : ActionTable) (i : Nat) (actions : List Action) (a : Action) :
    enterActions table i (actions ++ [a]) =
      (enterActions table i actions).insert a.name (actionId i actions.length) := by
  simp [enterActions, List.zipIdx_append]

theorem enterEvents_append (table : ActionTable) (events : List Event) (e : Event) :
    enterEvents table (events ++ [e]) = enterActions (enterEvents table events) events.length e.actions := by
  simp [enterEvents, List.zipIdx_append]

def LastOf (actions : List Action) (name : String) (j : Nat) : Prop :=
  (∃ a, actions[j]? = some a ∧ a.name = name) ∧ ∀ j' a, actions[j']? = some a → a.name = name → j' ≤ j

theorem get?_enterActions (table : ActionTable) (i : Nat) (actions : List Action) (name : String) :
    (∃ j, LastOf actions name j ∧ (enterActions table i actions).get? name = some (actionId i j)) ∨
      (∀ (j : Nat) (a : Action), actions[j]? = some a → a.name ≠ name) ∧
        (enterActions table i actions).get? name = table.get? name := by
  induction actions using List.reverseRecOn with
  | nil => exact .inr ⟨by simp, rfl⟩
  | append_singleton actions a ih =>
    rw [enterActions_append, KeyMap.get?_insert]
    by_cases ha : name = a.name
    · rw [if_pos ha]
      refine .inl ⟨actions.length, ⟨⟨a, by simp, ha.symm⟩, ?_⟩, rfl⟩
      intro j b hb _
      have hj := (List.getElem?_eq_some_iff.1 hb).1
      rw [List.length_append, List.length_singleton] at hj
      omega
    · rw [if_neg ha]
      rcases ih with ⟨j, ⟨⟨b, hb, hname⟩, hmax⟩, hget⟩ | ⟨hnone, hget⟩
      · refine .inl ⟨j, ⟨⟨b, getElem?_append_singleton_iff.2 (.inl hb), hname⟩, ?_⟩, hget⟩
        intro j' b' hb' hname'
        rcases getElem?_append_singleton_iff.1 hb' with hb' | ⟨-, rfl⟩
        · exact hmax j' b' hb' hname'
        · exact (ha hname'.symm).elim
      · refine .inr ⟨?_, hget⟩
        intro j b hb hname
        rcases getElem?_append_singleton_iff.1 hb with hb | ⟨-, rfl⟩
        · exact hnone j b hb hname
        · exact ha hname.symm

theorem namedAt_append_iff {events : List Event} {e : Event} {i j : Nat} :
    NamedAt (events ++ [e]) name i j ↔
      NamedAt events name i j ∨ i = events.length ∧ ∃ a, e.actions[j]? = some a ∧ a.name = name := by
  constructor
  · rintro ⟨e', a, he, ha, hname⟩
    rcases getElem?_append_singleton_iff.1 he with he | ⟨hi, rfl⟩
    · exact .inl ⟨e', a, he, ha, hname⟩
    · exact .inr ⟨hi, a, ha, hname⟩
  · rintro (⟨e', a, he, ha, hname⟩ | ⟨hi, a, ha, hname⟩)
    · exact ⟨e', a, getElem?_append_singleton_iff.2 (.inl he), ha, hname⟩
    · exact ⟨e, a, getElem?_append_singleton_iff.2 (.inr ⟨hi, rfl⟩), ha, hname⟩

theorem get?_enterEvents (table : ActionTable) (events : List Event) (name : String) :
    (∃ i j, LastNamed events name i j ∧ (enterEvents table events).get? name = some (actionId i j)) ∨
      (∀ i j, ¬NamedAt events name i j) ∧ (enterEvents table events).get? name = table.get? name := by
  induction events using List.reverseRecOn with
  | nil =>
    refine .inr ⟨?_, rfl⟩
    rintro i j ⟨e, a, he, -⟩
    simp at he
  | append_singleton events e ih =>
    rw [enterEvents_append]
    rcases get?_enterActions (enterEvents table events) events.length e.actions name with
      ⟨j, ⟨hj, hmax⟩, hget⟩ | ⟨hnone, hget⟩
    · refine .inl ⟨events.length, j, ⟨namedAt_append_iff.2 (.inr ⟨rfl, hj⟩), ?_⟩, hget⟩
      intro i' j' h'
      rcases namedAt_append_iff.1 h' with h' | ⟨hi, a, ha, hname⟩
      · exact .inl h'.lt
      · exact .inr ⟨hi, hmax j' a ha hname⟩
    · rw [hget]
      -- nothing in the new event has the name
      have hold : ∀ i j, NamedAt (events ++ [e]) name i j → NamedAt events name i j := by
        intro i j h
        rcases namedAt_append_iff.1 h with h | ⟨-, a, ha, hname⟩
        · exact h
        · exact (hnone j a ha hname).elim
      rcases ih with ⟨i, j, ⟨hnamed, hmax⟩, hget⟩ | ⟨hnone, hget⟩
      · exact .inl ⟨i, j, ⟨namedAt_append_iff.2 (.inl hnamed), fun i' j' h => hmax i' j' (hold i' j' h)⟩, hget⟩
      · exact .inr ⟨fun i j h => hnone i j (hold i j h), hget⟩

def lookUp (table : ActionTable) (reference : String) : String :=
  (table.get? reference).getD reference

theorem renames_enterEvents (table : ActionTable) (events : List Event) :
    Renames events (lookUp table) (lookUp (enterEvents table events)) := by
  constructor
  case named =>
    intro name i j h
    rcases get?_enterEvents table events name with ⟨i', j', hlast, hget⟩ | ⟨hnone, -⟩
    · exact ⟨i', j', hlast, by rw [lookUp, hget, Option.getD_some]⟩
    · exact (hnone i j h).elim
  case unnamed =>
    intro name h
    rcases get?_enterEvents table events name with ⟨i, j, hlast, -⟩ | ⟨-, hget⟩
    · exact (h i j hlast.1).elim
    · rw [lookUp, lookUp, hget]

theorem pointEvent_numberActions (table : ActionTable) (e : Event) :
    pointEvent table (numberActions e) = e.renamed (lookUp table) := by
  have htest (t : Test) : pointTest table t = t.renamed (lookUp table) := by
    cases t <;> rfl
  simp only [pointEvent, numberActions, Event.renamed, htest, List.mapIdx_eq_zipIdx_map]

theorem finishEvents_eq (table : ActionTable) : finishEvents table = (·.map (Event.renamed (lookUp table))) := by
  funext events
  rw [finishEvents]
  congr 1
  exact funext (pointEvent_numberActions table)

end References

theorem Scene.withReferences_resolves (s : Scene) : s.ResolvesTo s.withReferences := by
  refine ⟨lookUp (enterEvents ∅ s.events.values),
    lookUp (enterEvents (enterEvents ∅ s.events.values) s.allEgoEvents), ?_, ?_, ?_⟩
  · have hempty : lookUp ∅ = id := rfl
    rw [← hempty]
    exact renames_enterEvents ∅ s.events.values
  · exact renames_enterEvents _ s.allEgoEvents
  · simp only [Scene.withReferences, finishEvents_eq]

/-- Read back, the id a free event got for a name is the place of one free action, which has the name. -/
def Scene.DecodesTo (s t : Scene) : Prop :=
  ∀ (n k : Nat) (e : Event) (c : Condition) (kind name state : String), s.events.get? n = some e →
    e.conditions[k]? = some c → c.test = .elementState kind name state →
    (∃ i j, NamedAt s.events.values name i j) →
    ∃ e' c' i j, t.events.get? n = some e' ∧ e'.conditions[k]? = some c' ∧
      c'.test = .elementState kind (actionId i j) state ∧
      (∃ target a, t.events.get? i = some target ∧ target.actions[j]? = some a ∧ a.name = name) ∧
      ∀ i' j', actionId i' j' = actionId i j → i' = i ∧ j' = j

theorem Events.getElem?_values_numbered (l : List Event) (i : Nat) :
    (numbered l).values[i]? = (numbered l).get? i := by
  rw [get?_numbered]
  simp [KeyMap.values, numbered, List.getElem?_zipIdx, Function.comp_def]

theorem Scene.ResolvesTo.decodesTo {s t : Scene} (h : s.ResolvesTo t) {l : List Event}
    (hl : s.events = .numbered l) : s.DecodesTo t := by
  obtain ⟨free, own, hfree, -, rfl⟩ := h
  intro n k e c kind name state he hc htest ⟨i₀, j₀, hnamed⟩
  obtain ⟨i, j, ⟨⟨target, a, htarget, ha, hname⟩, -⟩, hrename⟩ := hfree.named name i₀ j₀ hnamed
  rw [hl, Events.getElem?_values_numbered, ← hl] at htarget
  refine ⟨e.renamed free, { c with test := c.test.renamed free }, i, j, ?_, ?_, ?_, ?_, ?_⟩
  · rw [KeyMap.get?_map, he]
    rfl
  · simp [Event.renamed, hc]
  · rw [htest, Test.renamed, hrename]
  · refine ⟨target.renamed free, { a with id := some j }, ?_, ?_, hname⟩
    · rw [KeyMap.get?_map, htarget]
      rfl
    · simp [Event.renamed, ha]
  · intro i' j' h'
    exact actionId_injective h'

/-- In every scene references become ids once, and in one that was staged the ids of free actions can be
read back. -/
theorem references_resolved :
    (∀ s : Scene, s.ResolvesTo s.withReferences) ∧
    ∀ (sources : Sources) (map : RoadMap) (root : Markup.Element) (staged : Staged),
      (stage sources root).run map = .ok staged →
      staged.scene = (finalStage sources map root).scene.withReferences ∧
        (finalStage sources map root).scene.DecodesTo staged.scene := by
  refine ⟨Scene.withReferences_resolves, ?_⟩
  intro sources map root staged h
  obtain ⟨sections, hroot, rfl⟩ := run_stage h
  have hfiled : (finalStage sources map root).Filed _ _ := finalStage_filed hroot
  exact ⟨rfl, (Scene.withReferences_resolves _).decodesTo hfiled.events⟩

def Event.awaited (e : Event) : List String :=
  e.conditions.filterMap fun c => match c.test with
    | .elementState _ reference _ => some reference
    | _ => none

theorem sample_references_resolved : ∃ staged, (stage .bare Sample.root).run .blank = .ok staged ∧
    (finalStage .bare .blank Sample.root).scene.DecodesTo staged.scene ∧
    (finalStage .bare .blank Sample.root).scene.events.values.map Event.awaited = [[], ["go"]] ∧
    staged.scene.events.values.map Event.awaited = [[], ["0_0"]] ∧
    staged.scene.allEgoEvents.map Event.awaited = [["1_0"]] := by
  have h := Sample.stage_root .blank
  have hdecodes := (references_resolved.2 _ _ _ _ h).2
  exact ⟨_, h, hdecodes, by decide +kernel, by decide +kernel, by decide +kernel⟩

theorem Scene.withReferences_mirrored {s : Scene} (h : s.plannerEvents = s.egoEvents) :
    s.withReferences.plannerEvents = s.withReferences.egoEvents := by
  simp only [Scene.withReferences, h]

/-- The planner is given the events of the egos as the egos have them. -/
theorem stage_mirrored {sources : Sources} {map : RoadMap} {root : Markup.Element} {staged : Staged}
    (h : (stage sources root).run map = .ok staged) : staged.scene.plannerEvents = staged.scene.egoEvents := by
  obtain ⟨sections, hroot, rfl⟩ := run_stage h
  exact Scene.withReferences_mirrored (finalStage_filed hroot).plannerEvents

theorem sample_mirrored : ∃ staged, (stage .bare Sample.root).run .blank = .ok staged ∧
    staged.scene.plannerEvents = staged.scene.egoEvents ∧
    staged.scene.plannerEvents.values.map (·.values.map Event.awaited) = [[["1_0"]]] := by
  have h := Sample.stage_root .blank
  exact ⟨_, h, stage_mirrored h, by decide +kernel⟩

end Scenography
