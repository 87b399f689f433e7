import Scenography.Proofs.Opening

namespace Scenography

open Markup (Element)

def Counters.entities (c : Counters) : EntityKind → Nat
  | .ego => c.egos
  | .vehicle => c.vehicles
  | .pedestrian => c.pedestrians
  | .obstacle => c.obstacles

namespace Counters

variable (c : Counters) (kind kind' : EntityKind)

theorem nextEntity_fst : (c.nextEntity kind).1 = c.entities kind + 1 := by
  cases kind <;> rfl

theorem entities_nextEntity :
    (c.nextEntity kind).2.entities kind' = c.entities kind' + if kind' = kind then 1 else 0 := by
  cases kind <;> cases kind' <;> rfl

theorem routes_nextEntity : (c.nextEntity kind).2.routes = c.routes := by
  cases kind <;> rfl

end Counters

def Entity.role (e : Entity) : String × EntityKind × Behavior :=
  (e.name, e.kind, e.behavior)

structure Stage.Enrolled (base : Stage) (past : List (Element × Entity)) (s : Stage) : Prop where
  parameters : s.parameters = base.parameters
  routes : s.routes = base.routes
  count : s.counters.routes = base.counters.routes
  signals : s.signals = base.signals
  cast : s.cast.WellFormed
  bounded : ∀ kind i e, (s.cast.ofKind kind).get? i = some e → i ≤ s.counters.entities kind
  there : ∀ p ∈ past, (s.cast.ofKind p.2.kind).get? p.2.id = some p.2
  behaves : ∀ p ∈ past, p.2.Behaves (p.1.declaredBehavior? base.parameters)
  resting : ∀ kind i e, (s.cast.ofKind kind).get? i = some e → e.route = none ∧ e.pose = none
  faithful : ∀ key kind i e, s.cast.names.get? key = some (kind, i) → (s.cast.ofKind kind).get? i = some e →
    Cast.nameKey e.name = key

namespace Stage.Enrolled

variable {base s t : Stage} {past : List (Element × Entity)}

theorem start (hcast : base.cast = {}) : base.Enrolled [] base := by
  have hnobody (kind : EntityKind) (i : Nat) : (base.cast.ofKind kind).get? i = none := by
    rw [hcast]
    cases kind <;> exact KeyMap.get?_empty i
  have hnameless (key : String) : base.cast.names.get? key = none := by
    rw [hcast]
    exact KeyMap.get?_empty key
  constructor
  case cast => constructor <;> simp [hnobody, hnameless]
  all_goals simp [hnobody, hnameless]

theorem add (h : base.Enrolled past s) {object : Element} {e : Entity} (hmade : s.Made e t)
    (hbehaves : e.Behaves (object.declaredBehavior? s.parameters)) :
    base.Enrolled (past ++ [(object, e)]) { t with cast := t.cast.add e } := by
  obtain ⟨⟨j, rfl⟩, hid, -, hroute, hpose⟩ := hmade
  rw [Counters.nextEntity_fst] at hid
  -- the number of the entity is a new one, so it takes nobody's place
  have hnew {kind : EntityKind} {i : Nat} {e' : Entity} (he : (s.cast.ofKind kind).get? i = some e') :
      ¬(kind = e.kind ∧ i = e.id) := by
    rintro ⟨rfl, rfl⟩
    have := h.bounded _ _ _ he
    omega
  constructor
  case parameters => exact h.parameters
  case routes => exact h.routes
  case count => exact (Counters.routes_nextEntity _ _).trans h.count
  case signals => exact h.signals
  case cast => exact h.cast.add e
  case bounded =>
    intro kind i e' he
    rw [Counters.entities_nextEntity]
    rcases Cast.get?_add_cases he with ⟨rfl, rfl, -⟩ | he
    · simp [hid]
    · exact (h.bounded kind i e' he).trans (Nat.le_add_right _ _)
  case there =>
    intro p hp
    rw [Cast.get?_add]
    rcases List.mem_append.1 hp with hp | hp
    · have hthere := h.there p hp
      rw [if_neg (hnew hthere)]
      exact hthere
    · rw [List.mem_singleton.1 hp, if_pos ⟨rfl, rfl⟩]
  case behaves =>
    intro p hp
    rcases List.mem_append.1 hp with hp | hp
    · exact h.behaves p hp
    · rw [List.mem_singleton.1 hp, ← h.parameters]
      exact hbehaves
  case resting =>
    intro kind i e' he
    rcases Cast.get?_add_cases he with ⟨-, -, rfl⟩ | he
    · exact ⟨hroute, hpose⟩
    · exact h.resting kind i e' he
  case faithful =>
    intro key kind i e' hn he
    rcases Cast.names_add_cases hn with ⟨rfl, hwho⟩ | hn
    · obtain ⟨rfl, rfl⟩ := Prod.mk.inj hwho
      rcases Cast.get?_add_cases he with ⟨-, -, rfl⟩ | he
      · rfl
      · exact (hnew he ⟨rfl, rfl⟩).elim
    · rcases Cast.get?_add_cases he with ⟨rfl, rfl, rfl⟩ | he
      · obtain ⟨e'', he''⟩ := Option.isSome_iff_exists.1 (h.cast.known _ _ hn)
        exact (hnew he'' ⟨rfl, rfl⟩).elim
      · exact h.faithful key kind i e' hn he

end Stage.Enrolled

section Runs

open Staging

variable {sources : Sources} {map : RoadMap} {root : Element} {sections : Sections}

theorem castless_heads : HeadsSignals fun s => s.cast = {} where
  reads := fun _ _ hs => hs
  titles := fun _ _ _ _ _ hs => hs
  plans := by
    intro s p t hs hp
    cases hp <;> exact hs
  signals := fun _ _ hs => hs

theorem declaredStage_enrolled : (headedStage sources map root sections).Enrolled
    (declarations sources map root sections) (declaredStage sources map root sections) := by
  have hheaded : (headedStage sources map root sections).cast = {} :=
    castless_heads.heading root sections sources map {} rfl
  exact declaredIn_carries (I := fun past s => (headedStage sources map root sections).Enrolled past s)
    (fun _ _ _ hs => { hs with }) (fun _ _ _ _ _ hs => hs.add) sections.entities sources map [] _ (.start hheaded)

theorem role_settles (base : Cast) : Settles fun t => Cast.Same Entity.role base t.cast where
  reads := fun _ _ hs => hs
  signals := fun _ _ _ hs => hs
  weather := fun _ _ hs => hs
  entities := by
    intro s owner f hf hs
    exact hs.trans (.modify fun e _ => by simp [Entity.role, (hf e).name, (hf e).kind, (hf e).behavior])
  routes := by
    intro s owner plan route t hs _ ha
    cases ha with
    | refused _ _ => exact hs
    | granted _ _ _ => exact hs.trans (.modify fun _ _ => rfl)

theorem openStage_roles : Cast.Same Entity.role (declaredStage sources map root sections).cast
    (openStage sources map root sections).cast := by
  rw [openStage_eq]
  exact (role_settles _).init sections.init sources map _ (.refl _)

theorem exists_of_declarations {p : Element × Entity} (hp : p ∈ declarations sources map root sections) :
    ∃ e, ((openStage sources map root sections).cast.ofKind p.2.kind).get? p.2.id = some e ∧
      e.role = p.2.role ∧ p.2.Behaves (p.1.declaredBehavior? (headedStage sources map root sections).parameters) := by
  have henrolled : (headedStage sources map root sections).Enrolled _ (declaredStage sources map root sections) :=
    declaredStage_enrolled
  have hroles : Cast.Same Entity.role _ (openStage sources map root sections).cast := openStage_roles
  obtain ⟨e, he, hrole⟩ := hroles.symm.get? (henrolled.there p hp)
  exact ⟨e, he, hrole, henrolled.behaves p hp⟩

end Runs

end Scenography
