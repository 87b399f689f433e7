import Scenography.Proofs.Walk

namespace Scenography

open Markup (Element)

structure Entity.Idle (e : Entity) : Prop where
  events : e.events = []
  ramps : e.rampTimeline = none
  merges : e.mergeTimeline = none

structure Stage.Made (s : Stage) (e : Entity) (t : Stage) : Prop where
  stage : ∃ j, t = { s with journal := j, counters := (s.counters.nextEntity e.kind).2 }
  id_eq : e.id = (s.counters.nextEntity e.kind).1
  idle : e.Idle
  route : e.route = none
  pose : e.pose = none

def Markup.Element.behavior? (ps : Parameters) (e : Element) : Option Behavior :=
  ((KeyMap.ofList (e.properties.map fun p => (p.1, (ps.resolveOrKeep p.2).1))).get? "Behavior").bind Behavior.ofText?

def Markup.Element.declaredBehavior? (ps : Parameters) (object : Element) : Option Behavior :=
  ((object.child? "Vehicle").or (object.child? "Pedestrian")).bind (·.behavior? ps)

def Entity.Behaves (declared : Option Behavior) (e : Entity) : Prop :=
  e.kind = .vehicle ∨ e.kind = .pedestrian → ∀ b, declared = some b → e.behavior = b

namespace Staging

section Readers

variable (name type : String) (object e : Element) (vehicle : Option Element)

@[grind ←] theorem declaration?_reads : Reads (declaration? object) := by
  unfold declaration?
  grind

@[grind ←] theorem isEgo_reads : Reads (isEgo name e) := by
  unfold isEgo
  split
  · exact .pure true
  · split
    · exact .pure false
    · exact .bind (resolve_reads _) fun _ => .pure _

@[grind ←] theorem properties_reads : Reads (properties vehicle) := by
  unfold properties
  grind

@[grind ←] theorem box?_reads : Reads (box? vehicle) := by
  unfold box?
  grind

@[grind ←] theorem performance?_reads : Reads (performance? vehicle) := by
  unfold performance?
  grind

@[grind ←] theorem behavior_reads (properties : KeyMap String String) (standard : Behavior) :
    Reads (behavior properties standard) := by
  unfold behavior
  grind

@[grind ←] theorem category_reads : Reads (category vehicle type) := by
  unfold category
  grind

@[grind ←] theorem controller?_reads : Reads (controller? object) := by
  unfold controller?
  grind

end Readers

def Makes (m : Staging Entity) : Prop :=
  ∀ sources map (s : Stage), s.Made (exec sources map m s).1 (exec sources map m s).2

theorem Makes.bind_reads {α : Type} {m : Staging α} {f : α → Staging Entity} (hm : Reads m)
    (hf : ∀ a, Makes (f a)) : Makes (m >>= f) := by
  intro sources map s
  obtain ⟨a, more, h⟩ := hm sources map s
  have hread : exec sources map m s = _ := h s.journal
  obtain ⟨⟨j, hstage⟩, hid, hidle, hroute, hpose⟩ :=
    hf a sources map { s with journal := ⟨s.journal.notices ++ more⟩ }
  rw [exec_bind, hread]
  exact ⟨⟨j, hstage⟩, hid, hidle, hroute, hpose⟩

def MayMake (m : Staging (Option Entity)) : Prop :=
  ∀ sources map (s : Stage), (∃ j, exec sources map m s = (none, { s with journal := j })) ∨
    ∃ e t, exec sources map m s = (some e, t) ∧ s.Made e t

theorem MayMake.bind_reads {α : Type} {m : Staging α} {f : α → Staging (Option Entity)} (hm : Reads m)
    (hf : ∀ a, MayMake (f a)) : MayMake (m >>= f) := by
  intro sources map s
  obtain ⟨a, more, h⟩ := hm sources map s
  have hread : exec sources map m s = _ := h s.journal
  rw [exec_bind, hread]
  rcases hf a sources map { s with journal := ⟨s.journal.notices ++ more⟩ } with ⟨j, hnone⟩ | ⟨e, t, hsome, hmade⟩
  · exact .inl ⟨j, hnone⟩
  · obtain ⟨⟨j, hstage⟩, hid, hidle, hroute, hpose⟩ := hmade
    exact .inr ⟨e, t, hsome, ⟨j, hstage⟩, hid, hidle, hroute, hpose⟩

section Entities

variable (name type : String) (object e : Element) (vehicle : Option Element)

theorem ego_makes : Makes (ego name object vehicle type) := by
  unfold ego
  exact .bind_reads (lookUp_reads _ _) fun _ => .bind_reads (properties_reads _) fun _ =>
    .bind_reads (category_reads _ _) fun _ => .bind_reads (performance?_reads _) fun _ =>
    .bind_reads (box?_reads _) fun _ => .bind_reads (controller?_reads _) fun _ =>
    fun sources map s => ⟨⟨s.journal, rfl⟩, rfl, ⟨rfl, rfl, rfl⟩, rfl, rfl⟩

theorem vehicle_makes : Makes (Staging.vehicle name type vehicle) := by
  unfold Staging.vehicle
  exact .bind_reads (lookUp_reads _ _) fun _ => .bind_reads (properties_reads _) fun _ =>
    .bind_reads (performance?_reads _) fun _ => .bind_reads (box?_reads _) fun _ =>
    .bind_reads (behavior_reads _ _) fun _ =>
    fun sources map s => ⟨⟨s.journal, rfl⟩, rfl, ⟨rfl, rfl, rfl⟩, rfl, rfl⟩

theorem pedestrian_makes (standard : Behavior) : Makes (pedestrian name type vehicle standard) := by
  unfold pedestrian
  exact .bind_reads (lookUp_reads _ _) fun _ => .bind_reads (properties_reads _) fun _ =>
    .bind_reads (box?_reads _) fun _ => .bind_reads (behavior_reads _ _) fun _ =>
    fun sources map s => ⟨⟨s.journal, rfl⟩, rfl, ⟨rfl, rfl, rfl⟩, rfl, rfl⟩

theorem obstacle_makes : Makes (obstacle name type vehicle) := by
  unfold obstacle
  exact .bind_reads (lookUp_reads _ _) fun _ => .bind_reads (box?_reads _) fun _ =>
    fun sources map s => ⟨⟨s.journal, rfl⟩, rfl, ⟨rfl, rfl, rfl⟩, rfl, rfl⟩

theorem ofVehicle_makes : Makes (ofVehicle name object e) := by
  unfold ofVehicle
  refine .bind_reads (isEgo_reads _ _) fun b => ?_
  split
  · exact .bind_reads (attr_reads _ _) fun _ => ego_makes _ _ _ _
  · refine .bind_reads (attr_reads _ _) fun type => .bind_reads .read fun sources => ?_
    split
    · exact pedestrian_makes _ _ _ _
    · exact vehicle_makes _ _ _

theorem ofCatalogued_makes (kind : CatalogKind) : Makes (ofCatalogued name object kind type) := by
  have hvehicle : Makes (do
      if isEgoName name then ego name object none type
      else if isWalker (← read).settings type then pedestrian name type none .scripted
      else Staging.vehicle name type none) := by
    split
    · exact ego_makes _ _ _ _
    · refine .bind_reads .read fun sources => ?_
      split
      · exact pedestrian_makes _ _ _ _
      · exact vehicle_makes _ _ _
  cases kind with
  | pedestrian => exact pedestrian_makes _ _ _ _
  | miscObject => exact obstacle_makes _ _ _
  | vehicle => exact hvehicle
  | ego => exact hvehicle

theorem ofDeclaration_makes (d : Declaration) : Makes (ofDeclaration name object d) := by
  cases d with
  | vehicle e => exact ofVehicle_makes _ _ _
  | pedestrian e =>
    refine .bind_reads (attr?_reads _ _) fun model => ?_
    split
    · exact pedestrian_makes _ _ _ _
    · exact .bind_reads (attr_reads _ _) fun _ => pedestrian_makes _ _ _ _
  | miscObject e => exact .bind_reads (attr_reads _ _) fun _ => obstacle_makes _ _ _
  | catalogued kind type => exact ofCatalogued_makes _ _ _ _

theorem entity?_makes : MayMake (entity? object) := by
  unfold entity?
  refine .bind_reads (attr?_reads _ _) fun name => ?_
  split
  · exact fun sources map s => .inl ⟨_, rfl⟩
  · refine .bind_reads (declaration?_reads _) fun d => ?_
    split
    · exact fun sources map s => .inl ⟨_, rfl⟩
    · intro sources map s
      rw [exec_map]
      exact .inr ⟨_, _, rfl, ofDeclaration_makes _ _ _ sources map s⟩

end Entities

section Behaviors

variable {ps : Parameters} (name type : String) (object e : Element) (node : Option Element)

theorem Reads.keepsParameters {α : Type} {m : Staging α} (h : Reads m) : Keeps (·.parameters = ps) m :=
  h.keeps fun _ _ hs => hs

theorem resolve_gives (token : String) :
    GivesFrom (·.parameters = ps) (· = (ps.resolveOrKeep token).1) (resolve token) := by
  rintro sources map s rfl
  rw [resolve, exec_bind, exec_get]
  dsimp only
  rcases s.parameters.resolveOrKeep token with ⟨value, - | fault⟩ <;> rfl

theorem properties_gives :
    GivesFrom (·.parameters = ps)
      (· = .ofList (((node.map (·.properties)).getD []).map fun p => (p.1, (ps.resolveOrKeep p.2).1)))
      (properties node) := by
  have hlisted (l : List (String × String)) :
      GivesFrom (·.parameters = ps) (· = l.map fun p => (p.1, (ps.resolveOrKeep p.2).1))
        (l.mapM fun p => return (p.1, ← resolve p.2)) := by
    induction l with
    | nil => exact Gives.from (.pure rfl) _
    | cons p l ih =>
      intro sources map s hs
      have hfirst : (exec sources map (resolve p.2) s).1 = _ := resolve_gives p.2 sources map s hs
      have hrest := ih sources map _ ((resolve_reads p.2).keepsParameters sources map s hs)
      simp only [List.mapM_cons, exec_bind, exec_pure, List.map_cons, hfirst]
      rw [hrest]
  exact .bind_of (hlisted _) fun l hl => .pure (by rw [hl])

theorem behavior_gives (properties : KeyMap String String) (standard : Behavior) :
    Gives (fun b => ∀ b', (properties.get? "Behavior").bind Behavior.ofText? = some b' → b = b')
      (behavior properties standard) := by
  unfold behavior
  cases properties.get? "Behavior" with
  | none => exact .pure nofun
  | some raw =>
    cases hraw : Behavior.ofText? raw with
    | some b =>
      dsimp only
      rw [hraw]
      exact .pure fun b' hb => Option.some.inj (hraw.symm.trans hb)
    | none =>
      dsimp only
      rw [hraw]
      exact .bind fun _ => .pure fun b' hb => by cases hraw.symm.trans hb

theorem ego_gives : Gives (·.kind = .ego) (ego name object node type) := by
  unfold ego
  exact .bind fun _ => .bind fun _ => .bind fun _ => .bind fun _ => .bind fun _ => .bind fun _ => .bind fun _ =>
    .bind fun _ => .pure rfl

theorem behaves_of_kind {m : Staging Entity} {kind : EntityKind} (h : Gives (·.kind = kind) m)
    (hkind : kind ≠ .vehicle ∧ kind ≠ .pedestrian) (declared : Option Behavior) :
    Gives (Entity.Behaves declared) m := by
  intro sources map s hk
  rw [h sources map s] at hk
  exact (hk.elim hkind.1 hkind.2).elim

theorem vehicle_behaves :
    GivesFrom (·.parameters = ps) (Entity.Behaves (node.bind (·.behavior? ps))) (Staging.vehicle name type node) := by
  unfold Staging.vehicle
  refine .bind (lookUp_reads _ _).keepsParameters fun _ => .bind_of (properties_gives node) fun properties hp => ?_
  refine .bind fun _ => .bind fun _ => .bind_of (behavior_gives properties _) fun b hb => ?_
  refine .bind fun _ => .bind fun _ => .pure fun _ b' hb' => hb b' ?_
  cases node with
  | none => cases hb'
  | some e => rw [hp, ← hb']; rfl

theorem pedestrian_behaves (standard : Behavior) :
    GivesFrom (·.parameters = ps) (Entity.Behaves (node.bind (·.behavior? ps)))
      (pedestrian name type node standard) := by
  unfold pedestrian
  refine .bind (lookUp_reads _ _).keepsParameters fun _ => .bind_of (properties_gives node) fun properties hp => ?_
  refine .bind fun _ => .bind_of (behavior_gives properties _) fun b hb => ?_
  refine .bind fun _ => .bind fun _ => .pure fun _ b' hb' => hb b' ?_
  cases node with
  | none => cases hb'
  | some e => rw [hp, ← hb']; rfl

theorem ofVehicle_behaves :
    GivesFrom (·.parameters = ps) (Entity.Behaves (e.behavior? ps)) (ofVehicle name object e) := by
  unfold ofVehicle
  refine .bind (isEgo_reads _ _).keepsParameters fun b => ?_
  split
  · exact .bind (attr_reads _ _).keepsParameters fun _ =>
      (behaves_of_kind (ego_gives _ _ _ _) (by simp) _).from _
  · refine .bind (attr_reads _ _).keepsParameters fun type => .bind Reads.read.keepsParameters fun sources => ?_
    split
    · exact pedestrian_behaves _ _ (some e) _
    · exact vehicle_behaves _ _ (some e)

def Declaration.node? : Declaration → Option Element
  | .vehicle e => some e
  | .pedestrian e => some e
  | .miscObject _ => none
  | .catalogued _ _ => none

theorem declaration?_node : Gives (fun o => ∀ d ∈ o, d.node? = (object.child? "Vehicle").or (object.child? "Pedestrian"))
    (declaration? object) := by
  unfold declaration?
  split
  next hv => exact .pure fun d hd => by rw [← Option.some.inj hd, hv]; rfl
  next hv hp => exact .pure fun d hd => by rw [← Option.some.inj hd, hv, hp]; rfl
  next hv hp _ => exact .pure fun d hd => by rw [← Option.some.inj hd, hv, hp]; rfl
  next hv hp _ _ =>
    refine .bind fun catalog => .bind fun name => .pure fun d hd => ?_
    obtain ⟨kind, -, rfl⟩ := Option.map_eq_some_iff.1 hd
    rw [hv, hp]
    rfl
  next => exact .pure (by simp)

theorem ofDeclaration_behaves (d : Declaration) :
    GivesFrom (·.parameters = ps) (Entity.Behaves (d.node?.bind (·.behavior? ps))) (ofDeclaration name object d) := by
  cases d with
  | vehicle e => exact ofVehicle_behaves _ _ _
  | pedestrian e =>
    refine .bind (attr?_reads _ _).keepsParameters fun model => ?_
    split
    · exact pedestrian_behaves _ _ (some e) _
    · exact .bind (attr_reads _ _).keepsParameters fun _ => pedestrian_behaves _ _ (some e) _
  | miscObject e => exact fun _ _ _ _ _ => nofun
  | catalogued kind type => exact fun _ _ _ _ _ => nofun

theorem entity?_behaves :
    GivesFrom (·.parameters = ps) (fun o => ∀ entity ∈ o, entity.Behaves (object.declaredBehavior? ps))
      (entity? object) := by
  unfold entity?
  refine .bind (attr?_reads _ _).keepsParameters fun name => ?_
  split
  · exact (Gives.refuse (by simp)).from _
  · intro sources map s hs
    have hd := declaration?_node object sources map s
    have hkept := (declaration?_reads object).keepsParameters sources map s hs
    rw [exec_bind]
    cases hdeclared : (exec sources map (declaration? object) s).1 with
    | none => exact fun entity he => nomatch he
    | some d =>
      rw [hdeclared] at hd
      dsimp only
      rw [exec_map]
      intro entity he
      rw [← Option.some.inj he, Element.declaredBehavior?, ← hd d rfl]
      exact ofDeclaration_behaves _ object d sources map _ hkept

end Behaviors

def declared? (object : Element) : Staging (Option (Element × Entity)) := do
  let made ← entity? object
  match made with
  | some e => enter e
  | none => pure ()
  return made.map (object, ·)

def declaredIn (e : Element) : Staging (List (Element × Entity)) :=
  filterMap declared? (e.childrenNamed "ScenarioObject")

theorem exec_entities (sources : Sources) (map : RoadMap) (e : Element) (s : Stage) :
    (exec sources map (entities e) s).2 = (exec sources map (declaredIn e) s).2 := by
  refine exec_forM_eq_filterMap (fun object t => ?_) _ s
  unfold declared?
  simp only [exec_bind]
  cases (exec sources map (entity? object) t).1 with
  | none => rfl
  | some entity => simp only [exec_bind, exec_pure]

theorem declaredIn_carries {I : List (Element × Entity) → Stage → Prop}
    (hI : ∀ past (s : Stage) (j : Journal), I past s → I past { s with journal := j })
    (hadd : ∀ past (s : Stage) object (e : Entity) t, I past s → s.Made e t →
      e.Behaves (object.declaredBehavior? s.parameters) → I (past ++ [(object, e)]) { t with cast := t.cast.add e })
    (e : Element) : Carries I (declaredIn e) := by
  refine .filterMap (fun object sources map past s hs => ?_) _
  have hbehaves := entity?_behaves object sources map s rfl
  simp only [exec_map, declared?, exec_bind]
  rcases entity?_makes object sources map s with ⟨j, hnone⟩ | ⟨entity, t, hsome, hmade⟩
  · rw [hnone]
    simpa using hI past s j hs
  · rw [hsome] at hbehaves ⊢
    have hadded := hadd past s object entity t hs hmade (hbehaves entity rfl)
    have hentered : ∃ j, (exec sources map (enter entity) t).2 = { t with cast := t.cast.add entity, journal := j } := by
      have htail : Reads (if t.cast.isFree entity.name then return
          else warn "DUPLICATE_ENTITY" ("entity name \"" ++ entity.name ++ "\" is declared more than once")) := by
        split
        · exact .pure _
        · exact .warn _ _
      obtain ⟨a, more, h⟩ := htail sources map { t with cast := t.cast.add entity }
      exact ⟨_, congrArg Prod.snd (h t.journal)⟩
    obtain ⟨j, hentered⟩ := hentered
    simp only [exec_bind, exec_pure, hentered]
    exact hI _ _ j hadded

end Staging

end Scenography
