import Scenography.Proofs.Allotment
import Scenography.Proofs.Enrolment
import Scenography.Proofs.Walkers
/-!
Autonomous traffic. Vehicles that are declared so never get timelines of their own. Pedestrians walk
trajectories once they have an event, so events after the first can set their speeds.
-/

namespace Scenography

open Markup (Element)
open Timelines (store?)

def Entity.lastingRole (e : Entity) : String × EntityKind × Option Behavior :=
  (e.name, e.kind, if e.kind = .pedestrian then none else some e.behavior)

theorem Entity.lastingRole_withEvent (n : Nat) (e : Entity) : (Staging.withEvent n e).lastingRole = e.lastingRole := by
  unfold lastingRole
  rw [Staging.withEvent_kind]
  unfold Staging.withEvent
  dsimp only
  split
  next hk => simp [hk]
  next hk => simp [hk]
  all_goals rfl

theorem Entity.behavior_of_lastingRole {e e' : Entity} (h : e.lastingRole = e'.lastingRole)
    (hkind : e'.kind = .vehicle) : e.behavior = e'.behavior := by
  obtain ⟨-, h⟩ := Prod.mk.inj h
  obtain ⟨hk, hb⟩ := Prod.mk.inj h
  simpa [hk, hkind] using hb

theorem Entity.timelineIds_withEvent (n : Nat) (e : Entity) : (Staging.withEvent n e).timelineIds = e.timelineIds := by
  unfold Staging.withEvent
  dsimp only
  split <;> rfl

theorem Entity.lastingRole_of_plain {e e' : Entity} (h : e.plain = e'.plain) : e.lastingRole = e'.lastingRole := by
  have hname : e.plain.name = e'.plain.name := by rw [h]
  have hname' : e.name = e'.name := hname
  rw [lastingRole, lastingRole, hname', kind_of_plain h, behavior_of_plain h]

namespace Stage

structure Quiet (base : Cast) (s : Stage) : Prop where
  cast : s.cast.WellFormed
  roles : Cast.Same Entity.lastingRole base s.cast
  homeless : ∀ i v, s.cast.vehicles.get? i = some v → v.behavior.feedsTimelines = false →
    v.timelineIds = (none, none)
  still : ∀ i v, s.cast.vehicles.get? i = some v → v.behavior.feedsTimelines = false →
    s.timelines.speeds.get? (toString i) = none

namespace Quiet

variable {base : Cast} {s t : Stage}

theorem of_unplayed (h : s.Unplayed) : s.Quiet s.cast where
  cast := h.cast
  roles := .refl _
  homeless := by
    intro i v hv _
    have hidle := h.idle .vehicle i v hv
    rw [Entity.timelineIds, hidle.ramps, hidle.merges]
  still := by
    intro i v _ _
    rw [h.timelines]
    rfl

theorem congr (h : s.Quiet base) (hcast : t.cast.WellFormed)
    (hsame : Cast.Same (fun e => (e.lastingRole, e.timelineIds)) s.cast t.cast) (htimelines : t.timelines = s.timelines) :
    t.Quiet base := by
  have hget {i : Nat} {v : Entity} (hv : t.cast.vehicles.get? i = some v) :
      ∃ v', s.cast.vehicles.get? i = some v' ∧ v'.behavior = v.behavior ∧ v'.timelineIds = v.timelineIds := by
    have hv' : (t.cast.ofKind .vehicle).get? i = some v := hv
    obtain ⟨v', hget, hview⟩ := hsame.get? hv'
    obtain ⟨hrole, hids⟩ := Prod.mk.inj hview
    exact ⟨v', hget, Entity.behavior_of_lastingRole hrole (hcast.kind_eq _ _ _ hv'), hids⟩
  constructor
  case cast => exact hcast
  case roles => exact h.roles.trans (hsame.imp fun _ _ he => (Prod.mk.inj he).1)
  case homeless =>
    intro i v hv hb
    obtain ⟨v', hv', hbehavior, hids⟩ := hget hv
    rw [← hids]
    exact h.homeless i v' hv' (hbehavior ▸ hb)
  case still =>
    intro i v hv hb
    obtain ⟨v', hv', hbehavior, -⟩ := hget hv
    rw [htimelines]
    exact h.still i v' hv' (hbehavior ▸ hb)

theorem attached (h : s.Quiet base) {owner : String} {plan : RoutePlan} {route : Option Nat}
    (ha : s.Attached owner plan route t) : t.Quiet base := by
  cases ha with
  | refused j _ => exact { h with }
  | granted _ _ _ => exact h.congr (h.cast.modify fun _ _ => ⟨rfl, rfl⟩) (.modify fun _ _ => rfl) rfl

theorem stored (h : s.Quiet base) {event : Event} (hs : s.Stored event t) : t.Quiet base := by
  cases hs with
  | ego _ _ => exact { h with }
  | stray _ _ => exact { h with }
  | listed _ _ =>
    refine h.congr (h.cast.modify fun e _ => ⟨Staging.withEvent_id _ e, Staging.withEvent_kind _ e⟩) ?_ rfl
    exact .modify fun e _ => Prod.ext (e.lastingRole_withEvent _) (e.timelineIds_withEvent _)

theorem fed (h : s.Quiet base) {actor : String} {cue : Cue} {f : Feed}
    (hlistens : (s.cast.behaviorOf actor).feedsTimelines = true) (hf : s.Fed actor cue f t) : t.Quiet base := by
  have halike := hf.alike
  have hcast := halike.wellFormed h.cast
  have hroles := h.roles.trans (halike.same.imp fun _ _ => Entity.lastingRole_of_plain)
  have hbehavior {v : Entity} (hfind : s.cast.find? actor = some v) : v.behavior.feedsTimelines = true := by
    rw [Cast.behaviorOf, hfind] at hlistens
    exact hlistens
  have hother {v : Entity} (hfind : s.cast.find? actor = some v) {g : Feeding} (hg : g.entity.plain = v.plain)
      {i : Nat} {v' : Entity} (hv : (s.fedStage actor g).cast.vehicles.get? i = some v')
      (hb : v'.behavior.feedsTimelines = false) : s.cast.vehicles.get? i = some v' := by
    have hput := h.cast.get?_put hfind g.entity .vehicle i
    rw [show ((s.cast.modify actor fun _ => g.entity).ofKind .vehicle).get? i = some v' from hv] at hput
    split at hput
    · rw [Option.some.inj hput, Entity.behavior_of_plain hg, hbehavior hfind] at hb
      cases hb
    · exact hput.symm
  cases hf with
  | unmoved _ _ => exact h
  | ramp hfind hkind rate stopKind stopValue =>
    rename_i v₀
    have hg := (Feeding.addRamp_alike ⟨s.timelines, s.counters, v₀⟩ cue (Feed.rampOf rate stopKind stopValue)).plain
    refine ⟨hcast, hroles, fun i v hv hb => h.homeless i v (hother hfind hg hv hb) hb, fun i v hv hb => ?_⟩
    exact .trans (congrArg (·.get? (toString i)) (Feeding.addRamp_frame _ cue _).1) (h.still i v (hother hfind hg hv hb) hb)
  | merge hfind hkind target offset duration =>
    rename_i v₀
    have hg := (Feeding.addMerge_alike ⟨s.timelines, s.counters, v₀⟩ cue (Feed.mergeOf target offset duration)).plain
    refine ⟨hcast, hroles, fun i v hv hb => h.homeless i v (hother hfind hg hv hb) hb, fun i v hv hb => ?_⟩
    exact .trans (congrArg (·.get? (toString i)) (Feeding.addMerge_frame _ cue _).2.1) (h.still i v (hother hfind hg hv hb) hb)
  | speed hfind hkind target =>
    rename_i v₀
    rw [Feeding.addSpeed_eq, Stage.fedStage, Cast.modify_find? hfind]
    refine ⟨h.cast, h.roles, h.homeless, fun i v hv hb => ?_⟩
    have hne : toString i ≠ toString v₀.id := by
      intro heq
      have hget := h.cast.get?_of_find? hfind
      rw [hkind, ← toString_injective heq] at hget
      have hv' : (s.cast.ofKind .vehicle).get? i = some v := hv
      cases hget.symm.trans hv'
      rw [hbehavior hfind] at hb
      cases hb
    exact (Timelines.get?_store_of_ne hne _ _ _).trans (h.still i v hv hb)
  | walk hfind hkind target _ =>
    rw [Feeding.addWalk_eq, Stage.fedStage, Cast.modify_find? hfind]
    exact { h with }

theorem lasts (base : Cast) : Staging.Lasts (Quiet base) where
  reads := fun _ _ h => { h with }
  reroutes := fun _ _ _ _ _ h ha => h.attached ha
  feeds := fun _ _ _ _ _ h _ hlistens hf => h.fed hlistens hf
  keeps := fun _ _ _ h hs => h.stored hs

end Quiet

end Stage

structure Scene.Still (s : Scene) (e : Entity) : Prop where
  ramps : ∀ id t, e.rampTimeline = some id → s.timelines.ramps.get? id = some t → t.nodes = []
  merges : ∀ id t, e.mergeTimeline = some id → s.timelines.merges.get? id = some t → t.nodes = []
  speeds : e.kind = .vehicle → ∀ t, s.timelines.speeds.get? (toString e.id) = some t → t.nodes = []
  walks : e.kind = .pedestrian → ∀ t, s.timelines.walks.get? (toString e.id) = some t → t.nodes = []

section Scenes

open Counters (sharedTimeline)

variable {sources : Sources} {map : RoadMap} {root : Element} {sections : Sections}

theorem told_quiet (h : Sections.ofRoot root = .ok sections) :
    (told sources map root).2.Quiet (openStage sources map root sections).cast :=
  (Stage.Quiet.lasts _).told h (.of_unplayed (openStage_unplayed sources map root sections))

theorem vehicle_still (h : Sections.ofRoot root = .ok sections) {i : Nat} {v : Entity}
    (hv : (openStage sources map root sections).cast.vehicles.get? i = some v)
    (hdeaf : v.behavior.feedsTimelines = false) :
    ∃ e, (finalStage sources map root).cast.vehicles.get? i = some e ∧ e.name = v.name ∧
      (finalStage sources map root).scene.withReferences.Still e := by
  have hquiet : (told sources map root).2.Quiet _ := told_quiet h
  have hshelved : (told sources map root).2.Shelved := told_shelved h
  have hopen := openStage_unplayed sources map root sections
  have hv' : ((openStage sources map root sections).cast.ofKind .vehicle).get? i = some v := hv
  obtain ⟨e, he, hrole⟩ := hquiet.roles.symm.get? hv'
  have hbehavior := Entity.behavior_of_lastingRole hrole (hopen.cast.kind_eq _ _ _ hv')
  have hids := hquiet.homeless i e he (hbehavior ▸ hdeaf)
  have hid := hquiet.cast.id_eq .vehicle i e he
  have hvehicles : (finalStage sources map root).cast.vehicles =
      (told sources map root).2.cast.vehicles.map Entity.withSharedTimelines := rfl
  refine ⟨e.withSharedTimelines, ?_, (Prod.mk.inj hrole).1, ?_⟩
  · rw [hvehicles, KeyMap.get?_map]
    exact congrArg _ he
  have hshared {π : Type} {home : Nat → Option (Option String)} {count : Nat} {m : KeyMap String (Timeline π)}
      {fed : Nat → List (Node π)} (ha : Timelines.Allotted home count m fed) {own : Option String} (hown : own = none)
      {id : String} {t : Timeline π} (hid : some (own.getD sharedTimeline) = some id) (ht : m.get? id = some t) :
      t.nodes = [] := by
    subst hown
    obtain rfl := Option.some.inj hid
    rw [← Option.some.inj (ha.shared.symm.trans ht)]
    rfl
  constructor
  case ramps =>
    obtain ⟨fed, hfed⟩ := hshelved.ramps
    exact fun id t => hshared hfed (Prod.mk.inj hids).1
  case merges =>
    obtain ⟨fed, hfed⟩ := hshelved.merges
    exact fun id t => hshared hfed (Prod.mk.inj hids).2
  case speeds =>
    intro _ t ht
    have hnone := hquiet.still i e he (hbehavior ▸ hdeaf)
    rw [← hid] at hnone
    cases hnone.symm.trans ht
  case walks =>
    intro hk
    cases (hquiet.cast.kind_eq .vehicle i e he).symm.trans hk

theorem pedestrian_still_iff (h : Sections.ofRoot root = .ok sections) {i : Nat} {p : Entity}
    (hp : (openStage sources map root sections).cast.pedestrians.get? i = some p)
    (hdeaf : p.behavior.feedsTimelines = false) :
    ∃ e, (finalStage sources map root).cast.pedestrians.get? i = some e ∧ e.name = p.name ∧
      ((finalStage sources map root).scene.withReferences.Still e ↔
        ∀ event ∈ ((finalStage sources map root).scene.withReferences.eventsOf e).tail, event.strides e.face = []) := by
  have hquiet : (told sources map root).2.Quiet _ := told_quiet h
  have hshelved : (told sources map root).2.Shelved := told_shelved h
  have hp' : ((openStage sources map root sections).cast.ofKind .pedestrian).get? i = some p := hp
  obtain ⟨e, he, hrole⟩ := hquiet.roles.symm.get? hp'
  have he' : (finalStage sources map root).cast.pedestrians.get? i = some e := he
  have hid := hquiet.cast.id_eq .pedestrian i e he
  have hkind := hquiet.cast.kind_eq .pedestrian i e he
  have hids := hshelved.others .pedestrian i e (by simp) he
  have hwalk := walk_eq h he'
  rw [hp, Option.any_some, hdeaf, if_neg (by simp)] at hwalk
  refine ⟨e, he', (Prod.mk.inj hrole).1, ?_⟩
  rw [← List.flatMap_eq_nil_iff]
  constructor
  · intro hstill
    by_contra hne
    have hnodes := Timeline.nodes_empty_addAll_ne_nil hne (toString i)
    rw [← hwalk, Stage.walkOf] at hnodes
    cases ht : (finalStage sources map root).timelines.walks.get? (toString i) with
    | none =>
      rw [ht] at hnodes
      exact hnodes rfl
    | some t =>
      rw [ht] at hnodes
      exact hnodes (hstill.walks hkind t (hid.symm ▸ ht))
  · intro hnil
    rw [hnil] at hwalk
    constructor
    case ramps =>
      intro id t hown
      cases (Prod.mk.inj hids).1.symm.trans hown
    case merges =>
      intro id t hown
      cases (Prod.mk.inj hids).2.symm.trans hown
    case speeds =>
      intro hk
      cases hkind.symm.trans hk
    case walks =>
      intro _ t ht
      have ht' : (finalStage sources map root).timelines.walks.get? (toString i) = some t := hid ▸ ht
      rw [Stage.walkOf, ht', Option.getD_some] at hwalk
      rw [hwalk]
      rfl

/-- A scene holds no node for a vehicle declared as autonomous traffic, and none for such a pedestrian
exactly if none of its events but the first asks for steps. -/
theorem stage_autonomous_still {staged : Staged} (hroot : Sections.ofRoot root = .ok sections)
    (h : (stage sources root).run map = .ok staged) {object : Element} {declared : Entity}
    (hdeclared : (object, declared) ∈ declarations sources map root sections)
    (hkind : declared.kind = .vehicle ∨ declared.kind = .pedestrian)
    (hautonomous : object.declaredBehavior? (headedStage sources map root sections).parameters = some .traffic ∨
      object.declaredBehavior? (headedStage sources map root sections).parameters = some .arterial) :
    ∃ e, (staged.scene.ofKind declared.kind).get? declared.id = some e ∧ e.name = declared.name ∧
      (declared.kind = .vehicle → staged.scene.Still e) ∧
      (declared.kind = .pedestrian →
        (staged.scene.Still e ↔ ∀ event ∈ (staged.scene.eventsOf e).tail, event.strides e.face = [])) := by
  obtain ⟨sections', hroot', rfl⟩ := run_stage h
  obtain rfl := Except.ok.inj (hroot.symm.trans hroot')
  obtain ⟨entity, hget, hrole, hbehaves⟩ := exists_of_declarations hdeclared
  obtain ⟨hname, hrole⟩ := Prod.mk.inj hrole
  have hdeaf : entity.behavior.feedsTimelines = false := by
    rw [(Prod.mk.inj hrole).2]
    rcases hautonomous with hb | hb <;> rw [hbehaves hkind _ hb] <;> rfl
  rcases hkind with hk | hk
  · rw [hk] at hget ⊢
    obtain ⟨e, he, hsame, hstill⟩ := vehicle_still hroot hget hdeaf
    exact ⟨e, he, hsame.trans hname, fun _ => hstill, nofun⟩
  · rw [hk] at hget ⊢
    obtain ⟨e, he, hsame, hstill⟩ := pedestrian_still_iff hroot hget hdeaf
    exact ⟨e, he, hsame.trans hname, nofun, fun _ => hstill⟩

end Scenes

section Sample

namespace Sample

def traffic (kind name type : String) : Element :=
  .of "ScenarioObject" [("name", name)] [.of kind [("name", type)] [
    .of "Properties" [] [.of "Property" [("name", "Behavior"), ("value", "TrafficVehicle")] []]]]

def autonomous (steps : List Element) : Element :=
  .of "OpenSCENARIO" [] [
    .of "FileHeader" [] [],
    .of "Entities" [] [traffic "Vehicle" "Bus" "Sedan", traffic "Pedestrian" "Walker" "Adult"],
    .of "Storyboard" [] [
      .of "Init" [] [],
      .of "Story" [] [.of "Act" [] [
        group "Bus" [event [timeTest "1"] [speedAction "go" "linear" "2" "10", speedAction "cruise" "step" "0" "9"]],
        group "Walker" steps]]]]

def step (name time speed : String) : Element :=
  event [timeTest time] [speedAction name "step" "0" speed]

def unheard : Element :=
  autonomous [step "start" "1" "1.2"]

def heard : Element :=
  autonomous [step "start" "1" "1.2", step "hurry" "2" "1.5"]

def declares (p : Element × Entity) (kind : EntityKind) (name : String) (ps : Parameters) : Bool :=
  p.2.kind = kind ∧ p.2.id = 1 ∧ p.2.name = name ∧ p.1.declaredBehavior? ps = some .traffic

theorem exists_declared (root : Element) (kind : EntityKind) (name : String)
    (h : ((Sections.ofRoot root).toOption.any fun sections => (declarations .bare .blank root sections).any
      (declares · kind name (headedStage .bare .blank root sections).parameters)) = true) :
    ∃ sections object declared, Sections.ofRoot root = .ok sections ∧
      (object, declared) ∈ declarations .bare .blank root sections ∧
      object.declaredBehavior? (headedStage .bare .blank root sections).parameters = some .traffic ∧
      declared.kind = kind ∧ declared.id = 1 ∧ declared.name = name := by
  cases hs : Sections.ofRoot root with
  | error _ =>
    rw [hs] at h
    cases h
  | ok sections =>
    rw [hs] at h
    obtain ⟨⟨object, declared⟩, hmem, hp⟩ := List.any_eq_true.1 h
    obtain ⟨hkind, hid, hname, hb⟩ := of_decide_eq_true hp
    exact ⟨sections, object, declared, rfl, hmem, hb, hkind, hid, hname⟩

end Sample

theorem sample_autonomous_still : ∃ sections staged object declared e,
    Sections.ofRoot Sample.unheard = .ok sections ∧ (stage .bare Sample.unheard).run .blank = .ok staged ∧
    (object, declared) ∈ declarations .bare .blank Sample.unheard sections ∧ declared.kind = .vehicle ∧
    object.declaredBehavior? (headedStage .bare .blank Sample.unheard sections).parameters = some .traffic ∧
    (staged.scene.ofKind declared.kind).get? declared.id = some e ∧ staged.scene.Still e := by
  obtain ⟨sections, object, declared, hroot, hmem, hb, hkind, -, -⟩ :=
    Sample.exists_declared Sample.unheard .vehicle "Bus" (by decide)
  have hstaged : (stage .bare Sample.unheard).run .blank = .ok _ := run_stage_of_sections hroot
  obtain ⟨e, he, -, hstill, -⟩ := stage_autonomous_still hroot hstaged hmem (.inl hkind) (.inl hb)
  exact ⟨sections, _, object, declared, e, hroot, hstaged, hmem, hkind, hb, he, hstill hkind⟩

theorem autonomous_walker_steps : ∃ sections staged object declared e,
    Sections.ofRoot Sample.heard = .ok sections ∧ (stage .bare Sample.heard).run .blank = .ok staged ∧
    (object, declared) ∈ declarations .bare .blank Sample.heard sections ∧ declared.kind = .pedestrian ∧
    object.declaredBehavior? (headedStage .bare .blank Sample.heard sections).parameters = some .traffic ∧
    staged.scene.pedestrians.get? declared.id = some e ∧ e.name = declared.name ∧ ¬staged.scene.Still e := by
  obtain ⟨sections, object, declared, hroot, hmem, hb, hkind, hid, hname⟩ :=
    Sample.exists_declared Sample.heard .pedestrian "Walker" (by decide)
  have hstaged : (stage .bare Sample.heard).run .blank = .ok _ := run_stage_of_sections hroot
  have hwalker : ((finalStage .bare .blank Sample.heard).scene.withReferences.pedestrians.get? 1).any (fun e =>
      e.kind = .pedestrian ∧ e.id = 1 ∧ e.name = "Walker") = true := by decide +kernel
  have hwalk : ((finalStage .bare .blank Sample.heard).scene.withReferences.timelines.walks.get? "1").any
      (fun t => !t.nodes.isEmpty) = true := by decide +kernel
  obtain ⟨e, he, hp⟩ := (Option.any_eq_true _ _).1 hwalker
  obtain ⟨t, ht, hnodes⟩ := (Option.any_eq_true _ _).1 hwalk
  obtain ⟨hk, hone, hsame⟩ := of_decide_eq_true hp
  refine ⟨sections, _, object, declared, e, hroot, hstaged, hmem, hkind, hb, hid ▸ he, hsame.trans hname.symm,
    fun hstill => ?_⟩
  have hnil := hstill.walks hk t (hone ▸ ht)
  rw [hnil] at hnodes
  cases hnodes

end Sample

end Scenography
