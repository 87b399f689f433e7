import Scenography.Proofs.Finite.Requests
import Scenography.Proofs.Opening

namespace Scenography

open Markup (Element)

section Steps

variable {s : Stage}

theorem Cast.Steady.add {c : Cast} (h : c.Steady) {e : Entity} (he : e.Steady) : (c.add e).Steady := by
  intro kind i e' hget
  rcases Cast.get?_add_cases hget with ⟨-, -, rfl⟩ | hget
  · exact he
  · exact h kind i e' hget

theorem Cast.Steady.modify {c : Cast} (h : c.Steady) (name : String) {f : Entity → Entity}
    (hf : ∀ e, c.find? name = some e → e.Steady → (f e).Steady) : (c.modify name f).Steady := by
  intro kind i e hget
  rcases Cast.get?_modify_cases hget with ⟨e', hfind, he', rfl⟩ | hget
  · exact hf e' hfind (h kind i e' he')
  · exact h kind i e hget

theorem Cast.Steady.all {c : Cast} (h : c.Steady) {e : Entity} (he : e ∈ c.all) : e.Steady := by
  have hvalue (kind : EntityKind) (he : e ∈ (c.ofKind kind).values) : e.Steady := by
    obtain ⟨⟨i, e'⟩, hp, rfl⟩ := List.mem_map.1 he
    exact h kind i e' (KeyMap.get?_eq_some_iff.2 hp)
  simp only [Cast.all, List.mem_append] at he
  rcases he with ((he | he) | he) | he
  · exact hvalue .ego he
  · exact hvalue .vehicle he
  · exact hvalue .pedestrian he
  · exact hvalue .obstacle he

theorem Stage.Steady.attached (h : s.Steady) {owner : String} {plan : RoutePlan} (hplan : AllFinite plan)
    {route : Option Nat} {t : Stage} (ha : s.Attached owner plan route t) : t.Steady := by
  cases ha with
  | refused j _ => exact { h with }
  | granted hspots _ _ =>
    have hspots' : AllFinite plan.spots := hplan
    rw [hspots] at hspots'
    exact { h with
      cast := h.cast.modify owner fun _ _ he => he.congr rfl
      routes := h.routes.insert (allFinite_count _) (allFinite_through _ _ _ hspots') }

end Steps

namespace Staging

variable (owner name type : String) (e object : Element) (node : Option Element)

theorem modifyEntity_yields {f : Entity → Entity} (hf : ∀ e : Entity, e.Steady → (f e).Steady) :
    Yields (fun _ => True) (modifyEntity owner f) :=
  .modify fun _ hs => { hs with cast := hs.cast.modify owner fun e _ => hf e }

theorem warn_yields (code message : String) : Yields (fun _ => True) (warn code message) :=
  .of_gives (.warn _ _) fun _ _ _ => trivial

theorem attachRoute_yields {plan : RoutePlan} (h : AllFinite plan) : Yields (fun _ => True) (attachRoute owner plan) :=
  fun sources map s _ _ hs => ⟨trivial, hs.attached h (exec_attachRoute sources map s owner plan)⟩

section Entities

theorem allFinite_resolve {sources : Sources} (h : sources.Steady) (kind : CatalogKind) (name : String) :
    AllFinite (sources.catalog.resolve sources.settings kind name).1.entry := by
  unfold Catalog.resolve
  split
  next entry hentry => exact allFinite_option.2 fun _ he => Option.some.inj he ▸ h.entries _ _ _ entry hentry
  next =>
    split
    · exact allFinite_option.2 nofun
    · exact allFinite_option.2 fun entry hentry => h.entries _ _ _ entry hentry

theorem lookUp_yields (kind : CatalogKind) : Yields (fun r => AllFinite r.entry) (lookUp kind name) := by
  unfold lookUp
  refine .bind_of .read fun sources hsources => ?_
  have hresolved := allFinite_resolve hsources kind name
  split
  next r hr => exact .pure (by simpa [hr] using hresolved)
  next r fault hr => exact .bind (.record _) fun _ => .pure (by simpa [hr] using hresolved)

theorem box?_yields : Yields AllFinite (box? node) := by
  refine .optionMapM fun d => .bind_of (value_yields _ _) fun length hlength => ?_
  refine .bind_of (value_yields _ _) fun width hwidth => .bind_of (value_yields _ _) fun height hheight => .pure ?_
  have hbox : AllFinite (⟨length, width, height⟩ : Box) ↔ AllFinite [length, width, height] := Iff.rfl
  simp_all [allFinite_list]

theorem performance?_yields : Yields AllFinite (performance? node) := by
  refine .optionMapM fun d => .bind_of (value_yields _ _) fun x hx => ?_
  refine .bind_of (value_yields _ _) fun y hy => .bind_of (value_yields _ _) fun z hz => .pure ?_
  have hperformance : AllFinite (⟨x, y, z⟩ : Performance) ↔ AllFinite [x, y, z] := Iff.rfl
  simp_all [allFinite_list]

theorem allFinite_numberProperty? (properties : KeyMap String String) :
    AllFinite (numberProperty? properties name) := by
  refine allFinite_option.2 fun x hx => ?_
  obtain ⟨raw, -, rfl⟩ := Option.map_eq_some_iff.1 hx
  exact allFinite_double.2 (Authored.isFinite_value _)

theorem allFinite_topSpeed {sources : Sources} (h : sources.Steady) {p : Performance} (hp : AllFinite p) :
    AllFinite (topSpeed sources.settings p) := by
  have hp' : AllFinite [p.maxSpeed, p.maxAcceleration, p.maxDeceleration] := hp
  unfold topSpeed
  split
  · exact allFinite_list.1 hp' _ (by simp)
  · exact h.numbers.1

theorem allFinite_ofEntry {o : Option CatalogEntry} (h : AllFinite o) : AllFinite (o.bind (·.box)) ∧
    AllFinite (o.bind (·.performance)) := by
  cases o with
  | none => exact ⟨allFinite_option.2 nofun, allFinite_option.2 nofun⟩
  | some entry =>
    have hentry : AllFinite (entry.performance, entry.box) := allFinite_option.1 h entry rfl
    exact (allFinite_pair.1 hentry).symm

theorem allFinite_ofVehicle : AllFinite Box.ofVehicle :=
  allFinite_doubles.2 (by decide)

theorem allFinite_ofObstacle : AllFinite Box.ofObstacle :=
  allFinite_doubles.2 (by decide)

theorem allFinite_noPerformance : AllFinite ({} : Performance) :=
  allFinite_doubles.2 (by decide)

theorem ego_yields : Yields Entity.Steady (ego name object node type) := by
  unfold ego
  refine .bind_of (lookUp_yields _ _) fun resolution hresolution => .bind (properties_reads _) fun properties => ?_
  obtain ⟨hentryBox, hentryPerformance⟩ := allFinite_ofEntry hresolution
  refine .bind (category_reads _ _) fun category => .bind_of (performance?_yields _) fun authored hauthored => ?_
  refine .bind_of (box?_yields _) fun box hbox => .bind (controller?_reads _) fun controller => ?_
  refine .bind_of (.count _) fun id _ => .bind_of .read fun sources hsources => .pure ?_
  have hperformance := allFinite_getD allFinite_noPerformance (allFinite_or hauthored hentryPerformance)
  have hspeed := allFinite_topSpeed hsources hperformance
  exact {
    box := allFinite_getD allFinite_ofVehicle (allFinite_or hbox hentryBox)
    speeds := allFinite_two allFinite_zero hspeed
    profile := hperformance
    placed := nofun }

theorem vehicle_yields : Yields Entity.Steady (vehicle name type node) := by
  unfold vehicle
  refine .bind_of (lookUp_yields _ _) fun resolution hresolution => .bind (properties_reads _) fun properties => ?_
  obtain ⟨hentryBox, hentryPerformance⟩ := allFinite_ofEntry hresolution
  refine .bind_of (performance?_yields _) fun authored hauthored => .bind_of (box?_yields _) fun box hbox => ?_
  refine .bind (behavior_reads _ _) fun behavior => ?_
  refine .bind_of (.count _) fun id _ => .bind_of .read fun sources hsources => .pure ?_
  have hperformance := allFinite_getD allFinite_noPerformance (allFinite_or hentryPerformance hauthored)
  have hspeed := allFinite_topSpeed hsources hperformance
  exact {
    box := allFinite_getD allFinite_ofVehicle (allFinite_or hbox hentryBox)
    speeds := allFinite_two allFinite_zero hspeed
    profile := allFinite_pair.2 ⟨hperformance, allFinite_numberProperty? _ _⟩
    placed := nofun }

theorem pedestrian_yields (standard : Behavior) : Yields Entity.Steady (pedestrian name type node standard) := by
  unfold pedestrian
  refine .bind_of (lookUp_yields _ _) fun resolution hresolution => .bind (properties_reads _) fun properties => ?_
  obtain ⟨hentryBox, -⟩ := allFinite_ofEntry hresolution
  refine .bind_of (box?_yields _) fun box hbox => .bind (behavior_reads _ _) fun behavior => ?_
  refine .bind_of (.count _) fun id _ => .bind_of .read fun sources hsources => .pure ?_
  have hstart := allFinite_getD allFinite_zero (allFinite_numberProperty? "StartV" properties)
  have hmax := allFinite_getD hsources.numbers.2.1
    (allFinite_filter (0.0 ≤ ·) (allFinite_numberProperty? "MaxV" properties))
  have hend : AllFinite endTime := allFinite_double.2 (by decide)
  exact {
    box := allFinite_getD allFinite_ofObstacle (allFinite_or hbox hentryBox)
    speeds := allFinite_two hstart hmax
    profile := allFinite_pair.2 ⟨allFinite_two allFinite_zero hend, allFinite_numberProperty? _ _⟩
    placed := nofun }

theorem obstacle_yields : Yields Entity.Steady (obstacle name type node) := by
  unfold obstacle
  refine .bind_of (lookUp_yields _ _) fun resolution hresolution => .bind_of (box?_yields _) fun box hbox => ?_
  refine .bind_of (.count _) fun id _ => .pure ?_
  exact {
    box := allFinite_getD allFinite_ofObstacle (allFinite_or hbox (allFinite_ofEntry hresolution).1)
    speeds := allFinite_two allFinite_zero allFinite_zero
    profile := nofun
    placed := nofun }

theorem ofVehicle_yields : Yields Entity.Steady (ofVehicle name object e) := by
  unfold ofVehicle
  refine .bind (isEgo_reads _ _) fun b => ?_
  split
  · exact .bind (attr_reads _ _) fun _ => ego_yields _ _ _ _
  · refine .bind (attr_reads _ _) fun type => .bind .read fun sources => ?_
    split
    · exact pedestrian_yields _ _ _ _
    · exact vehicle_yields _ _ _

theorem ofCatalogued_yields (kind : CatalogKind) : Yields Entity.Steady (ofCatalogued name object kind type) := by
  have hvehicle : Yields Entity.Steady (do
      if isEgoName name then ego name object none type
      else if isWalker (← read).settings type then pedestrian name type none .scripted
      else vehicle name type none) := by
    split
    · exact ego_yields _ _ _ _
    · refine .bind .read fun sources => ?_
      split
      · exact pedestrian_yields _ _ _ _
      · exact vehicle_yields _ _ _
  cases kind with
  | pedestrian => exact pedestrian_yields _ _ _ _
  | miscObject => exact obstacle_yields _ _ _
  | vehicle => exact hvehicle
  | ego => exact hvehicle

theorem ofDeclaration_yields (d : Declaration) : Yields Entity.Steady (ofDeclaration name object d) := by
  cases d with
  | vehicle e => exact ofVehicle_yields _ _ _
  | pedestrian e =>
    refine .bind (attr?_reads _ _) fun model => ?_
    split
    · exact pedestrian_yields _ _ _ _
    · exact .bind (attr_reads _ _) fun _ => pedestrian_yields _ _ _ _
  | miscObject e => exact .bind (attr_reads _ _) fun _ => obstacle_yields _ _ _
  | catalogued kind type => exact ofCatalogued_yields _ _ _ _

theorem entity?_yields : Yields (fun o => ∀ entity ∈ o, Entity.Steady entity) (entity? object) := by
  unfold entity?
  refine .bind (attr?_reads _ _) fun name => ?_
  split
  · exact .refuse (by simp)
  · refine .bind (declaration?_reads _) fun d => ?_
    split
    · exact .refuse (by simp)
    · exact .map_of (ofDeclaration_yields _ _ _) fun entity hentity _ h => Option.some.inj h ▸ hentity

theorem entities_yields : Yields (fun _ => True) (entities e) := by
  refine .forM fun object _ => .bind_of (entity?_yields object) fun made hmade => ?_
  split
  next entity =>
    refine .bind .getCast fun c => .bind_of (.modify fun s hs => ?_) fun _ _ => ?_
    · exact { hs with cast := hs.cast.add (hmade entity rfl) }
    · split
      · exact .pure trivial
      · exact warn_yields _ _
  next => exact .pure trivial

end Entities

section Network

variable (known : Approaches)

theorem allFinite_set (names : LightNames) {l : Lights} (name : String) {seconds : Float} (hl : AllFinite l)
    (hseconds : AllFinite seconds) : AllFinite (names.set l name seconds) := by
  have hlights (l : Lights) : AllFinite l ↔ AllFinite l.red ∧ AllFinite l.green ∧ AllFinite l.yellow := by
    have hl : AllFinite l ↔ AllFinite [l.red, l.green, l.yellow] := Iff.rfl
    simp [hl, allFinite_list]
  obtain ⟨hred, hgreen, hyellow⟩ := (hlights l).1 hl
  have hchoice (p : Bool) {x : Float} (hx : AllFinite x) : AllFinite (if p then seconds else x) := by
    split
    · exact hseconds
    · exact hx
  exact (hlights _).2 ⟨hchoice _ hred, hchoice _ hgreen, hchoice _ hyellow⟩

theorem lights_finite (names : LightNames) (phases : List Element) : Gives AllFinite (lights names phases) := by
  have hfold (l : Lights) (hl : AllFinite l) : Gives AllFinite (phases.foldlM (fun l phase =>
      return names.set l (← attr phase "name") (← value phase "duration")) l) := by
    induction phases generalizing l with
    | nil => exact .pure hl
    | cons phase phases ih =>
      rw [List.foldlM_cons]
      have hset : Gives AllFinite (do
          return names.set l (← attr phase "name") (← value phase "duration") : Staging Lights) :=
        .bind fun name => .bind_of (.bind fun n => .pure (allFinite_double.2 n.isFinite_value)) fun seconds hseconds =>
          .pure (allFinite_set names name hl hseconds)
      exact .bind_of hset ih
  exact hfold {} (allFinite_doubles.2 (by decide))

theorem allFinite_approach (id : Nat) (owner start between : String) (stop : Option String) :
    AllFinite (⟨id, owner, .approach, start, stop, between, []⟩ : Route) :=
  allFinite_pair.2 ⟨allFinite_count id, allFinite_list.2 (by simp)⟩

theorem approach_yields (compact : KeyMap String String) :
    Yields (fun _ => True) (approach name compact known) := by
  unfold approach
  split
  · exact .pure trivial
  · split
    · exact .pure trivial
    · refine .bind_of (.count _) fun id _ => .bind_of (.modify fun s hs => ?_) fun _ _ => .pure trivial
      exact { hs with routes := hs.routes.insert (allFinite_count _) (allFinite_approach _ _ _ _ _) }

theorem allFinite_signalPlan {p : SignalPlan} : AllFinite p ↔ AllFinite p.lights := by
  have hplan : AllFinite p ↔ AllFinite (p.id, p.lights, p.route) := Iff.rfl
  simp [hplan, allFinite_pair]

theorem signalPlan_yields (active : Option String) : Yields (fun r => AllFinite r.1) (signalPlan active e known) := by
  have hlights (names : LightNames) : Yields AllFinite (lights names (e.childrenNamed "Phase")) :=
    .of_gives (lights_reads _ _) (lights_finite _ _)
  unfold signalPlan
  refine .bind (attr_reads _ _) fun controller => .bind_of (.count _) fun id _ => ?_
  split
  · unfold compactPlan
    refine .bind_of (hlights _) fun lights hlights => .get_bind fun s => ?_
    exact .bind_of (approach_yields _ _ _) fun _ _ => .pure (allFinite_signalPlan.2 hlights)
  · exact .bind_of (hlights _) fun lights hlights => .pure (allFinite_signalPlan.2 hlights)

theorem signalPlans_yields (active : Option String) (es : List Element) :
    Yields (fun l => ∀ p ∈ l, AllFinite p) (signalPlans active known es) := by
  induction es generalizing known with
  | nil => exact .pure (by simp)
  | cons e es ih =>
    exact .bind_of (signalPlan_yields e known active) fun r hr => .bind_of (ih r.2) fun l hl =>
      .pure (List.forall_mem_cons.2 ⟨hr, hl⟩)

theorem signals_yields : Yields AllFinite (signals e) := by
  unfold signals
  split
  · exact .pure allFinite_empty
  · refine .get_bind fun s => .bind_of (signalPlans_yields _ _ _) fun plans hplans => .pure ?_
    refine allFinite_ofList fun p hp => ?_
    obtain ⟨plan, hplan, rfl⟩ := List.mem_map.1 hp
    exact ⟨allFinite_count _, hplans plan hplan⟩

theorem roadNetwork_yields : Yields (fun _ => True) (roadNetwork e) := by
  have hsignals : Yields (fun _ => True) (do
      let signals ← signals e
      modify fun s => { s with signals }) :=
    .bind_of (signals_yields e) fun _ hsignals => .modify fun _ hs => { hs with signals := hsignals }
  unfold roadNetwork
  split
  · exact .bind (mapFile?_reads _) fun _ => .bind_of (.modify fun _ hs => { hs with }) fun _ _ => hsignals
  · exact hsignals

theorem header_yields : Yields (fun _ => True) (header e) := by
  unfold header
  exact .bind (attr_reads _ _) fun _ => .bind_of (.modify fun _ hs => { hs with }) fun _ _ =>
    .bind (attr_reads _ _) fun _ => .modify fun _ hs => { hs with }

end Network

section Init

theorem weatherOf_yields : Yields AllFinite (weatherOf e) := by
  have hkilometres (x : Float) (hx : AllFinite x) : AllFinite (x / 1000.0) :=
    allFinite_double.2 (Number.isFinite_div (allFinite_double.1 hx) (by decide))
  have hcelsius (x : Float) (hx : AllFinite x) : AllFinite (x - freezingPoint) :=
    allFinite_double.2 (Number.isFinite_sub (allFinite_double.1 hx) ⟨by decide, by decide⟩)
  have hnumber? (name : String) : AllFinite (((declared e).get? name).map lenient) := by
    refine allFinite_option.2 fun x hx => ?_
    obtain ⟨raw, -, rfl⟩ := Option.map_eq_some_iff.1 hx
    exact allFinite_double.2 (Authored.isFinite_value _)
  unfold weatherOf
  refine .bind (.optionMapM fun _ => attr_reads _ _) fun dateTime => ?_
  refine .bind_of (.optionMapM fun _ => value_yields _ _) fun range hrange => ?_
  refine .bind (.optionMapM fun _ => attr_reads _ _) fun kind => ?_
  refine .bind_of (.optionMapM fun _ => value_yields _ _) fun intensity hintensity => ?_
  refine .bind (.optionMapM fun _ => attr_reads _ _) fun clouds => .pure ?_
  have hweather (w : Weather) : AllFinite w ↔ AllFinite [w.visibility, w.intensity, w.windSpeed, w.temperature] := Iff.rfl
  rw [hweather, allFinite_list]
  simp only [List.forall_mem_cons, List.not_mem_nil, false_imp_iff, implies_true, and_true]
  refine ⟨allFinite_getD allFinite_zero (allFinite_map hkilometres hrange), allFinite_getD allFinite_zero hintensity, ?_, ?_⟩
  · exact allFinite_getD (allFinite_double.2 (by decide)) (hnumber? _)
  · exact allFinite_getD (allFinite_double.2 (by decide))
      (allFinite_map hcelsius (allFinite_or (hnumber? "temperature") (hnumber? "tmperature")))

theorem weather?_yields : Yields AllFinite (weather? e) :=
  .bind (environment?_reads e) fun _ => .optionMapM weatherOf_yields

theorem signalAction_yields : Yields (fun _ => True) (signalAction e) := by
  unfold signalAction
  refine .bind (attr_reads _ _) fun _ => .bind (attr_reads _ _) fun phase => .get_bind fun s => ?_
  split
  · refine .modify fun s hs => { hs with signals := hs.signals.modify (fun p hp => ?_) _ }
    exact allFinite_signalPlan.2 (allFinite_signalPlan.1 hp)
  · exact warn_yields _ _

theorem globalAction_yields : Yields (fun _ => True) (globalAction e) := by
  unfold globalAction
  dsimp only
  split
  case' h_1 => refine .bind_of (signalAction_yields _) fun _ _ => ?_
  all_goals
    split
    · refine .bind_of (weather?_yields _) fun w hw => ?_
      split
      next w =>
        exact .modify fun _ hs => { hs with
          weather := hs.weather.insert (allFinite_word _) (allFinite_option.1 hw w rfl) }
      next => exact .pure trivial
    · exact .pure trivial

theorem teleport_yields : Yields (fun _ => True) (teleport owner e) := by
  unfold teleport
  split
  · exact warn_yields _ _
  · refine .bind_of (spot?_yields _) fun found hfound => ?_
    split
    · exact .pure trivial
    next spot =>
      refine .bind .getCast fun c => ?_
      split
      · exact warn_yields _ _
      · refine .get_bind fun s => modifyEntity_yields _ fun entity he => { he with placed := fun p hp => ?_ }
        exact Option.some.inj hp ▸ Spot.placed_pose (allFinite_option.1 hfound spot rfl) _

theorem allFinite_larger {x y : Float} (hx : AllFinite x) (hy : AllFinite y) : AllFinite (larger x y) := by
  unfold larger
  split
  · exact hy
  · split
    · exact hx
    · split
      · exact hy
      · exact hx

theorem startSpeed_yields : Yields (fun _ => True) (startSpeed owner e) := by
  refine .bind_of (value_yields _ _) fun speed hspeed => modifyEntity_yields _ fun entity he => { he with
    speeds := allFinite_two hspeed (allFinite_larger ?_ hspeed) }
  exact allFinite_list.1 he.speeds _ (by simp)

theorem startController_yields : Yields (fun _ => True) (startController owner e) := by
  unfold startController
  refine .bind (isTrue_reads _ _) fun lateral => .bind (isTrue_reads _ _) fun longitudinal => .bind .getCast fun c => ?_
  split
  · refine modifyEntity_yields _ fun entity he => ?_
    unfold activateEgo
    split
    next p hp =>
      have hprofile : AllFinite (Profile.ego p) := hp ▸ he.profile
      exact { he with profile := hprofile }
    next => exact he
  · exact warn_yields _ _

theorem initRouting_yields : Yields (fun _ => True) (initRouting owner e) := by
  unfold initRouting
  refine .bind_of (routePlan_yields _ _) fun plan hplan => ?_
  split
  next plan => exact .map_of (attachRoute_yields _ (allFinite_option.1 hplan plan rfl)) fun _ _ => trivial
  next => exact .pure trivial

theorem initAction_yields : Yields (fun _ => True) (initAction owner e) := by
  unfold initAction
  split
  · exact teleport_yields _ _
  · exact startSpeed_yields _ _
  · exact startController_yields _ _
  · exact warn_yields _ _

theorem initPrivate_yields : Yields (fun _ => True) (initPrivate e) := by
  unfold initPrivate
  refine .bind (attr_reads _ _) fun owner => .bind .getCast fun c => ?_
  split
  · exact warn_yields _ _
  · exact .bind_of (.forM fun action _ => initAction_yields owner action) fun _ _ =>
      .forM fun routing _ => initRouting_yields owner routing

theorem implicitRoutes_yields : Yields (fun _ => True) implicitRoutes := by
  refine .bind_of .getCast fun c hc => .forM fun p hp => ?_
  obtain ⟨entity, hentity, hplan⟩ := List.mem_filterMap.1 hp
  split at hplan
  · cases hplan
  · obtain ⟨pose, hpose, rfl⟩ := Option.map_eq_some_iff.1 hplan
    have hspot := Spot.allFinite_ofPose ((hc.all hentity).placed pose hpose)
    refine .map_of (attachRoute_yields _ (allFinite_plan.2 (allFinite_list.2 ?_))) fun _ _ => trivial
    simpa using hspot

theorem init_yields : Yields (fun _ => True) (init e) := by
  unfold init
  split
  · exact .pure trivial
  · exact .bind_of (.forM fun action _ => globalAction_yields action) fun _ _ =>
      .bind_of (.forM fun owner _ => initPrivate_yields owner) fun _ _ => implicitRoutes_yields

theorem opening_yields (root : Element) (sections : Sections) : Yields (fun _ => True) (opening root sections) := by
  have hentities : Yields (fun _ => True) (do
      entities sections.entities
      init sections.init
      modify fun s => { s with parameters := s.parameters.lock }) :=
    .bind_of (entities_yields _) fun _ _ => .bind_of (init_yields _) fun _ _ => .modify fun _ hs => { hs with }
  unfold opening
  refine .bind_of (header_yields _) fun _ _ => ?_
  dsimp only
  split
  case' h_1 => refine .bind_of (.modify fun _ hs => { hs with }) fun _ _ => ?_
  all_goals
    split
    · exact .bind_of (roadNetwork_yields _) fun _ _ => hentities
    · exact hentities

end Init

end Staging

theorem Stage.Steady.start : ({} : Stage).Steady where
  cast := by
    intro kind
    cases kind <;> simp [Cast.ofKind]
  routes := allFinite_empty
  signals := allFinite_empty
  weather := allFinite_empty
  merges := allFinite_empty.insert (allFinite_text _) (allFinite_list.2 (by simp [Timeline.empty]))

theorem openStage_steady {sources : Sources} {map : RoadMap} (hsources : sources.Steady) (hmap : map.Steady)
    (root : Element) (sections : Sections) : (openStage sources map root sections).Steady :=
  (Staging.opening_yields root sections sources map {} hsources hmap .start).2

end Scenography
