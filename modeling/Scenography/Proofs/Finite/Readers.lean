import Scenography.Proofs.Finite.Values
import Scenography.Proofs.Walk

namespace Scenography

open Markup (Element)
open Measured (quantities)

section Givens

instance : Measured Settings where
  quantities s := quantities [s.vehicleSpeed, s.pedestrianSpeed, s.pointRadius]

instance : Measured CatalogEntry where
  quantities e := quantities (e.performance, e.box)

structure Sources.Steady (sources : Sources) : Prop where
  settings : AllFinite sources.settings
  entries : ∀ kind name dir entry, sources.catalog.entry? kind name dir = some entry → AllFinite entry

theorem Sources.Steady.numbers {sources : Sources} (h : sources.Steady) : AllFinite sources.settings.vehicleSpeed ∧
    AllFinite sources.settings.pedestrianSpeed ∧ AllFinite sources.settings.pointRadius := by
  have hnumbers : AllFinite [sources.settings.vehicleSpeed, sources.settings.pedestrianSpeed,
      sources.settings.pointRadius] := h.settings
  simpa [allFinite_list] using hnumbers

/-- The answers of a map are finite, and to the globe it leads from finite coordinates only. -/
structure RoadMap.Steady (map : RoadMap) : Prop where
  onRoad : ∀ road s t p, map (.onRoad road s t) = some p → AllFinite p
  onLane : ∀ road lane s t p, map (.onLane road lane s t) = some p → AllFinite p
  nearest : ∀ lon lat p, map (.nearest lon lat) = some p → AllFinite p
  toGlobe : ∀ x y z p, map (.toGlobe x y z) = some p → AllFinite [x.toFloat, y.toFloat, z.toFloat] ∧ AllFinite p
  ahead : ∀ lon lat lane distance p, map (.ahead lon lat lane distance) = some p → AllFinite p

end Givens

def Entity.measures (e : Entity) : Box × List Float × Profile × Option Pose :=
  (e.box, [e.startSpeed, e.maxSpeed], e.profile, e.pose)

structure Entity.Steady (e : Entity) : Prop where
  box : AllFinite e.box
  speeds : AllFinite [e.startSpeed, e.maxSpeed]
  profile : AllFinite e.profile
  placed : ∀ p, e.pose = some p → p.Placed

theorem Entity.Steady.congr {e e' : Entity} (h : e.Steady) (hm : e'.measures = e.measures) : e'.Steady := by
  simp only [Entity.measures, Prod.mk.injEq] at hm
  obtain ⟨hbox, hspeeds, hprofile, hpose⟩ := hm
  exact ⟨hbox ▸ h.box, hspeeds ▸ h.speeds, hprofile ▸ h.profile, hpose ▸ h.placed⟩

def Cast.Steady (c : Cast) : Prop :=
  ∀ kind i e, (c.ofKind kind).get? i = some e → e.Steady

theorem Cast.Steady.find? {c : Cast} (h : c.Steady) {name : String} {e : Entity} (he : c.find? name = some e) :
    e.Steady := by
  obtain ⟨kind, i, -, hget⟩ := Cast.find?_eq_some_iff.1 he
  exact h kind i e hget

/-- All doubles of a stage are finite, apart from the ways that entities face, events, and what timelines
have of these. -/
structure Stage.Steady (s : Stage) : Prop where
  cast : s.cast.Steady
  routes : AllFinite s.routes
  signals : AllFinite s.signals
  weather : AllFinite s.weather
  merges : AllFinite s.timelines.merges

namespace Staging

variable {α β : Type}

def Yields (Q : α → Prop) (m : Staging α) : Prop :=
  ∀ sources map s, sources.Steady → RoadMap.Steady map → Stage.Steady s →
    Q (exec sources map m s).1 ∧ (exec sources map m s).2.Steady

def IfOk (Q : β → Prop) (r : Except Fault β) : Prop :=
  ∀ b, r = .ok b → Q b

namespace Yields

variable {P : α → Prop} {Q : β → Prop} {m : Staging α} {f : α → Staging β}

theorem of_reads (hm : Reads m) (hq : ∀ sources map s, sources.Steady → RoadMap.Steady map → Stage.Steady s →
    P (exec sources map m s).1) : Yields P m :=
  fun sources map s hsources hmap hs => ⟨hq sources map s hsources hmap hs,
    hm.keeps (fun _ _ ht => { ht with }) sources map s hs⟩

theorem of_gives (hm : Reads m) (hq : Gives P m) : Yields P m :=
  .of_reads hm fun sources map s _ _ _ => hq sources map s

protected theorem pure {b : β} (h : Q b) : Yields Q (pure b) :=
  fun _ _ _ _ _ hs => ⟨h, hs⟩

theorem bind_of (hm : Yields P m) (hf : ∀ a, P a → Yields Q (f a)) : Yields Q (m >>= f) := by
  intro sources map s hsources hmap hs
  obtain ⟨ha, hs'⟩ := hm sources map s hsources hmap hs
  rw [exec_bind]
  exact hf _ ha sources map _ hsources hmap hs'

protected theorem bind (hm : Reads m) (hf : ∀ a, Yields Q (f a)) : Yields Q (m >>= f) :=
  .bind_of (.of_gives (P := fun _ => True) hm fun _ _ _ => trivial) fun a _ => hf a

theorem imp {Q' : β → Prop} {m : Staging β} (h : Yields Q m) (hq : ∀ b, Q b → Q' b) : Yields Q' m :=
  fun sources map s hsources hmap hs => (h sources map s hsources hmap hs).imp_left (hq _)

theorem map_of {g : α → β} (hm : Yields P m) (h : ∀ a, P a → Q (g a)) : Yields Q (g <$> m) := by
  rw [← bind_pure_comp]
  exact .bind_of hm fun a ha => .pure (h a ha)

theorem refuse {Q : Option α → Prop} {code message : String} (h : Q none) : Yields Q (refuse code message) :=
  .of_gives (.refuse code message) (.refuse h)

theorem optionMapM [Measured β] {o : Option α} (hf : ∀ a, Yields AllFinite (f a)) : Yields AllFinite (o.mapM f) := by
  cases o with
  | none => exact .pure (allFinite_option.2 nofun)
  | some a => exact .map_of (hf a) fun b hb => allFinite_option.2 fun _ h => Option.some.inj h ▸ hb

theorem filterMap {f : α → Staging (Option β)} {l : List α} (hf : ∀ a, Yields (fun o => ∀ b ∈ o, Q b) (f a)) :
    Yields (fun bs => ∀ b ∈ bs, Q b) (filterMap f l) := by
  induction l with
  | nil => exact .pure (by simp)
  | cons a l ih =>
    refine .bind_of (hf a) fun o ho => .bind_of ih fun bs hbs => .pure fun b hb => ?_
    rcases List.mem_append.1 hb with hb | hb
    · exact ho b (Option.mem_toList.1 hb)
    · exact hbs b hb

theorem listMapM {l : List α} (hf : ∀ a ∈ l, Yields Q (f a)) : Yields (fun bs => ∀ b ∈ bs, Q b) (l.mapM f) := by
  induction l with
  | nil => exact .pure (by simp)
  | cons a l ih =>
    rw [List.mapM_cons]
    obtain ⟨hfirst, hrest⟩ := List.forall_mem_cons.1 hf
    exact .bind_of hfirst fun b hb => .bind_of (ih hrest) fun bs hbs => .pure (List.forall_mem_cons.2 ⟨hb, hbs⟩)

theorem forM {f : α → Staging PUnit} {l : List α} (hf : ∀ a ∈ l, Yields (fun _ => True) (f a)) :
    Yields (fun _ => True) (l.forM f) := by
  induction l with
  | nil => exact .pure trivial
  | cons a l ih =>
    obtain ⟨hfirst, hrest⟩ := List.forall_mem_cons.1 hf
    exact .bind_of hfirst fun _ _ => ih hrest

theorem getCast : Yields Cast.Steady getCast :=
  fun _ _ _ _ _ hs => ⟨hs.cast, hs⟩

theorem get_bind {f : Stage → Staging β} (hf : ∀ s, Yields Q (f s)) : Yields Q (get >>= f) :=
  .bind_of (P := fun _ => True) (fun _ _ _ _ _ hs => ⟨trivial, hs⟩) fun s _ => hf s

theorem read : Yields Sources.Steady read :=
  .of_reads .read fun _ _ _ hsources _ _ => hsources

theorem modify {g : Stage → Stage} (h : ∀ s, Stage.Steady s → (g s).Steady) :
    Yields (fun _ => True) (modify g : Staging Unit) :=
  fun _ _ s _ _ hs => ⟨trivial, h s hs⟩

theorem count (next : Counters → α × Counters) : Yields (fun _ => True) (count next) :=
  fun _ _ _ _ _ hs => ⟨trivial, { hs with }⟩

section Attempts

variable {x : Attempt α} {f : α → Attempt β}

theorem run_pure {b : β} (h : Q b) : Yields (IfOk Q) (pure b : Attempt β).run :=
  .pure fun _ hb => Except.ok.inj hb ▸ h

theorem run_throw (fault : Fault) : Yields (IfOk Q) (throw fault : Attempt β).run :=
  .pure nofun

theorem run_lift {m : Staging β} (h : Yields Q m) : Yields (IfOk Q) (liftM m : Attempt β).run :=
  .map_of h fun _ hb _ h => Except.ok.inj h ▸ hb

theorem run_read : Yields (IfOk Sources.Steady) (MonadReader.read : Attempt Sources).run :=
  .run_lift read

theorem run_bind_of (hx : Yields (IfOk P) x.run) (hf : ∀ a, P a → Yields (IfOk Q) (f a).run) :
    Yields (IfOk Q) (x >>= f).run := by
  rw [ExceptT.run_bind]
  refine .bind_of hx fun r hr => ?_
  cases r with
  | ok a => exact hf a (hr a rfl)
  | error fault => exact .pure nofun

theorem run_bind (hx : Reads x.run) (hf : ∀ a, Yields (IfOk Q) (f a).run) : Yields (IfOk Q) (x >>= f).run :=
  .run_bind_of (P := fun _ => True) (.of_gives hx fun _ _ _ _ _ => trivial) fun a _ => hf a

theorem run_listMapM {l : List α} (hf : ∀ a, Yields (IfOk Q) (f a).run) :
    Yields (IfOk fun bs => ∀ b ∈ bs, Q b) (l.mapM f).run := by
  induction l with
  | nil => exact .run_pure (by simp)
  | cons a l ih =>
    rw [List.mapM_cons]
    exact .run_bind_of (hf a) fun b hb => .run_bind_of ih fun bs hbs => .run_pure (List.forall_mem_cons.2 ⟨hb, hbs⟩)

end Attempts

end Yields

theorem value_yields (e : Element) (name : String) : Yields AllFinite (value e name) :=
  .of_gives (value_reads e name) (.bind fun n => .pure (allFinite_double.2 n.isFinite_value))

section Positions

variable (shape : Element)

theorem onMap_yields {found : Option Spot} (h : AllFinite found) : Yields AllFinite (onMap shape found) := by
  unfold onMap
  split
  · exact .pure h
  · exact .refuse (allFinite_option.2 nofun)

theorem nearest_yields (lon lat : Float) : Yields AllFinite (ask (.nearest lon lat)) :=
  .of_reads (.ask _) fun _ _ _ _ hmap _ => allFinite_option.2 fun p hp => hmap.nearest _ _ p hp

theorem onLane_yields (road : UInt64) (lane : Int64) (s t : Float) : Yields AllFinite (ask (.onLane road lane s t)) :=
  .of_reads (.ask _) fun _ _ _ _ hmap _ => allFinite_option.2 fun p hp => hmap.onLane _ _ _ _ p hp

theorem onRoad_yields (road : UInt64) (s t : Float) : Yields AllFinite (ask (.onRoad road s t)) :=
  .of_reads (.ask _) fun _ _ _ _ hmap _ => allFinite_option.2 fun p hp => hmap.onRoad _ _ _ p hp

theorem toGlobe_yields (x y z : Float) :
    Yields (fun o => ∀ p ∈ o, AllFinite z ∧ AllFinite p) (ask (.toGlobe x y z)) := by
  refine .of_reads (.ask _) fun _ map _ _ hmap _ p hp => ?_
  obtain ⟨hxyz, hp⟩ := hmap.toGlobe _ _ _ p hp
  have hz := allFinite_doubles.1 hxyz (Number.Bits.toFloat z) (by simp)
  rw [Number.Bits.ofFloat, Number.Bits.toFloat, Float.ofBits_toBits] at hz
  exact ⟨allFinite_double.2 hz, hp⟩

theorem allFinite_spotOf {lon lat alt heading : Float} {lane : Option (LanePoint Float)}
    (h : AllFinite [lon, lat, alt, heading]) (hlane : AllFinite lane) :
    AllFinite (some (⟨lon, lat, alt, heading, lane⟩ : Spot)) :=
  allFinite_option.2 fun _ hs => Option.some.inj hs ▸ allFinite_spot.2 ⟨h, hlane⟩

theorem allFinite_ofLane? {found : Option (LanePoint Float)} {heading : Option Float} (h : AllFinite found)
    (hheading : AllFinite heading) : AllFinite (found.map (Spot.ofLane · heading)) := by
  refine allFinite_option.2 fun s hs => ?_
  obtain ⟨p, hp, rfl⟩ := Option.map_eq_some_iff.1 hs
  exact Spot.allFinite_ofLane (allFinite_option.1 h p hp) hheading

theorem worldSpot_yields : Yields AllFinite (worldSpot shape) := by
  have hspot {lon lat alt heading : Float} (h : AllFinite [lon, lat, alt, heading]) :
      Yields AllFinite (do
        let lane ← ask (.nearest lon lat)
        return some (⟨lon, lat, alt, heading, lane⟩ : Spot)) :=
    .bind_of (nearest_yields lon lat) fun lane hlane => .pure (allFinite_spotOf h hlane)
  unfold worldSpot
  refine .bind_of (value_yields _ _) fun x hx => .bind_of (value_yields _ _) fun y hy => ?_
  refine .bind_of (value_yields _ _) fun z hz => .bind_of (value_yields _ _) fun heading hheading => .get_bind fun _ => ?_
  split
  · exact hspot (by simp [allFinite_list, *])
  · refine .bind_of (toGlobe_yields x y z) fun o ho => ?_
    split
    next p =>
      obtain ⟨-, hp⟩ := ho p rfl
      rw [allFinite_point] at hp
      exact hspot (by simp_all [allFinite_list])
    next => exact hspot (by simp [allFinite_list, *])

theorem relativeWorldSpot_yields : Yields AllFinite (relativeWorldSpot shape) := by
  have hnone : Yields AllFinite (return none : Staging (Option Spot)) := .pure (allFinite_option.2 nofun)
  unfold relativeWorldSpot
  refine .bind (anchor?_reads _) fun a => ?_
  split
  · exact hnone
  · refine .bind (.ask _) fun p => ?_
    split
    · exact hnone
    · refine .bind (value_reads _ _) fun dz => .bind (value_reads _ _) fun dx => .bind (value_reads _ _) fun dy => ?_
      -- the sums may overflow, but then the map has no answer
      refine .bind_of (toGlobe_yields _ _ _) fun o ho => ?_
      split
      · exact hnone
      next p =>
        obtain ⟨halt, hp⟩ := ho p rfl
        rw [allFinite_point] at hp
        refine .bind_of (nearest_yields p.lon p.lat) fun lane hlane => .pure (allFinite_spotOf ?_ hlane)
        have hzero : AllFinite (0.0 : Float) := allFinite_double.2 (by decide)
        simp_all [allFinite_list]

theorem heading?_yields : Yields AllFinite (heading? shape) :=
  .optionMapM fun _ => value_yields _ _

theorem laneSpot_yields : Yields AllFinite (laneSpot shape) := by
  unfold laneSpot
  refine .bind (value_reads _ _) fun _ => .bind (value_reads _ _) fun _ => .bind (value_reads _ _) fun _ => ?_
  refine .bind (value_reads _ _) fun _ => .bind_of (heading?_yields _) fun heading hheading => ?_
  exact .bind_of (onLane_yields _ _ _ _) fun found hfound => .pure (allFinite_ofLane? hfound hheading)

theorem relativeLaneSpot_yields (a : Pose) : Yields AllFinite (relativeLaneSpot shape a) := by
  have hlane (road : UInt64) (lane : Int64) (s t : Float) : Yields AllFinite (do
      return (← ask (.onLane road lane s t)).map (Spot.ofLane · none) : Staging (Option Spot)) :=
    .bind_of (onLane_yields road lane s t) fun _ hfound => .pure (allFinite_ofLane? hfound (allFinite_option.2 nofun))
  unfold relativeLaneSpot
  refine .bind (value_reads _ _) fun _ => .bind (.summed _) fun _ => .bind (value_reads _ _) fun _ => ?_
  dsimp only
  split
  · exact .bind (value_reads _ _) fun _ => hlane _ _ _ _
  · exact hlane _ _ _ _

theorem roadSpot_yields : Yields AllFinite (roadSpot shape) := by
  unfold roadSpot
  refine .bind (value_reads _ _) fun _ => .bind (value_reads _ _) fun _ => .bind (value_reads _ _) fun _ => ?_
  exact .bind_of (onRoad_yields _ _ _) fun _ hfound => .pure (allFinite_ofLane? hfound (allFinite_option.2 nofun))

theorem relativeRoadSpot_yields (a : Pose) : Yields AllFinite (relativeRoadSpot shape a) := by
  unfold relativeRoadSpot
  refine .bind (value_reads _ _) fun _ => .bind (value_reads _ _) fun _ => ?_
  exact .bind_of (onLane_yields _ _ _ _) fun _ hfound => .pure (allFinite_ofLane? hfound (allFinite_option.2 nofun))

theorem fromAnchor_yields {f : Pose → Staging (Option Spot)} (hf : ∀ a, Yields AllFinite (f a)) :
    Yields AllFinite (fromAnchor shape f) := by
  unfold fromAnchor
  refine .bind (anchor?_reads _) fun a => ?_
  split
  · exact .pure (allFinite_option.2 nofun)
  · exact .bind_of (hf _) fun _ hfound => onMap_yields shape hfound

theorem shapeSpot_yields : Yields AllFinite (shapeSpot shape) := by
  unfold shapeSpot
  split
  · exact .bind_of (worldSpot_yields shape) fun _ => onMap_yields shape
  · exact .bind_of (relativeWorldSpot_yields shape) fun _ => onMap_yields shape
  · exact .bind_of (laneSpot_yields shape) fun _ => onMap_yields shape
  · exact fromAnchor_yields shape (relativeLaneSpot_yields shape)
  · exact .bind_of (roadSpot_yields shape) fun _ => onMap_yields shape
  · exact fromAnchor_yields shape (relativeRoadSpot_yields shape)
  · exact .refuse (allFinite_option.2 nofun)

theorem spot?_yields (position : Element) : Yields AllFinite (spot? position) := by
  unfold spot?
  split
  · exact .refuse (allFinite_option.2 nofun)
  · exact shapeSpot_yields _

end Positions

section Plans

variable (e : Element)

theorem allFinite_plan {kind : RouteKind} {spots : List Spot} :
    AllFinite (⟨kind, spots⟩ : RoutePlan) ↔ AllFinite spots :=
  Iff.rfl

theorem spots_yields (holders : List Element) : Yields AllFinite (spots holders) :=
  (Yields.filterMap fun p => (spot?_yields p).imp fun _ => allFinite_option.1).imp fun _ => allFinite_list.2

theorem planned_yields {kind : RouteKind} {o : Option Element} {holders : Element → List Element} :
    Yields AllFinite (o.mapM fun e => return (⟨kind, ← spots (holders e)⟩ : RoutePlan)) :=
  .optionMapM fun _ => .bind_of (spots_yields _) fun _ hspots => .pure hspots

theorem assignedPlan_yields : Yields AllFinite (assignedPlan e) := by
  unfold assignedPlan
  dsimp only
  split
  · exact .bind (.pure _) fun _ => planned_yields
  · exact .bind (catalogued?_reads _ _) fun _ => planned_yields

theorem trajectoryPlan_yields : Yields AllFinite (trajectoryPlan e) :=
  .bind (trajectory?_reads e) fun _ => planned_yields

theorem acquiredPlan_yields (owner : String) : Yields AllFinite (acquiredPlan owner e) := by
  unfold acquiredPlan
  refine .bind_of .getCast fun c hc => ?_
  have hpose : ∀ spot ∈ (((c.find? owner).bind (·.pose)).map Spot.ofPose).toList, AllFinite spot := by
    intro spot hspot
    obtain ⟨p, hp, rfl⟩ := Option.map_eq_some_iff.1 (Option.mem_toList.1 hspot)
    obtain ⟨entity, hfind, hplaced⟩ := Option.bind_eq_some_iff.1 hp
    exact Spot.allFinite_ofPose ((hc.find? hfind).placed p hplaced)
  have hplan {goal : Option Spot} (h : AllFinite goal) : AllFinite (⟨.acquired,
      (((c.find? owner).bind (·.pose)).map Spot.ofPose).toList ++ goal.toList⟩ : RoutePlan) := by
    refine allFinite_plan.2 (allFinite_list.2 fun spot hspot => ?_)
    rcases List.mem_append.1 hspot with hspot | hspot
    · exact hpose spot hspot
    · exact allFinite_option.1 h spot (Option.mem_toList.1 hspot)
  dsimp only
  split
  · exact .bind_of (spot?_yields _) fun goal hgoal => .pure (hplan hgoal)
  · exact .pure (hplan (allFinite_option.2 nofun))

theorem routePlan_yields (owner : String) : Yields AllFinite (routePlan owner e) := by
  unfold routePlan
  split
  · exact assignedPlan_yields _
  · exact trajectoryPlan_yields _
  · exact .bind_of (acquiredPlan_yields _ owner) fun plan hplan =>
      .pure (allFinite_option.2 fun _ h => Option.some.inj h ▸ hplan)
  · exact .refuse (allFinite_option.2 nofun)

end Plans

end Staging

end Scenography
