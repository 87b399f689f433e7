import Scenography.Proofs.Finite.Values
import Scenography.Proofs.Walkers

namespace Scenography

open Markup (Element)
open Timelines (store?)

variable {π : Type}

namespace Timelines

def All (Q : Node π → Prop) (m : KeyMap String (Timeline π)) : Prop :=
  ∀ p ∈ m.entries, ∀ n ∈ p.2.nodes, Q n

variable {Q Q' : Node π → Prop} {m : KeyMap String (Timeline π)}

theorem All.imp (h : All Q m) (hq : ∀ n, Q n → Q' n) : All Q' m :=
  fun p hp n hn => hq n (h p hp n hn)

theorem All.store (h : All Q m) (id : String) {cue : Cue} {payload : π} (hnew : Q (cue.node payload)) :
    All Q ((store? m id cue payload).getD m) := by
  unfold store?
  cases hadd : ((m.get? id).getD (.empty id)).add? { cue, payload } with
  | none => exact h
  | some t =>
    intro p hp n hn
    rcases KeyMap.mem_place hp with rfl | hp
    · rcases (Timeline.mem_of_add? hadd n).1 hn with rfl | hold
      · exact hnew
      · cases hid : m.get? id with
        | none => simp [hid, Timeline.empty] at hold
        | some t' =>
          rw [hid, Option.getD_some] at hold
          exact h (id, t') (KeyMap.get?_eq_some_iff.1 hid) n hold
    · exact h p hp n hn

theorem all_start : All Q (∅ : KeyMap String (Timeline π)) ∧
    All Q ((∅ : KeyMap String (Timeline π)).insert Counters.sharedTimeline (.empty Counters.sharedTimeline)) := by
  refine ⟨nofun, fun p hp n hn => ?_⟩
  rcases KeyMap.mem_place hp with rfl | hp
  · cases hn
  · cases hp

theorem allFinite_node [Measured π] {n : Node π} : AllFinite n ↔ AllFinite n.cue.value ∧ AllFinite n.payload := by
  have hnode : AllFinite n ↔ AllFinite (n.cue.value, n.count, n.payload) := Iff.rfl
  simp [hnode, allFinite_pair]

theorem allFinite_iff_all [Measured π] : AllFinite m ↔ All AllFinite m := by
  have htimeline (t : Timeline π) : AllFinite t ↔ AllFinite t.nodes := Iff.rfl
  simp [allFinite_keyMap, htimeline, allFinite_list, All]

end Timelines

namespace Feeding

theorem addRamp_timelines (f : Feeding) (cue : Cue) (r : Ramp) : ∃ id, (f.addRamp cue r).2.timelines =
    { f.timelines with ramps := (store? f.timelines.ramps id cue r).getD f.timelines.ramps } := by
  cases h : Timelines.own? f.entity.rampTimeline with
  | some id => exact ⟨id, by rw [addRamp_of_own h]⟩
  | none => exact ⟨_, by rw [addRamp_of_none h]⟩

theorem addMerge_timelines (f : Feeding) (cue : Cue) (m : Merge) : ∃ id, (f.addMerge cue m).2.timelines =
    { f.timelines with merges := (store? f.timelines.merges id cue m).getD f.timelines.merges } := by
  cases h : Timelines.own? f.entity.mergeTimeline with
  | some id => exact ⟨id, by rw [addMerge_of_own h]⟩
  | none => exact ⟨_, by rw [addMerge_of_none h]⟩

end Feeding

def Cast.Faces (c : Cast) (x : Float) : Prop :=
  ∃ kind i e, (c.ofKind kind).get? i = some e ∧ e.face = x

theorem Cast.Faces.same {c d : Cast} (hcd : Same Entity.face c d) {x : Float} (h : c.Faces x) : d.Faces x := by
  obtain ⟨kind, i, e, he, rfl⟩ := h
  obtain ⟨e', he', hface⟩ := hcd.symm.get? he
  exact ⟨kind, i, e', he', hface⟩

theorem Cast.Faces.of_find? {c : Cast} {name : String} {e : Entity} (he : c.find? name = some e) : c.Faces e.face := by
  obtain ⟨kind, i, -, hget⟩ := Cast.find?_eq_some_iff.1 he
  exact ⟨kind, i, e, hget, rfl⟩

theorem Cast.Alike.faces {c d : Cast} (h : c.Alike d) : Same Entity.face c d :=
  h.same.imp fun e e' hp => by
    have hpose := (Prod.mk.inj (Prod.mk.inj (Prod.mk.inj (Entity.lasting_of_plain hp)).2).2).2
    rw [Entity.face, Entity.face, hpose]

theorem Action.finite_speed? (a : Action) {speed : Float} (h : a.speed? = some ⟨speed⟩) : AllFinite speed := by
  unfold Action.speed? at h
  split at h
  next value _ =>
    rw [Option.some.injEq, Speed.mk.injEq] at h
    exact h ▸ allFinite_double.2 value.isFinite_value
  next => cases h

structure Timelines.Traced (c : Cast) (l : List Action) (t : Timelines) : Prop where
  ramps : All (fun n => AllFinite n.cue.value ∧ ∃ a ∈ l, a.ramp? = some n.payload) t.ramps
  speeds : AllFinite t.speeds
  walks : All (fun n => AllFinite n.cue.value ∧ AllFinite n.payload.speed ∧ c.Faces n.payload.direction) t.walks

namespace Timelines.Traced

variable {c d : Cast} {l l' : List Action} {t : Timelines} {s s' : Stage} {actor : String}

theorem mono (h : t.Traced c l) (hl : l ⊆ l') : t.Traced c l' :=
  { h with ramps := h.ramps.imp fun _ hn => hn.imp_right fun ⟨a, ha, hramp⟩ => ⟨a, hl ha, hramp⟩ }

theorem same (h : t.Traced c l) (hcd : Cast.Same Entity.face c d) : t.Traced d l :=
  { h with walks := h.walks.imp fun _ hn => hn.imp_right (And.imp_right (·.same hcd)) }

theorem fed (h : s.timelines.Traced s.cast l) {cue : Cue} (hcue : AllFinite cue.value) {f : Feed}
    (hramp : ∀ r, f.ramp? = some r → ∃ a ∈ l, a.ramp? = some r)
    (hspeed : ∀ target, f.speed? = some ⟨target⟩ → AllFinite target) (hf : s.Fed actor cue f s') :
    s'.timelines.Traced s'.cast l := by
  have hfaces := hf.alike.faces
  have hkept : s.timelines.Traced s'.cast l := h.same hfaces
  cases hf with
  | unmoved _ _ => exact hkept
  | @ramp v _ _ rate stopKind stopValue =>
    obtain ⟨id, htimelines⟩ := Feeding.addRamp_timelines ⟨s.timelines, s.counters, v⟩ cue (Feed.rampOf rate stopKind stopValue)
    rw [Stage.fedStage, htimelines]
    exact { hkept with ramps := hkept.ramps.store id ⟨hcue, hramp _ rfl⟩ }
  | @merge v _ _ target offset duration =>
    obtain ⟨id, htimelines⟩ := Feeding.addMerge_timelines ⟨s.timelines, s.counters, v⟩ cue (Feed.mergeOf target offset duration)
    rw [Stage.fedStage, htimelines]
    exact { hkept with }
  | @speed v _ _ target =>
    have htimelines := congrArg Feeding.timelines (Feeding.addSpeed_eq ⟨s.timelines, s.counters, v⟩ cue ⟨target⟩)
    have hnode : AllFinite (cue.node (⟨target⟩ : Speed)) := allFinite_node.2 ⟨hcue, hspeed target rfl⟩
    rw [Stage.fedStage, htimelines]
    exact { hkept with speeds := allFinite_iff_all.2 ((allFinite_iff_all.1 hkept.speeds).store _ hnode) }
  | @walk p hfind _ target _ =>
    have htimelines := congrArg Feeding.timelines
      (Feeding.addWalk_eq ⟨s.timelines, s.counters, p⟩ cue ⟨target, (p.pose.map (·.angle)).getD 0.0⟩)
    have hface := (Cast.Faces.of_find? hfind).same hfaces
    rw [Stage.fedStage, htimelines]
    exact { hkept with walks := hkept.walks.store _ ⟨hcue, hspeed target rfl, hface⟩ }

theorem moved (h : s.timelines.Traced s.cast l) {cue : Option Cue} (hcue : ∀ c, cue = some c → AllFinite c.value)
    {dialect : Dialect} {behavior : Behavior} {r : Request} (hr : r.FitsGated dialect behavior)
    (hmoved : s.Moved actor cue r.feed s') : s'.timelines.Traced s'.cast (l ++ [r.action]) := by
  have hold := h.mono (List.subset_append_left l [r.action])
  unfold Stage.Moved at hmoved
  split at hmoved
  next f cue hfeed =>
    have hramp := hr.feeds.ramp
    have hspeed := hr.feeds.speed
    rw [hfeed, if_pos (hr.gate f hfeed), Option.bind_some] at hramp hspeed
    refine hold.fed (hcue cue rfl) (fun ramp hf => ⟨r.action, by simp, hramp ▸ hf⟩) (fun target hf => ?_) hmoved
    exact r.action.finite_speed? (hspeed ▸ hf)
  next => exact hmoved ▸ hold

end Timelines.Traced

namespace Staging

theorem traced_walks : Walks (fun past s => s.timelines.Traced s.cast (past.flatMap Event.actions)) fun past _ done s =>
    s.timelines.Traced s.cast (past.flatMap Event.actions ++ done) where
  reads := fun _ _ _ hs => hs
  readsOn := fun _ _ _ _ _ hs => hs
  begins := fun past e s hs => by rwa [List.append_nil]
  reroutes := by
    intro past e done s a plan route t hs _ ha
    have htimelines : t.timelines = s.timelines := by cases ha <;> rfl
    rw [htimelines, ← List.append_assoc]
    exact (hs.same ha.sameEvents.cast.faces).mono (List.subset_append_left _ _)
  moves := by
    intro past e done s r t hs hr _ hmoved
    rw [← List.append_assoc]
    exact hs.moved (fun c hc => allFinite_double.2 (Cue.isFinite_of_ofConditions? hc)) hr hmoved
  drops := fun past e s hs => by rwa [List.append_nil] at hs
  keeps := by
    intro past e done s t hs _ hstored
    have hactions : (past ++ [{ e with actions := done }]).flatMap Event.actions = past.flatMap Event.actions ++ done := by
      simp
    rw [hactions]
    cases hstored with
    | ego _ _ => exact hs
    | stray _ _ => exact hs
    | listed _ _ =>
      refine hs.same (.modify fun entity _ => ?_)
      unfold withEvent
      dsimp only
      split <;> rfl

end Staging

theorem told_traced {sources : Sources} {map : RoadMap} {root : Element} {sections : Sections}
    (hroot : Sections.ofRoot root = .ok sections) : (told sources map root).2.timelines.Traced
      (told sources map root).2.cast ((keptEvents sources map root).flatMap Event.actions) := by
  refine Staging.traced_walks.told hroot ?_
  have hunplayed := openStage_unplayed sources map root sections
  rw [hunplayed.timelines]
  exact ⟨Timelines.all_start.2, allFinite_empty, Timelines.all_start.1⟩

end Scenography
