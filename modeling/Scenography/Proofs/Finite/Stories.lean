import Scenography.Proofs.Finite.Opening
import Scenography.Proofs.Finite.Timelines

namespace Scenography

open Markup (Element)

structure Event.Steady (e : Event) : Prop where
  conditions : AllFinite e.conditions
  actions : ∀ a ∈ e.actions, a.Steady

section Steps

variable {s t : Stage}

theorem Entity.measures_of_plain {e e' : Entity} (h : e.plain = e'.plain) : e.measures = e'.measures := by
  have hm : e.plain.measures = e'.plain.measures := by rw [h]
  exact hm

theorem Staging.withEvent_measures (n : Nat) (e : Entity) : (withEvent n e).measures = e.measures := by
  unfold withEvent
  dsimp only
  split <;> rfl

theorem Cast.Steady.same {c d : Cast} (h : c.Steady) (hcd : Same Entity.measures c d) : d.Steady := by
  intro kind i e he
  obtain ⟨e', he', hm⟩ := hcd.get? he
  exact (h kind i e' he').congr hm.symm

theorem Cast.Alike.measures {c d : Cast} (h : c.Alike d) : Same Entity.measures c d :=
  h.same.imp fun _ _ => Entity.measures_of_plain

theorem Stage.Steady.fed (h : s.Steady) {actor : String} {cue : Cue} (hcue : AllFinite cue.value) {feed : Feed}
    (hmerge : ∀ target offset duration, feed = .merge target offset duration →
      AllFinite (Feed.mergeOf target offset duration)) (hf : s.Fed actor cue feed t) : t.Steady := by
  have hcast := h.cast.same hf.alike.measures
  have hmerges : AllFinite t.timelines.merges := by
    cases hf with
    | unmoved _ _ => exact h.merges
    | ramp _ _ _ _ _ =>
      obtain ⟨id, htimelines⟩ := Feeding.addRamp_timelines ⟨s.timelines, s.counters, _⟩ cue _
      rw [Stage.fedStage, htimelines]
      exact h.merges
    | merge _ _ target offset duration =>
      obtain ⟨id, htimelines⟩ := Feeding.addMerge_timelines ⟨s.timelines, s.counters, _⟩ cue _
      rw [Stage.fedStage, htimelines]
      exact Timelines.allFinite_iff_all.2 ((Timelines.allFinite_iff_all.1 h.merges).store id
        (Timelines.allFinite_node.2 ⟨hcue, hmerge target offset duration rfl⟩))
    | speed _ _ _ =>
      rw [Feeding.addSpeed_eq]
      exact h.merges
    | walk _ _ _ _ =>
      rw [Feeding.addWalk_eq]
      exact h.merges
  obtain rfl | ⟨e, g, -, -, rfl⟩ := hf.eq_or_alike
  · exact h
  · exact { h with cast := hcast, merges := hmerges }

theorem Stage.Steady.stored (h : s.Steady) {event : Event} (hs : s.Stored event t) : t.Steady := by
  cases hs with
  | ego _ _ => exact { h with }
  | stray _ _ => exact { h with }
  | listed _ _ =>
    exact { h with cast := h.cast.modify event.owner fun e _ he => he.congr (Staging.withEvent_measures _ e) }

end Steps

namespace Staging

section Walk

variable (actor : String) (overrides : KeyMap String String) (e : Element)

theorem attachPlan_yields {r : Request} (hr : r.Steady) : Yields Action.Steady (attachPlan actor r) := by
  unfold attachPlan
  split
  · exact .pure hr.action
  next plan hplan =>
    exact .bind_of (attachRoute_yields actor (allFinite_option.1 hr.plan plan hplan)) fun _ _ => .pure hr.action

theorem feedRequest_yields {cue : Option Cue} (hcue : ∀ c, cue = some c → AllFinite c.value) {r : Request}
    (hr : r.Steady) : Yields (fun _ => True) (feedRequest actor cue r) := by
  unfold feedRequest
  split
  next f cue hfeed =>
    intro sources map s _ _ hs
    rw [exec_discard]
    refine ⟨trivial, hs.fed (hcue cue rfl) (fun target offset duration h => ?_) (exec_feed sources map s actor cue f)⟩
    exact hr.merge target offset duration (hfeed.trans (congrArg some h))
  next => exact .pure trivial

theorem action?_yields (behavior : Behavior) {cue : Option Cue} (hcue : ∀ c, cue = some c → AllFinite c.value) :
    Yields (fun o => ∀ a ∈ o, Action.Steady a) (action? actor behavior cue e) := by
  unfold action?
  refine .bind_of (request?_yields e actor behavior) fun requested hrequested => ?_
  split
  · exact .bind (.record _) fun _ => .pure (by simp)
  · exact .pure (by simp)
  next r =>
    have hr := hrequested (some r) rfl r rfl
    refine .bind_of (attachPlan_yields actor hr) fun a ha => .bind_of (feedRequest_yields actor hcue hr) fun _ _ => ?_
    exact .pure fun _ h => Option.some.inj h ▸ ha

theorem eventActions_yields (conditions : List Condition) :
    Yields (fun l => ∀ a ∈ l, Action.Steady a) (eventActions actor conditions e) :=
  .bind .getCast fun _ => .filterMap fun element => action?_yields actor element _ fun _ hc =>
    allFinite_double.2 (Cue.isFinite_of_ofConditions? hc)

theorem draft_yields : Yields (fun o => ∀ event ∈ o, Event.Steady event) (draft overrides actor e) := by
  unfold draft
  refine .bind (attr_reads _ _) fun name => .bind_of (startConditions_yields actor e) fun started hstarted => ?_
  split
  · exact .bind (.record _) fun _ => .pure (by simp)
  next conditions =>
    refine .bind_of (withCounts_yields actor overrides name (hstarted conditions rfl)) fun conditions hconditions => ?_
    refine .bind_of (eventActions_yields actor e conditions) fun actions hactions => ?_
    split
    · exact .pure (by simp)
    · exact .pure fun _ h => Option.some.inj h ▸ ⟨hconditions, hactions⟩

theorem keptEvent_yields : Yields (fun o => ∀ event ∈ o, Event.Steady event) (keptEvent overrides actor e) := by
  unfold keptEvent
  refine .bind_of (draft_yields actor overrides e) fun kept hkept => ?_
  dsimp only
  split
  next event =>
    have hstore : Yields (fun _ => True) (storeEvent event) :=
      fun sources map s _ _ hs => ⟨trivial, hs.stored (exec_storeEvent sources map s event)⟩
    exact .bind_of hstore fun _ _ => .pure hkept
  next => exact .pure hkept

theorem flatten_yields {α β : Type} {Q : β → Prop} {f : α → Staging (List β)} {l : List α}
    (hf : ∀ a, Yields (fun bs => ∀ b ∈ bs, Q b) (f a)) :
    Yields (fun bs => ∀ b ∈ bs, Q b) (List.flatten <$> l.mapM f) := by
  refine .map_of (.listMapM fun a _ => hf a) fun bss hbss b hb => ?_
  obtain ⟨bs, hbs, hb⟩ := List.mem_flatten.1 hb
  exact hbss bs hbs b hb

theorem keptOfStories_yields (storyboard : Element) :
    Yields (fun l => ∀ event ∈ l, Event.Steady event) (keptOfStories storyboard) := by
  have hgroup (overrides : KeyMap String String) (e : Element) :
      Yields (fun l => ∀ event ∈ l, Event.Steady event) (keptOfGroup overrides e) :=
    .bind (actor_reads _) fun actor => .bind (maneuvers_reads _) fun _ => .filterMap fun element =>
      keptEvent_yields actor overrides element
  exact flatten_yields fun story => .bind (.map (attr_reads _ _)) fun _ => flatten_yields fun e => hgroup _ e

end Walk

end Staging

theorem told_steady {sources : Sources} {map : RoadMap} {root : Element} {sections : Sections} (hsources : sources.Steady)
    (hmap : map.Steady) (hroot : Sections.ofRoot root = .ok sections) :
    (∀ e ∈ keptEvents sources map root, e.Steady) ∧ (told sources map root).2.Steady := by
  have hopen := openStage_steady hsources hmap root sections
  have htold := Staging.keptOfStories_yields sections.storyboard sources map _ hsources hmap hopen
  rw [keptEvents, told, hroot]
  exact htold

end Scenography
