import Scenography.Proofs.Respelled.Readers
import Scenography.Staging.Signal
import Scenography.Staging.Weather
/-!
Signals and weather of elements that are alike once spelled anew. The heads of signals, and what an
environment declares for itself, are taken as written: these are alike only where they are written alike.
-/

namespace Scenography

open Markup (Element Spelling)

def SignalPlan.headless (p : SignalPlan) : SignalPlan :=
  { p with heads := [] }

theorem SignalPlan.eq_of_headless {p q : SignalPlan} (h : p.headless = q.headless) (hheads : p.heads = q.heads) :
    p = q := by
  have hp : p = { p.headless with heads := p.heads } := rfl
  have hq : q = { q.headless with heads := q.heads } := rfl
  rw [hp, hq, h, hheads]

structure Aside.Near (heads weather : Prop) (a b : Aside) : Prop where
  plans : a.1.map SignalPlan.headless = b.1.map SignalPlan.headless
  heads : heads → a.1 = b.1
  weather : weather → a.2 = b.2

namespace Aside.Near

variable {heads weather : Prop} {a b : Aside}

protected theorem eq (h : a.Near True True b) : a = b :=
  Prod.ext (h.heads trivial) (h.weather trivial)

theorem start (h : a.Near heads weather b) (id : Nat) (phase : String) :
    Aside.Near heads weather (a.1.modify id fun p => { p with startTime := phase }, a.2)
      (b.1.modify id fun p => { p with startTime := phase }, b.2) where
  plans := by
    have hmodify (m : KeyMap Nat SignalPlan) : (m.modify id fun p => { p with startTime := phase }).map
        SignalPlan.headless = (m.map SignalPlan.headless).modify id fun p => { p with startTime := phase } := by
      apply KeyMap.map_modify
      exact fun _ => rfl
    rw [hmodify, hmodify, h.plans]
  heads hheads := by rw [h.heads hheads]
  weather := h.weather

theorem insert (h : a.Near heads weather b) {w w' : Weather} (hw : weather → w = w') :
    Aside.Near heads weather (a.1, a.2.insert w.timestamp w) (b.1, b.2.insert w'.timestamp w') where
  plans := h.plans
  heads := h.heads
  weather hweather := by
    show a.2.insert w.timestamp w = b.2.insert w'.timestamp w'
    rw [h.weather hweather, hw hweather]

end Aside.Near

namespace Staging

variable {K : Aside → Aside → Prop} {ps : List Parameter} {f : Spelling} {e e' : Element} {heads weather : Prop}

def headsNamed (controller : Element) : List String :=
  ((controller.childrenNamed "Phase").head?.map Staging.heads).getD []

def controllers (network : Element) : List Element :=
  ((network.child? "TrafficSignals").map (·.childrenNamed "TrafficSignalController")).getD []

def outlook (action : Element) : Option (KeyMap String String) :=
  (action.child? "Environment").map declared

theorem forall₂_and_of_map {α β : Type} {R : α → α → Prop} {g : α → β} {l l' : List α} (h : List.Forall₂ R l l')
    {P : Prop} (hmap : P → l.map g = l'.map g) : List.Forall₂ (fun a b => R a b ∧ (P → g a = g b)) l l' := by
  induction h with
  | nil => exact .nil
  | cons hab _ ih => exact .cons ⟨hab, fun hp => (List.cons.inj (hmap hp)).1⟩ (ih fun hp => (List.cons.inj (hmap hp)).2)

section Signals

variable (hf : f.Faithful ps)

theorem approach_agrees (controller : String) (compact : KeyMap String String) (known : Approaches) :
    Agree K ps Eq (approach controller compact known) (approach controller compact known) := by
  unfold approach
  split
  · exact .pure rfl
  · split
    · exact .pure rfl
    · refine .bind (.count _) fun id => .bind (.modify ?_) fun _ => .pure rfl
      rintro s _ ⟨journal, signals, weather, aside, declared⟩
      exact .mk journal signals weather aside declared

include hf

theorem lights_agrees (names : LightNames) (phases : List Element) :
    Agree K ps Eq (lights names (phases.map (·.respell f))) (lights names phases) := by
  unfold lights
  rw [List.foldlM_map]
  exact .foldlM fun l e => .bind (attr_agrees hf _ _) fun _ => .bind (value_agrees hf _ _) fun _ => .pure rfl

theorem lights_alike {phases phases' : List Element} (h : List.Forall₂ (Element.Alike f) phases phases')
    (names : LightNames) : Agree K ps Eq (lights names phases) (lights names phases') :=
  .across (fun _ => lights_agrees hf names) (Element.forall₂_alike_iff.1 h)

def PlansNear (e e' : Element) (r r' : SignalPlan × Approaches) : Prop :=
  r.1.headless = r'.1.headless ∧ (headsNamed e = headsNamed e' → r.1 = r'.1) ∧ r.2 = r'.2

theorem signalPlan_alike (h : Element.Alike f e e') (active : Option String) (known : Approaches) :
    Agree K ps (PlansNear e e') (signalPlan active e known) (signalPlan active e' known) := by
  have hphases := h.childrenNamed "Phase"
  unfold signalPlan
  refine .bind (attr_alike hf _ h) fun controller => .bind (.count _) fun id => ?_
  cases active with
  | some plan =>
    refine .bind (lights_alike hf hphases _) fun lights => .get_bind fun s t hst => ?_
    rw [hst.parameters]
    refine .bind (approach_agrees _ _ _) fun r => .pure ⟨rfl, fun hheads => ?_, rfl⟩
    exact SignalPlan.eq_of_headless rfl hheads
  | none =>
    refine .bind (lights_alike hf hphases _) fun lights => .pure ⟨rfl, fun hheads => ?_, rfl⟩
    exact SignalPlan.eq_of_headless rfl hheads

theorem signalPlans_alike {es es' : List Element} (h : List.Forall₂ (Element.Alike f) es es')
    (active : Option String) (known : Approaches) :
    Agree K ps (fun l l' => l.map SignalPlan.headless = l'.map SignalPlan.headless ∧
      (es.map headsNamed = es'.map headsNamed → l = l')) (signalPlans active known es)
      (signalPlans active known es') := by
  induction h generalizing known with
  | nil => exact .pure ⟨rfl, fun _ => rfl⟩
  | cons he _ ih =>
    refine .bind_of (signalPlan_alike hf he active known) ?_
    rintro ⟨plan, known⟩ ⟨plan', -⟩ ⟨hplan, hheads, rfl⟩
    refine .bind_of (ih known) fun l l' hl => .pure ⟨?_, fun hnamed => ?_⟩
    · rw [List.map_cons, List.map_cons, hl.1]
      exact congrArg (· :: _) hplan
    · obtain ⟨hfirst, hrest⟩ := List.cons.inj hnamed
      exact congrArg₂ List.cons (hheads hfirst) (hl.2 hrest)

theorem signals_alike (h : Element.Alike f e e')
    (hheads : heads → (controllers e).map headsNamed = (controllers e').map headsNamed) :
    Agree K ps (fun m m' => m.map SignalPlan.headless = m'.map SignalPlan.headless ∧ (heads → m = m'))
      (signals e) (signals e') := by
  have hchild := h.child? "TrafficSignals"
  unfold signals
  unfold controllers at hheads
  generalize e.child? "TrafficSignals" = o, e'.child? "TrafficSignals" = o' at hchild hheads
  cases hchild with
  | none => exact .pure ⟨rfl, fun _ => rfl⟩
  | some hsignals =>
    refine .get_bind fun s t hst => ?_
    rw [hst.parameters]
    refine .bind_of (signalPlans_alike hf (hsignals.childrenNamed _) _ _) fun l l' hl => .pure ⟨?_, fun hh => ?_⟩
    · rw [KeyMap.map_ofList, KeyMap.map_ofList, List.map_map, List.map_map]
      have hkeyed (l : List SignalPlan) :
          l.map ((fun e : Nat × SignalPlan => (e.1, e.2.headless)) ∘ fun p => (p.id, p)) =
            (l.map SignalPlan.headless).map fun p => (p.id, p) := by
        rw [List.map_map]
        rfl
      rw [hkeyed, hkeyed, hl.1]
    · rw [hl.2 (hheads hh)]

end Signals

section SignalAction

def signalOf? (m : KeyMap Nat SignalPlan) (controller : String) : Option Nat :=
  (m.entries.find? (·.2.controller = controller)).map (·.1)

theorem signalOf?_headless (m : KeyMap Nat SignalPlan) (controller : String) :
    signalOf? (m.map SignalPlan.headless) controller = signalOf? m controller := by
  simp only [signalOf?, KeyMap.map, List.find?_map, Option.map_map]
  rfl

theorem signalOf?_eq_of_near {a b : Aside} (h : a.Near heads weather b) (controller : String) :
    signalOf? a.1 controller = signalOf? b.1 controller := by
  rw [← signalOf?_headless, h.plans, signalOf?_headless]

theorem signalAction_alike (hf : f.Faithful ps) (h : Element.Alike f e e') :
    Agree (Aside.Near heads weather) ps Eq (signalAction e) (signalAction e') := by
  unfold signalAction
  refine .bind (attr_alike hf _ h) fun controller => .bind (attr_alike hf _ h) fun phase =>
     .get_bind fun s t hst => ?_
  have hfirst := signalOf?_eq_of_near hst.aside controller
  unfold signalOf? at hfirst
  dsimp only at hfirst
  generalize s.signals.entries.find? _ = o, t.signals.entries.find? _ = o' at hfirst
  cases o with
  | none =>
    cases o' with
    | none => exact .warn _ _ _ _
    | some found => cases hfirst
  | some found =>
    cases o' with
    | none => cases hfirst
    | some found' =>
      obtain ⟨id, plan⟩ := found
      obtain ⟨id', plan'⟩ := found'
      cases hfirst
      exact .modify fun s t hst => hst.with_aside (hst.aside.start id phase)

end SignalAction

section Weather

variable (hf : f.Faithful ps)

include hf

theorem weatherOf_alike (h : Element.Alike f e e') (hdeclared : weather → declared e = declared e') :
    Agree K ps (fun w w' => weather → w = w') (weatherOf e) (weatherOf e') := by
  unfold weatherOf
  dsimp only
  have hweather := h.child? "Weather"
  have hfog := Element.Alike.bind_child? hweather "Fog"
  have hprecipitation := Element.Alike.bind_child? hweather "Precipitation"
  refine .bind (.optionMapM_rel (h.child? _) fun _ _ h => attr_alike hf _ h) fun dateTime =>
    .bind (.optionMapM_rel hfog fun _ _ h => value_alike hf _ h) fun range =>
    .bind (.optionMapM_rel hprecipitation fun _ _ h => attr_alike hf _ h) fun kind =>
    .bind (.optionMapM_rel hprecipitation fun _ _ h => value_alike hf _ h) fun intensity =>
    .bind (.optionMapM_rel hweather fun _ _ h => attr_alike hf _ h) fun clouds => .pure fun hw => ?_
  rw [hdeclared hw]

theorem environment?_alike {action action' : Element} (h : Element.Alike f action action')
    (houtlook : weather → outlook action = outlook action') :
    Agree K ps (Option.Rel fun e e' => Element.Alike f e e' ∧ (weather → declared e = declared e'))
      (environment? action) (environment? action') := by
  unfold environment?
  have henvironment := h.child? "Environment"
  have hreference := h.child? "CatalogReference"
  unfold outlook at houtlook
  generalize action.child? "Environment" = o, action'.child? "Environment" = o' at henvironment houtlook
  generalize action.child? "CatalogReference" = r, action'.child? "CatalogReference" = r' at hreference
  cases henvironment with
  | some halike => exact .pure (.some ⟨halike, fun hw => Option.some.inj (houtlook hw)⟩)
  | none =>
    cases hreference with
    | none => exact .pure .none
    | some hreference =>
      refine .bind (attr_alike hf _ hreference) fun name => .bind .read fun sources => ?_
      split
      · exact .pure (.some ⟨rfl, fun _ => rfl⟩)
      · exact .bind (.record _ _) fun _ => .pure .none

theorem weather?_alike {action action' : Element} (h : Element.Alike f action action')
    (houtlook : weather → outlook action = outlook action') :
    Agree K ps (Option.Rel fun w w' => weather → w = w') (weather? action) (weather? action') := by
  refine .bind_of (environment?_alike hf h houtlook) fun o o' ho => ?_
  exact .optionMapM_of ho fun e e' he => weatherOf_alike hf he.1 he.2

end Weather

end Staging

end Scenography
