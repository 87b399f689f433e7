import Scenography.Proofs.Identity
import Scenography.Proofs.Opening
import Scenography.Proofs.Parameters
import Scenography.Proofs.Respelled.Network

namespace Scenography

open Markup (Element)

namespace SignalPlan

def routeId? (p : SignalPlan) : Option String :=
  p.compact.get? "routeid"

def approach (p : SignalPlan) (n : Nat) : Route where
  id := n
  owner := p.controller
  kind := .approach
  start := (p.compact.get? "route").getD ""
  stop := none
  between := ""
  path := []

def routeIds (plans : List SignalPlan) : List String :=
  (plans.filterMap (·.routeId?)).eraseDups

def leader? (plans : List SignalPlan) (key : String) : Option SignalPlan :=
  plans.find? (·.routeId? = some key)

section RouteIds

variable {plans past : List SignalPlan} {p : SignalPlan} {key : String}

theorem mem_routeIds_iff : key ∈ routeIds plans ↔ ∃ p ∈ plans, p.routeId? = some key := by
  rw [routeIds, List.mem_eraseDups, List.mem_filterMap]

theorem mem_routeIds (hp : p ∈ plans) (hkey : p.routeId? = some key) : key ∈ routeIds plans :=
  mem_routeIds_iff.2 ⟨p, hp, hkey⟩

theorem routeIds_concat_of_none (h : p.routeId? = none) : routeIds (past ++ [p]) = routeIds past := by
  simp [routeIds, h]

theorem routeIds_concat (h : p.routeId? = some key) :
    routeIds (past ++ [p]) = if key ∈ routeIds past then routeIds past else routeIds past ++ [key] := by
  have hlast : [p].filterMap (·.routeId?) = [key] := by simp [h]
  rw [routeIds, routeIds, List.filterMap_append, hlast, eraseDups_concat]
  simp only [List.mem_eraseDups]

theorem isSome_leader?_iff : (leader? plans key).isSome ↔ key ∈ routeIds plans := by
  simp [leader?, mem_routeIds_iff]

theorem leader?_concat_of_mem (h : key ∈ routeIds past) : leader? (past ++ [p]) key = leader? past key := by
  obtain ⟨q, hq⟩ := Option.isSome_iff_exists.1 (isSome_leader?_iff.2 h)
  have hfound : past.find? (·.routeId? = some key) = some q := hq
  rw [leader?, List.find?_append, hfound, hq, Option.some_or]

theorem leader?_concat_of_notMem (h : key ∉ routeIds past) (hkey : p.routeId? = some key) :
    leader? (past ++ [p]) key = some p := by
  have hnone : past.find? (·.routeId? = some key) = none :=
    Option.not_isSome_iff_eq_none.1 fun hsome => h (isSome_leader?_iff.1 hsome)
  rw [leader?, List.find?_append, hnone, Option.none_or]
  simp [hkey]

theorem leads_concat (past : List SignalPlan) (p : SignalPlan) (i : Nat) :
    (routeIds past)[i]?.bind (leader? (past ++ [p])) = (routeIds past)[i]?.bind (leader? past) := by
  cases hkey : (routeIds past)[i]? with
  | none => rfl
  | some key => exact leader?_concat_of_mem (List.mem_of_getElem? hkey)

end RouteIds

end SignalPlan

open SignalPlan (routeIds leader? routeIds_concat routeIds_concat_of_none)

/-- What comes of a signal's plan and the approaches known: a route is made where the plan is the first to give its
id. -/
inductive Stage.Plots (s : Stage) (known : Staging.Approaches) (p : SignalPlan) : Staging.Approaches → Stage → Prop
  | apart (hkey : p.routeId? = none) (hroute : p.route = none) (j : Journal) :
    s.Plots known p known { s with counters := { s.counters with signals := s.counters.signals + 1 }, journal := j }
  | joined {key : String} {n : Nat} (hkey : p.routeId? = some key) (hknown : known.get? key = some n)
    (hroute : p.route = some n) (j : Journal) :
    s.Plots known p known { s with counters := { s.counters with signals := s.counters.signals + 1 }, journal := j }
  | led {key : String} (hkey : p.routeId? = some key) (hknown : known.get? key = none)
    (hroute : p.route = some s.counters.routes) (j : Journal) :
    s.Plots known p (known.insert key s.counters.routes) { s with
      counters := { s.counters with signals := s.counters.signals + 1, routes := s.counters.routes + 1 }
      journal := j
      routes := s.routes.insert s.counters.routes (p.approach s.counters.routes) }

def Markup.Element.controllerIn (ps : Parameters) (e : Element) : String :=
  ((e.says? ps "name").filter (· ≠ "")).getD ""

namespace Staging

def compactIn (ps : Parameters) (active : Option String) (controller : String) : KeyMap String String :=
  if active.isSome then compactOf ps controller else ∅

section Runs

variable (sources : Sources) (map : RoadMap) (active : Option String)

theorem exec_attr (e : Element) (name : String) (s : Stage) :
    ∃ j, exec sources map (attr e name) s =
      (((e.says? s.parameters name).filter (· ≠ "")).getD "", { s with journal := j }) := by
  obtain ⟨text, more, hread⟩ := attr_reads e name sources map s
  have hattr : exec sources map (attr e name) s = _ := hread s.journal
  have htext := attr_gives name e sources map s rfl
  rw [hattr] at htext
  exact ⟨_, hattr.trans (congrArg (·, _) htext)⟩

section Approach

variable {controller key : String} {compact : KeyMap String String} {known : Approaches} (s : Stage)

theorem exec_approach_of_none (hkey : compact.get? "routeid" = none) :
    exec sources map (approach controller compact known) s = ((none, known), s) := by
  simp [approach, hkey]

theorem exec_approach_of_known {n : Nat} (hkey : compact.get? "routeid" = some key) (hknown : known.get? key = some n) :
    exec sources map (approach controller compact known) s = ((some n, known), s) := by
  simp [approach, hkey, hknown]

theorem exec_approach_of_unknown (hkey : compact.get? "routeid" = some key) (hknown : known.get? key = none) :
    exec sources map (approach controller compact known) s =
      ((some s.counters.routes, known.insert key s.counters.routes), { s with
        counters := { s.counters with routes := s.counters.routes + 1 }
        routes := s.routes.insert s.counters.routes {
          id := s.counters.routes, owner := controller, kind := .approach, start := (compact.get? "route").getD ""
          stop := none, between := "", path := [] } }) := by
  simp [approach, hkey, hknown, Counters.nextRoute]

end Approach

theorem exec_signalPlan_plots (e : Element) (known : Approaches) (s : Stage) :
    ∃ p known' t, exec sources map (signalPlan active e known) s = ((p, known'), t) ∧
      p.controller = e.controllerIn s.parameters ∧ p.compact = compactIn s.parameters active p.controller ∧
      s.Plots known p known' t := by
  obtain ⟨j, hname⟩ := exec_attr sources map e "name" s
  rw [← Element.controllerIn] at hname
  have hlights (names : LightNames) : ∃ l j', exec sources map (lights names (e.childrenNamed "Phase"))
      { s with counters := { s.counters with signals := s.counters.signals + 1 }, journal := j } =
      (l, { s with counters := { s.counters with signals := s.counters.signals + 1 }, journal := j' }) := by
    obtain ⟨l, more, hread⟩ := lights_reads names (e.childrenNamed "Phase") sources map
      { s with counters := { s.counters with signals := s.counters.signals + 1 } }
    exact ⟨l, _, hread j⟩
  unfold signalPlan
  simp only [exec_bind, hname, exec_count, Counters.nextSignal]
  cases active with
  | none =>
    obtain ⟨l, j', hl⟩ := hlights .standard
    simp only [exec_bind, exec_pure, hl]
    exact ⟨_, _, _, rfl, rfl, rfl, .apart rfl rfl _⟩
  | some plan =>
    obtain ⟨l, j', hl⟩ := hlights .compact
    simp only [compactPlan, exec_bind, exec_get, exec_pure, hl]
    cases hkey : (compactOf s.parameters (e.controllerIn s.parameters)).get? "routeid" with
    | none =>
      rw [exec_approach_of_none sources map _ hkey]
      refine ⟨_, _, _, rfl, rfl, rfl, .apart ?_ rfl _⟩
      exact hkey
    | some key =>
      cases hknown : known.get? key with
      | none =>
        rw [exec_approach_of_unknown sources map _ hkey hknown]
        refine ⟨_, _, _, rfl, rfl, rfl, .led ?_ hknown rfl _⟩
        exact hkey
      | some n =>
        rw [exec_approach_of_known sources map _ hkey hknown]
        refine ⟨_, _, _, rfl, rfl, rfl, .joined ?_ hknown rfl _⟩
        exact hkey

end Runs

section Numbers

variable {first n : Nat} {ids : List String} {key key' : String}

def routeOf? (first : Nat) (ids : List String) (key : String) : Option Nat :=
  (ids.idxOf? key).map (first + ·)

theorem routeOf?_eq_none_iff : routeOf? first ids key = none ↔ key ∉ ids := by
  rw [routeOf?, Option.map_eq_none_iff, List.idxOf?_eq_none_iff]

theorem routeOf?_inj (h : routeOf? first ids key = some n) (h' : routeOf? first ids key' = some n) : key = key' := by
  obtain ⟨i, hi, rfl⟩ := Option.map_eq_some_iff.1 h
  obtain ⟨i', hi', heq⟩ := Option.map_eq_some_iff.1 h'
  obtain rfl := Nat.add_left_cancel heq
  obtain ⟨_, hkey, -⟩ := List.idxOf?_eq_some_iff.1 hi
  obtain ⟨_, hkey', -⟩ := List.idxOf?_eq_some_iff.1 hi'
  exact hkey.symm.trans hkey'

theorem routeOf?_concat (first : Nat) (ids : List String) (key key' : String) :
    routeOf? first (ids ++ [key]) key' =
      (routeOf? first ids key').or (if key' = key then some (first + ids.length) else none) := by
  by_cases h : key' = key
  · simp [routeOf?, List.idxOf?, List.findIdx?_append, h]
  · simp [routeOf?, List.idxOf?, List.findIdx?_append, h, Ne.symm h]

end Numbers

end Staging

open Staging (routeOf? Approaches)

structure Stage.Plotted (s : Stage) (past : List SignalPlan) (known : Approaches) (t : Stage) : Prop where
  parameters : t.parameters = s.parameters
  count : t.counters.routes = s.counters.routes + (routeIds past).length
  numbers : ∀ key, known.get? key = routeOf? s.counters.routes (routeIds past) key
  plans : ∀ p ∈ past, p.route = p.routeId?.bind known.get?
  old : ∀ n < s.counters.routes, t.routes.get? n = s.routes.get? n
  added : ∀ i, t.routes.get? (s.counters.routes + i) =
    ((routeIds past)[i]?.bind (leader? past)).map (·.approach (s.counters.routes + i))

namespace Stage.Plotted

variable {s t u : Stage} {past : List SignalPlan} {known known' : Approaches} {p : SignalPlan}

theorem start (h : ∀ n, s.counters.routes ≤ n → s.routes.get? n = none) : s.Plotted [] ∅ s where
  parameters := rfl
  count := rfl
  numbers _ := rfl
  plans := nofun
  old _ _ := rfl
  added _ := h _ (Nat.le_add_right _ _)

theorem known_eq_none_iff (h : s.Plotted past known t) {key : String} :
    known.get? key = none ↔ key ∉ routeIds past := by
  rw [h.numbers, Staging.routeOf?_eq_none_iff]

theorem follow (h : s.Plotted past known t) (hids : routeIds (past ++ [p]) = routeIds past)
    (hroute : p.route = p.routeId?.bind known.get?) (j : Journal) :
    s.Plotted (past ++ [p]) known
      { t with counters := { t.counters with signals := t.counters.signals + 1 }, journal := j } where
  parameters := h.parameters
  count := by rw [hids]; exact h.count
  numbers := by rw [hids]; exact h.numbers
  plans q hq := by
    rcases List.mem_append.1 hq with hq | hq
    · exact h.plans q hq
    · rw [List.mem_singleton.1 hq, hroute]
  old := h.old
  added i := by rw [hids, SignalPlan.leads_concat]; exact h.added i

theorem lead (h : s.Plotted past known t) {key : String} (hkey : p.routeId? = some key) (hknown : known.get? key = none)
    (hroute : p.route = some t.counters.routes) (j : Journal) :
    s.Plotted (past ++ [p]) (known.insert key t.counters.routes) { t with
      counters := { t.counters with signals := t.counters.signals + 1, routes := t.counters.routes + 1 }
      journal := j
      routes := t.routes.insert t.counters.routes (p.approach t.counters.routes) } := by
  have hnew : key ∉ routeIds past := h.known_eq_none_iff.1 hknown
  have hids : routeIds (past ++ [p]) = routeIds past ++ [key] := by rw [routeIds_concat hkey, if_neg hnew]
  refine ⟨h.parameters, ?count, ?numbers, ?plans, ?old, ?added⟩
  case count =>
    rw [hids, List.length_append, List.length_singleton, ← Nat.add_assoc, ← h.count]
  case numbers =>
    intro key'
    rw [hids, Staging.routeOf?_concat, KeyMap.get?_insert, ← h.numbers, ← h.count]
    split
    next heq => rw [heq, hknown, Option.none_or]
    next => rw [Option.or_none]
  case plans =>
    intro q hq
    rcases List.mem_append.1 hq with hq | hq
    · rw [h.plans q hq]
      cases hid : q.routeId? with
      | none => rfl
      | some key' =>
        have hne : key' ≠ key := by
          rintro rfl
          exact hnew (SignalPlan.mem_routeIds hq hid)
        exact (KeyMap.get?_insert_of_ne hne _ _).symm
    · rw [List.mem_singleton.1 hq, hroute, hkey]
      exact (KeyMap.get?_insert_self _ _ _).symm
  case old =>
    intro n hn
    have hne : n ≠ t.counters.routes := by
      rw [h.count]
      omega
    exact (KeyMap.get?_insert_of_ne hne _ _).trans (h.old n hn)
  case added =>
    intro i
    dsimp only
    rw [hids, KeyMap.get?_insert, h.count]
    -- the routes from before, the new one, and none beyond it
    rcases Nat.lt_trichotomy i (routeIds past).length with hi | rfl | hi
    · rw [if_neg (by omega), List.getElem?_append_left hi, SignalPlan.leads_concat, h.added]
    · rw [if_pos rfl, List.getElem?_concat_length, Option.bind_some, SignalPlan.leader?_concat_of_notMem hnew hkey]
      rfl
    · rw [if_neg (by omega), h.added, List.getElem?_eq_none (by omega), List.getElem?_eq_none (by simp; omega)]
      rfl

theorem concat (h : s.Plotted past known t) (hp : t.Plots known p known' u) : s.Plotted (past ++ [p]) known' u := by
  cases hp with
  | apart hkey hroute j =>
    refine h.follow (routeIds_concat_of_none hkey) ?_ j
    rw [hroute, hkey]
    rfl
  | joined hkey hknown hroute j =>
    have hold := Option.ne_none_iff_isSome.2 (Option.isSome_of_eq_some hknown)
    refine h.follow ?_ ?_ j
    · rw [routeIds_concat hkey, if_pos (not_not.1 (mt h.known_eq_none_iff.2 hold))]
    · rw [hroute, hkey, Option.bind_some, hknown]
  | led hkey hknown hroute j => exact h.lead hkey hknown hroute j

end Stage.Plotted

namespace Staging

section Networks

variable (sources : Sources) (map : RoadMap) (active : Option String)

theorem exec_signalPlans_plotted (es : List Element) {s t : Stage} {past : List SignalPlan} {known : Approaches}
    (h : s.Plotted past known t) :
    ∃ plans known' u, exec sources map (signalPlans active known es) t = (plans, u) ∧
      s.Plotted (past ++ plans) known' u ∧ plans.map (·.controller) = es.map (·.controllerIn s.parameters) ∧
      ∀ p ∈ plans, p.compact = compactIn s.parameters active p.controller := by
  induction es generalizing past known t with
  | nil =>
    refine ⟨[], known, t, rfl, ?_, rfl, nofun⟩
    rw [List.append_nil]
    exact h
  | cons e es ih =>
    obtain ⟨p, known', u, hexec, hcontroller, hcompact, hp⟩ := exec_signalPlan_plots sources map active e known t
    obtain ⟨plans, known'', u', hrest, hplotted, hcontrollers, hcompacts⟩ := ih (h.concat hp)
    rw [h.parameters] at hcontroller hcompact
    refine ⟨p :: plans, known'', u', ?_, ?_, ?_, List.forall_mem_cons.2 ⟨hcompact, hcompacts⟩⟩
    · simp only [signalPlans, exec_bind, exec_pure, hexec, hrest]
    · rw [List.append_cons]
      exact hplotted
    · rw [List.map_cons, List.map_cons, hcontroller, hcontrollers]

theorem signalPlans_ids (known : Approaches) (es : List Element) (s : Stage) :
    (exec sources map (signalPlans active known es) s).1.map (·.id) =
      List.range' (s.counters.signals + 1) (exec sources map (signalPlans active known es) s).1.length := by
  have hplan (past : List SignalPlan) (t : Stage) (p : SignalPlan) (u : Stage)
      (h : t.counters.signals = s.counters.signals + past.length ∧
        past.map (·.id) = List.range' (s.counters.signals + 1) past.length) (hp : t.Planned p u) :
      u.counters.signals = s.counters.signals + (past ++ [p]).length ∧
        (past ++ [p]).map (·.id) = List.range' (s.counters.signals + 1) (past ++ [p]).length := by
    have hid : p.id = s.counters.signals + 1 + past.length := by
      rw [Nat.add_right_comm, ← h.1]
      cases hp <;> assumption
    have hnext : u.counters.signals = t.counters.signals + 1 := by cases hp <;> rfl
    rw [List.map_append, h.2, List.map_singleton, List.length_append, List.length_singleton, hid, hnext, h.1,
      List.range'_1_concat]
    exact ⟨Nat.add_assoc _ _ _, rfl⟩
  have hcarried := signalPlans_carries hplan active known es sources map [] s ⟨rfl, rfl⟩
  exact hcarried.2

theorem exec_signals (network : Element) {s t : Stage} {plans : List SignalPlan}
    (h : exec sources map (signalPlans ((s.parameters.get? "ActivePlan").map (·.value)) ∅ (controllers network)) s =
      (plans, t)) :
    exec sources map (signals network) s = (.ofList (plans.map fun p => (p.id, p)), t) := by
  unfold signals
  unfold controllers at h
  cases hchild : network.child? "TrafficSignals" with
  | none =>
    rw [hchild] at h
    cases h
    rfl
  | some e =>
    rw [hchild, Option.map_some, Option.getD_some] at h
    simp only [exec_bind, exec_get, exec_pure, h]

end Networks

end Staging

/-- Plans share a route where they give it the same id, and only there. Each id has one route, which the first plan
that gives it makes; these are numbered as the ids come, from the first free number on. -/
structure Stage.Shares (s : Stage) (plans : List SignalPlan) (t : Stage) : Prop where
  route_eq_none_iff : ∀ p ∈ plans, p.route = none ↔ p.routeId? = none
  route_eq_iff : ∀ p ∈ plans, ∀ q ∈ plans, p.route = q.route ↔ p.routeId? = q.routeId?
  numbered : ∀ p ∈ plans, ∀ n, p.route = some n →
    ∃ i, n = s.counters.routes + i ∧ (routeIds plans)[i]? = p.routeId?
  kept : ∀ n < s.counters.routes, t.routes.get? n = s.routes.get? n
  added : ∀ i key, (routeIds plans)[i]? = some key → ∃ p, leader? plans key = some p ∧
    t.routes.get? (s.counters.routes + i) = some (p.approach (s.counters.routes + i))
  no_more : ∀ n, s.counters.routes + (routeIds plans).length ≤ n → t.routes.get? n = none
  count : t.counters.routes = s.counters.routes + (routeIds plans).length

namespace Stage.Plotted

variable {s t : Stage} {plans : List SignalPlan} {known : Approaches} {p q : SignalPlan}

theorem route_eq_some_iff (h : s.Plotted plans known t) (hp : p ∈ plans) {n : Nat} :
    p.route = some n ↔ ∃ key, p.routeId? = some key ∧ routeOf? s.counters.routes (routeIds plans) key = some n := by
  rw [h.plans p hp, Option.bind_eq_some_iff]
  simp only [h.numbers]

theorem route_eq_none_iff (h : s.Plotted plans known t) (hp : p ∈ plans) : p.route = none ↔ p.routeId? = none := by
  rw [h.plans p hp]
  cases hkey : p.routeId? with
  | none => simp
  | some key => simpa [h.known_eq_none_iff] using SignalPlan.mem_routeIds hp hkey

theorem routeId?_eq_of_route_eq (h : s.Plotted plans known t) (hp : p ∈ plans) (hq : q ∈ plans)
    (heq : p.route = q.route) : p.routeId? = q.routeId? := by
  cases hroute : q.route with
  | none =>
    rw [(h.route_eq_none_iff hp).1 (heq.trans hroute), (h.route_eq_none_iff hq).1 hroute]
  | some n =>
    obtain ⟨key, hkey, hn⟩ := (h.route_eq_some_iff hp).1 (heq.trans hroute)
    obtain ⟨key', hkey', hn'⟩ := (h.route_eq_some_iff hq).1 hroute
    rw [hkey, hkey', Staging.routeOf?_inj hn hn']

theorem shares (h : s.Plotted plans known t) : s.Shares plans t where
  route_eq_none_iff _ hp := h.route_eq_none_iff hp
  route_eq_iff p hp q hq := by
    refine ⟨h.routeId?_eq_of_route_eq hp hq, fun heq => ?_⟩
    rw [h.plans p hp, h.plans q hq, heq]
  numbered p hp n hn := by
    obtain ⟨key, hkey, hroute⟩ := (h.route_eq_some_iff hp).1 hn
    obtain ⟨i, hi, rfl⟩ := Option.map_eq_some_iff.1 hroute
    obtain ⟨hlt, hid, -⟩ := List.idxOf?_eq_some_iff.1 hi
    exact ⟨i, rfl, by rw [List.getElem?_eq_getElem hlt, hid, hkey]⟩
  kept := h.old
  added i key hkey := by
    have hleads := SignalPlan.isSome_leader?_iff.2 (List.mem_of_getElem? hkey)
    obtain ⟨p, hp⟩ := Option.isSome_iff_exists.1 hleads
    exact ⟨p, hp, by rw [h.added, hkey, Option.bind_some, hp, Option.map_some]⟩
  no_more n hn := by
    obtain ⟨i, rfl⟩ := Nat.exists_eq_add_of_le (Nat.le_of_add_right_le hn)
    rw [h.added, List.getElem?_eq_none (by omega)]
    rfl
  count := h.count

theorem routes_eq (h : s.Plotted plans known t) (hnone : routeIds plans = [])
    (hroutes : ∀ n, s.counters.routes ≤ n → s.routes.get? n = none) : t.routes = s.routes := by
  refine KeyMap.ext_get? fun n => ?_
  rcases Nat.lt_or_ge n s.counters.routes with hn | hn
  · exact h.old n hn
  · rw [hroutes n hn, h.shares.no_more n (by simpa [hnone] using hn)]

end Stage.Plotted

namespace Staging

variable (sources : Sources) (map : RoadMap) (network : Element) {s : Stage}

/-- The signals of a network are numbered from one in their order, each for its controller. Where a plan is active they
have the compact descriptions of the parameters, and share routes by the ids given there; elsewhere they have no
routes. -/
theorem signals_share_routes (hsignals : s.counters.signals = 0)
    (hroutes : ∀ n, s.counters.routes ≤ n → s.routes.get? n = none) :
    ∃ m t, exec sources map (signals network) s = (m, t) ∧
      m.keys = List.range' 1 (controllers network).length ∧
      (∀ k p, m.get? k = some p → p.id = k) ∧
      m.values.map (·.controller) = (controllers network).map (·.controllerIn s.parameters) ∧
      ((s.parameters.get? "ActivePlan").isSome →
        (∀ p ∈ m.values, p.compact = compactOf s.parameters p.controller) ∧ s.Shares m.values t) ∧
      (s.parameters.get? "ActivePlan" = none →
        (∀ p ∈ m.values, p.route = none) ∧ t.routes = s.routes ∧ t.counters.routes = s.counters.routes) := by
  obtain ⟨plans, known, t, hexec, hplotted, hcontrollers, hcompacts⟩ := exec_signalPlans_plotted sources map
    ((s.parameters.get? "ActivePlan").map (·.value)) (controllers network) (Stage.Plotted.start hroutes)
  rw [List.nil_append] at hplotted
  have hids := signalPlans_ids sources map ((s.parameters.get? "ActivePlan").map (·.value)) ∅ (controllers network) s
  rw [hexec, hsignals] at hids
  dsimp only at hids
  have hlength : plans.length = (controllers network).length := by
    simpa using congrArg List.length hcontrollers
  have hascending : (plans.map (·.id)).Pairwise (· < ·) := by
    rw [hids]
    exact List.pairwise_lt_range'
  refine ⟨.ofList (plans.map fun p => (p.id, p)), t, exec_signals sources map network hexec, ?keys, ?numbers, ?_⟩
  case keys => rw [KeyMap.keys_ofList_map hascending, hids, hlength]
  case numbers => exact fun _ _ => KeyMap.key_of_get?_ofList_map hascending
  rw [KeyMap.values_ofList_map hascending]
  refine ⟨hcontrollers, ?active, ?inactive⟩
  case active =>
    intro hactive
    refine ⟨fun p hp => ?_, hplotted.shares⟩
    rw [hcompacts p hp, compactIn, Option.isSome_map, if_pos hactive]
  case inactive =>
    intro hinactive
    have hapart : ∀ p ∈ plans, p.routeId? = none := fun p hp => by
      rw [SignalPlan.routeId?, hcompacts p hp, hinactive]
      rfl
    have hnone : routeIds plans = [] := by
      rw [routeIds, List.filterMap_eq_nil_iff.2 hapart]
      rfl
    refine ⟨fun p hp => (hplotted.route_eq_none_iff hp).2 (hapart p hp), hplotted.routes_eq hnone hroutes, ?_⟩
    rw [hplotted.count, hnone]
    rfl

end Staging

namespace Sample

def planned : Stage where
  parameters := ((((({} : Parameters).declare "ActivePlan" .string "2").declare
    "TrafficInfo_north" .string "routeid:9;route:113,28,0;plan:3").declare
    "TrafficInfo_east" .string "start_t:5;routeid:7").declare
    "TrafficInfo_south" .string "phase:1,2").declare
    "TrafficInfo_west" .string "route:114,28,0;routeid:9"
  counters := { routes := 1 }
  routes := (∅ : KeyMap Nat Route).insert 0 ⟨0, "Ego", .assigned, "", none, "", []⟩

def crossing : Element :=
  .of "RoadNetwork" [] [.of "TrafficSignals" [] (["north", "east", "south", "west"].map fun name =>
    .of "TrafficSignalController" [("name", name)] [])]

end Sample

open Staging in
theorem crossing_share_routes : ∃ m t, exec .bare .blank (signals Sample.crossing) Sample.planned = (m, t) ∧
    m.keys = [1, 2, 3, 4] ∧ Sample.planned.Shares m.values t ∧
    m.values.map (fun p => (p.controller, p.routeId?, p.route)) =
      [("north", some "9", some 1), ("east", some "7", some 2), ("south", none, none), ("west", some "9", some 1)] := by
  have hroutes : ∀ n, Sample.planned.counters.routes ≤ n → Sample.planned.routes.get? n = none :=
    fun n hn => KeyMap.get?_insert_of_ne (Nat.ne_of_gt hn) _ _
  obtain ⟨m, t, hexec, hkeys, -, -, hactive, -⟩ := signals_share_routes .bare .blank Sample.crossing rfl hroutes
  have hm : m = (exec .bare .blank (signals Sample.crossing) Sample.planned).1 := by rw [hexec]
  refine ⟨m, t, hexec, hkeys.trans (by decide), (hactive (by decide)).2, ?_⟩
  rw [hm]
  decide +kernel

end Scenography
