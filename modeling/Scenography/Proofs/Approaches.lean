import Scenography.Proofs.Enrolment

namespace Scenography

open Markup (Element)

namespace Stage

structure Numbered (s : Stage) : Prop where
  keys : ∀ n, (s.routes.get? n).isSome ↔ n < s.counters.routes
  id_eq : ∀ n r, s.routes.get? n = some r → r.id = n

namespace Numbered

variable {s : Stage}

theorem start (hroutes : s.routes = ∅) (hcount : s.counters.routes = 0) : s.Numbered := by
  constructor <;> simp [hroutes, hcount]

theorem congr (h : s.Numbered) {t : Stage} (hroutes : t.routes = s.routes)
    (hcount : t.counters.routes = s.counters.routes) : t.Numbered := by
  constructor
  · rw [hroutes, hcount]
    exact h.keys
  · rw [hroutes]
    exact h.id_eq

theorem lt (h : s.Numbered) {n : Nat} {r : Route} (hr : s.routes.get? n = some r) : n < s.counters.routes :=
  (h.keys n).1 (Option.isSome_iff_exists.2 ⟨r, hr⟩)

theorem ne (h : s.Numbered) {n : Nat} {r : Route} (hr : s.routes.get? n = some r) : n ≠ s.counters.routes :=
  Nat.ne_of_lt (h.lt hr)

theorem insert (h : s.Numbered) {t : Stage} {r : Route} (hid : r.id = s.counters.routes)
    (hroutes : t.routes = s.routes.insert s.counters.routes r) (hcount : t.counters.routes = s.counters.routes + 1) :
    t.Numbered := by
  constructor
  case keys =>
    intro n
    rw [hroutes, hcount, KeyMap.get?_insert]
    split
    next hn => simp [hn]
    next hn =>
      rw [h.keys]
      omega
  case id_eq =>
    intro n r' hr
    rw [hroutes, KeyMap.get?_insert] at hr
    split at hr
    next hn => rw [← Option.some.inj hr, hid, hn]
    next => exact h.id_eq n r' hr

end Numbered

structure Approaching (past : List SignalPlan) (s : Stage) : Prop extends Numbered s where
  approaches : ∀ n r, s.routes.get? n = some r → r.kind = .approach ∧ r.path = [] ∧ ∃ p ∈ past, p.route = some n
  apart : (past.map (·.id)).Nodup
  bounded : ∀ p ∈ past, p.id ≤ s.counters.signals

structure Guided (s : Stage) : Prop extends Numbered s where
  approaches : ∀ n r, s.routes.get? n = some r →
    r.kind = .approach ∧ r.path = [] ∧ ∃ k p, s.signals.get? k = some p ∧ p.route = some n

theorem Approaching.planned {past : List SignalPlan} {s t : Stage} {p : SignalPlan} (h : s.Approaching past)
    (hp : s.Planned p t) : t.Approaching (past ++ [p]) := by
  have hapart (hid : p.id = s.counters.signals + 1) : ((past ++ [p]).map (·.id)).Nodup := by
    rw [List.map_append, List.nodup_append]
    refine ⟨h.apart, List.nodup_singleton _, fun a ha b hb => ?_⟩
    obtain ⟨q, hq, rfl⟩ := List.mem_map.1 ha
    have hle := h.bounded q hq
    rw [List.map_singleton, List.mem_singleton] at hb
    omega
  have hbounded (hid : p.id = s.counters.signals + 1) : ∀ q ∈ past ++ [p], q.id ≤ s.counters.signals + 1 := by
    intro q hq
    rcases List.mem_append.1 hq with hq | hq
    · exact (h.bounded q hq).trans (Nat.le_succ _)
    · rw [List.mem_singleton.1 hq, hid]
  have hold {n : Nat} {r : Route} (hr : s.routes.get? n = some r) :
      r.kind = .approach ∧ r.path = [] ∧ ∃ q ∈ past ++ [p], q.route = some n := by
    obtain ⟨hkind, hpath, q, hq, hroute⟩ := h.approaches n r hr
    exact ⟨hkind, hpath, q, List.mem_append_left _ hq, hroute⟩
  cases hp with
  | plain hid j =>
    exact { h with approaches := fun n r hr => hold hr, apart := hapart hid, bounded := hbounded hid }
  | approached hid hroute j hr hkind hpath =>
    refine { h.toNumbered.insert hr rfl rfl with apart := hapart hid, bounded := hbounded hid, approaches := ?_ }
    intro n r hget
    rw [KeyMap.get?_insert] at hget
    split at hget
    next hn =>
      cases hget
      exact ⟨hkind, hpath, p, by simp, hroute.trans (congrArg some hn.symm)⟩
    next => exact hold hget

end Stage

namespace Staging

open Stage (Guided Approaching)

def Routeless (s : Stage) : Prop :=
  s.routes = ∅ ∧ s.counters.routes = 0

theorem routeless_heads : Heads Routeless where
  reads := fun _ _ hs => hs
  titles := fun _ _ _ _ _ hs => hs

theorem signals_guide (e : Element) (sources : Sources) (map : RoadMap) {s : Stage} (hs : Routeless s) :
    (exec sources map (do
      let signals ← signals e
      modify fun s => { s with signals }) s).2.Guided := by
  have hstart : s.Approaching [] :=
    { Stage.Numbered.start hs.1 hs.2 with
      approaches := by simp [hs.1]
      apart := .nil
      bounded := nofun }
  unfold Staging.signals
  split
  · exact { hstart with approaches := by simp [hs.1] }
  · next list _ =>
    have hplanned := signalPlans_carries (I := fun past s => s.Approaching past) (fun _ _ _ _ hs hp => hs.planned hp)
      ((s.parameters.get? "ActivePlan").map (·.value)) ∅ (list.childrenNamed "TrafficSignalController") sources map
      [] s hstart
    rw [List.nil_append] at hplanned
    simp only [exec_bind, exec_get, exec_pure, exec_modify]
    refine { hplanned with approaches := fun n r hr => ?_ }
    obtain ⟨hkind, hpath, p, hp, hroute⟩ := hplanned.approaches n r hr
    refine ⟨hkind, hpath, p.id, p, KeyMap.get?_ofList (p := (p.id, p)) ?_ (List.mem_map_of_mem hp), hroute⟩
    rw [List.map_map]
    exact hplanned.apart

theorem roadNetwork_guides (e : Element) (sources : Sources) (map : RoadMap) {s : Stage} (hs : Routeless s) :
    (exec sources map (roadNetwork e) s).2.Guided := by
  unfold roadNetwork
  split
  · next logic _ =>
    have hread := (mapFile?_reads logic).keeps (P := Routeless) (fun _ _ h => h) sources map s hs
    rw [exec_bind, exec_bind]
    exact signals_guide e sources map hread
  · exact signals_guide e sources map hs

theorem heading_guides (root : Element) (sections : Sections) (sources : Sources) (map : RoadMap) :
    (exec sources map (heading root sections) {}).2.Guided := by
  have hheader := routeless_heads.header sections.header sources map {} ⟨rfl, rfl⟩
  have hnone {s : Stage} (hs : Routeless s) : s.Guided :=
    { Stage.Numbered.start hs.1 hs.2 with approaches := by simp [hs.1] }
  unfold heading
  rw [exec_bind]
  cases root.child? "ParameterDeclarations" <;> cases root.child? "RoadNetwork" <;>
    simp only [exec_bind, exec_pure, exec_modify]
  case none.none => exact hnone hheader
  case none.some network => exact roadNetwork_guides network sources map hheader
  case some.none => exact hnone hheader
  case some.some network => exact roadNetwork_guides network sources map hheader

end Staging

end Scenography
