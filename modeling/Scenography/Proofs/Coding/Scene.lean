import Scenography.Proofs.Coding.Event

namespace Scenography

open Coded Json Measured

variable {f : String → Form} {d : Nat}

section Routes

theorem legible_waypoint {w : Waypoint} (h : Readable w) : Legible f (d + 1) w := by
  obtain ⟨hplace, hlane⟩ := h.pair rfl
  exact .of_record Waypoint.members
    [⟨w.lon, hplace.double rfl (by simp)⟩, ⟨w.lat, hplace.double rfl (by simp)⟩, ⟨w.alt, hplace.double rfl (by simp)⟩,
      ⟨w.heading, hplace.double rfl (by simp)⟩, ⟨w.road, legible_option rfl fun n _ => legible_uint64 n⟩,
      ⟨w.lane, legible_option rfl fun i _ => legible_int64 i⟩,
      ⟨w.shift, legible_optionDouble (hlane.of_mem (by simp))⟩,
      ⟨w.offset, legible_optionDouble (hlane.of_mem (by simp))⟩]
    rfl (by decide) rfl fun j hj => by simp [decode?, hj]

theorem legible_route {r : Route} (h : Readable r) : Legible f (d + 3) r := by
  obtain ⟨hid, hpath⟩ := h.pair rfl
  exact .of_record Route.members
    [⟨r.id, legible_count hid⟩, ⟨r.owner, legible_str r.owner⟩, ⟨r.kind, legible_routeKind r.kind⟩,
      ⟨r.start, legible_str r.start⟩, ⟨r.stop, legible_optionStr r.stop⟩, ⟨r.between, legible_str r.between⟩,
      ⟨r.path, legible_list fun w hw => legible_waypoint (hpath.of_mem hw)⟩]
    rfl (by decide) rfl fun j hj => by simp [decode?, hj]

end Routes

section Timelines

theorem legible_cueKind (c : CueKind) : Legible f d c :=
  legible_choice rfl (fun _ => rfl) (by cases c <;> rfl)

theorem legible_stopKind (c : StopKind) : Legible f d c :=
  legible_choice rfl (fun _ => rfl) (by cases c <;> rfl)

theorem legible_ramp {r : Ramp} (h : Readable r) : Legible f (d + 1) r :=
  .of_record Ramp.members
    [⟨r.acceleration, h.double rfl (by simp)⟩, ⟨r.stopKind, legible_stopKind r.stopKind⟩,
      ⟨r.stopValue, h.double rfl (by simp)⟩]
    rfl (by decide) rfl fun j hj => by simp [decode?, hj]

theorem legible_merge {m : Merge} (h : Readable m) : Legible f (d + 1) m :=
  .of_record Merge.members
    [⟨m.direction, legible_int64 m.direction⟩, ⟨m.duration, h.double rfl (by simp)⟩,
      ⟨m.offset, h.double rfl (by simp)⟩]
    rfl (by decide) rfl fun j hj => by simp [decode?, hj]

theorem legible_speed {s : Speed} (h : Readable s) : Legible f (d + 1) s :=
  .of_record Speed.members [⟨s.speed, legible_double h⟩] rfl (by decide) rfl fun j hj => by simp [decode?, hj]

theorem legible_walk {w : Walk} (h : Readable w) : Legible f (d + 1) w :=
  .of_record Walk.members [⟨w.speed, h.double rfl (by simp)⟩, ⟨w.direction, h.double rfl (by simp)⟩]
    rfl (by decide) rfl fun j hj => by simp [decode?, hj]

variable {π : Type} [Coded π] [Measured π]

theorem legible_node {n : Node π} (h : Readable n) (hpayload : ∀ p : π, Readable p → Legible f (d + 1) p) :
    Legible f (d + 2) n := by
  obtain ⟨hvalue, h⟩ := h.pair rfl
  obtain ⟨hcount, hp⟩ := h.pair rfl
  exact .of_record Node.members
    [⟨n.cue.value, legible_double hvalue⟩, ⟨n.cue.kind, legible_cueKind n.cue.kind⟩,
      ⟨n.cue.mode, legible_distanceMode n.cue.mode⟩, ⟨n.count, legible_count hcount⟩, ⟨n.payload, hpayload _ hp⟩]
    rfl (by decide) rfl fun j hj => by simp [decode?, hj]

theorem legible_timeline {t : Timeline π} (h : Readable t) (hpayload : ∀ p : π, Readable p → Legible f (d + 1) p) :
    Legible f (d + 4) t := by
  have hnodes : Readable t.nodes := h
  exact .of_record Timeline.members
    [⟨t.id, legible_str t.id⟩, ⟨t.nodes, legible_list fun n hn => legible_node (hnodes.of_mem hn) hpayload⟩]
    rfl (by decide) rfl fun j hj => by simp [decode?, hj]

theorem legible_timelines {m : KeyMap String (Timeline π)} (h : Readable m)
    (hpayload : ∀ p : π, Readable p → Legible f (d + 1) p) : Legible f (d + 5) m :=
  legible_keyMap (fun _ _ => rfl) fun _ he => legible_timeline (h.of_mem_entries he).2 hpayload

end Timelines

section Signals

theorem legible_lights {l : Lights} (h : Readable l) : Legible f (d + 1) l :=
  .of_record Lights.members
    [⟨l.red, h.double rfl (by simp)⟩, ⟨l.green, h.double rfl (by simp)⟩, ⟨l.yellow, h.double rfl (by simp)⟩]
    rfl (by decide) rfl fun j hj => by simp [decode?, hj]

theorem legible_signalPlan {p : SignalPlan} (h : Readable p) : Legible f (d + 2) p := by
  obtain ⟨hid, h⟩ := h.pair rfl
  obtain ⟨hlights, hroute⟩ := h.pair rfl
  exact .of_record SignalPlan.members
    [⟨p.id, legible_count hid⟩, ⟨p.controller, legible_str p.controller⟩, ⟨p.lights, legible_lights hlights⟩,
      ⟨p.plan, legible_str p.plan⟩, ⟨p.startTime, legible_str p.startTime⟩, ⟨p.route, legible_optionCount hroute⟩,
      ⟨p.junction, legible_optionStr p.junction⟩, ⟨p.laneOffset, legible_optionStr p.laneOffset⟩,
      ⟨p.phase, legible_optionStr p.phase⟩, ⟨p.phaseNumber, legible_optionStr p.phaseNumber⟩,
      ⟨p.status, legible_optionStr p.status⟩, ⟨p.lanes, legible_optionStr p.lanes⟩,
      ⟨p.heads, legible_list fun s _ => legible_str s⟩,
      ⟨p.compact, legible_keyMap (fun _ _ => rfl) fun e _ => legible_str e.2⟩]
    rfl (by decide) rfl fun j hj => by simp [decode?, hj]

theorem legible_weather {w : Weather} (h : Readable w) : Legible f (d + 1) w :=
  .of_record Weather.members
    [⟨w.timestamp, legible_int64 w.timestamp⟩, ⟨w.dateTime, legible_str w.dateTime⟩,
      ⟨w.visibility, h.double rfl (by simp)⟩, ⟨w.precipitation, legible_str w.precipitation⟩,
      ⟨w.intensity, h.double rfl (by simp)⟩, ⟨w.clouds, legible_str w.clouds⟩, ⟨w.windSpeed, h.double rfl (by simp)⟩,
      ⟨w.temperature, h.double rfl (by simp)⟩]
    rfl (by decide) rfl fun j hj => by simp [decode?, hj]

end Signals

section Scenes

theorem legible_counted {α : Type} [Coded α] [Measured α] {m : KeyMap Nat α} (h : Readable m)
    (hvalue : ∀ a : α, Readable a → Legible written d a) : Legible written (d + 1) m := by
  apply legible_keyMap
  · intro e he
    exact read?_write_count ((h.of_mem_entries he).1 (.count e.1) List.mem_cons_self)
  · intro e he
    exact hvalue _ (h.of_mem_entries he).2

theorem legible_events {m : Events} (h : Readable m) : Legible written (d + 7) m :=
  legible_counted h fun _ => legible_event

theorem legible_scene {s : Scene} (h : Readable s) : Legible written (d + 9) s := by
  obtain ⟨hentities, h⟩ := h.pair rfl
  obtain ⟨hroutes, h⟩ := h.pair rfl
  obtain ⟨hsignals, h⟩ := h.pair rfl
  obtain ⟨htimelines, h⟩ := h.pair rfl
  obtain ⟨hevents, h⟩ := h.pair rfl
  obtain ⟨hegoEvents, hweather⟩ := h.pair rfl
  obtain ⟨hramps, htimelines⟩ := htimelines.pair rfl
  obtain ⟨hmerges, htimelines⟩ := htimelines.pair rfl
  obtain ⟨hspeeds, hwalks⟩ := htimelines.pair rfl
  have hcast {m : KeyMap Nat Entity} (hm : m ∈ [s.egos, s.vehicles, s.pedestrians, s.obstacles]) :
      Legible written (d + 8) m := legible_counted (hentities.of_mem hm) fun _ => legible_entity
  have howned {m : KeyMap Nat Events} (hm : m ∈ [s.egoEvents, s.plannerEvents]) : Legible written (d + 8) m :=
    legible_counted (hegoEvents.of_mem hm) fun _ => legible_events
  exact .of_record Scene.members
    [⟨s.dialect, legible_dialect s.dialect⟩, ⟨s.description, legible_str s.description⟩,
      ⟨s.mapFile, legible_optionStr s.mapFile⟩, ⟨s.parameters, legible_list fun p _ => legible_parameter p⟩,
      ⟨s.egos, hcast (by simp)⟩, ⟨s.vehicles, hcast (by simp)⟩, ⟨s.pedestrians, hcast (by simp)⟩,
      ⟨s.obstacles, hcast (by simp)⟩, ⟨s.routes, legible_counted hroutes fun _ => legible_route⟩,
      ⟨s.signals, legible_counted hsignals fun _ => legible_signalPlan⟩,
      ⟨s.timelines.ramps, legible_timelines hramps fun _ => legible_ramp⟩,
      ⟨s.timelines.merges, legible_timelines hmerges fun _ => legible_merge⟩,
      ⟨s.timelines.speeds, legible_timelines hspeeds fun _ => legible_speed⟩,
      ⟨s.timelines.walks, legible_timelines hwalks fun _ => legible_walk⟩, ⟨s.events, legible_events hevents⟩,
      ⟨s.egoEvents, howned (by simp)⟩, ⟨s.plannerEvents, howned (by simp)⟩,
      ⟨s.weather, legible_keyMap (fun e _ => read?_write_int64 e.1) fun e he =>
        legible_weather (hweather.of_mem_entries he).2⟩]
    rfl (by decide) rfl fun j hj => by simp [decode?, hj]

theorem legible_severity (c : Severity) : Legible f d c :=
  legible_choice rfl (fun _ => rfl) (by cases c <;> rfl)

theorem legible_notice (n : Notice) : Legible f (d + 1) n :=
  .of_record Notice.members
    [⟨n.severity, legible_severity n.severity⟩, ⟨n.code, legible_str n.code⟩, ⟨n.message, legible_str n.message⟩]
    rfl (by decide) rfl fun j hj => by simp [decode?, hj]

theorem legible_journal (j : Journal) : Legible f (d + 2) j := by
  have hnotices : Legible f (d + 2) j.notices := legible_list fun n _ => legible_notice n
  refine ⟨hnotices.fits, ?_⟩
  have hreads := hnotices.reads
  change (decode? ((encode j.notices).refit f)).map Journal.mk = some j
  rw [hreads]
  rfl

theorem legible_staged {s : Staged} (h : Readable s) : Legible written (d + 10) s := by
  have hscene : Readable s.scene := h
  exact .of_record Staged.members [⟨s.scene, legible_scene hscene⟩, ⟨s.journal, legible_journal s.journal⟩]
    rfl (by decide) rfl fun j hj => by simp [decode?, hj]

end Scenes

end Scenography
