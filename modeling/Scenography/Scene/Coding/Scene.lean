import Scenography.Scene.Basic
import Scenography.Scene.Coding.Entity
import Scenography.Scene.Coding.Event

namespace Scenography

open Coded Json

def Waypoint.members : List String :=
  ["lon", "lat", "alt", "heading", "road_id", "lane_id", "shift", "offset"]

instance : Coded Waypoint where
  encode x := record Waypoint.members [encode x.lon, encode x.lat, encode x.alt, encode x.heading,
    encode x.road, encode x.lane, encode x.shift, encode x.offset]
  decode? j := match record? Waypoint.members j with
    | some [a, b, c, d, e, f, g, h] => do
      some ⟨← field? a, ← field? b, ← field? c, ← field? d, ← field? e, ← field? f, ← field? g,
        ← field? h⟩
    | _ => none

def Route.members : List String :=
  ["id", "owner", "kind", "start", "end", "mids", "path"]

instance : Coded Route where
  encode x := record Route.members [encode x.id, encode x.owner, encode x.kind, encode x.start,
    encode x.stop, encode x.between, encode x.path]
  decode? j := match record? Route.members j with
    | some [a, b, c, d, e, f, g] => do
      some ⟨← field? a, ← field? b, ← field? c, ← field? d, ← field? e, ← field? f, ← field? g⟩
    | _ => none

def CueKind.key : CueKind → String
  | time => "time_absolute"
  | collision => "time_relative"
  | distance => "position_relative"
  | point => "position_absolute"

def CueKind.all : List CueKind :=
  [.time, .collision, .distance, .point]

instance : Coded CueKind where
  encode c := str c.key
  decode? := choose? CueKind.all CueKind.key

def StopKind.key : StopKind → String
  | none => "none"
  | time => "time"
  | speed => "velocity"

def StopKind.all : List StopKind :=
  [.none, .time, .speed]

instance : Coded StopKind where
  encode c := str c.key
  decode? := choose? StopKind.all StopKind.key

def Ramp.members : List String :=
  ["acceleration", "stop_kind", "stop_value"]

instance : Coded Ramp where
  encode x := record Ramp.members [encode x.acceleration, encode x.stopKind, encode x.stopValue]
  decode? j := match record? Ramp.members j with
    | some [a, b, c] => do some ⟨← field? a, ← field? b, ← field? c⟩
    | _ => none

def Merge.members : List String :=
  ["direction", "duration", "offset"]

instance : Coded Merge where
  encode x := record Merge.members [encode x.direction, encode x.duration, encode x.offset]
  decode? j := match record? Merge.members j with
    | some [a, b, c] => do some ⟨← field? a, ← field? b, ← field? c⟩
    | _ => none

def Speed.members : List String :=
  ["velocity"]

instance : Coded Speed where
  encode x := record Speed.members [encode x.speed]
  decode? j := match record? Speed.members j with
    | some [a] => do some ⟨← field? a⟩
    | _ => none

def Walk.members : List String :=
  ["velocity", "direction"]

instance : Coded Walk where
  encode x := record Walk.members [encode x.speed, encode x.direction]
  decode? j := match record? Walk.members j with
    | some [a, b] => do some ⟨← field? a, ← field? b⟩
    | _ => none

def Node.members : List String :=
  ["trigger_value", "trigger_kind", "distance_mode", "count", "payload"]

instance {π : Type} [Coded π] : Coded (Node π) where
  encode n := record Node.members [encode n.cue.value, encode n.cue.kind, encode n.cue.mode, encode n.count,
    encode n.payload]
  decode? j := match record? Node.members j with
    | some [a, b, c, d, e] => do
      some ⟨⟨← field? a, ← field? b, ← field? c⟩, ← field? d, ← field? e⟩
    | _ => none

def Timeline.members : List String :=
  ["id", "nodes"]

instance {π : Type} [Coded π] : Coded (Timeline π) where
  encode t := record Timeline.members [encode t.id, encode t.nodes]
  decode? j := match record? Timeline.members j with
    | some [a, b] => do some ⟨← field? a, ← field? b⟩
    | _ => none

def Lights.members : List String :=
  ["red", "green", "yellow"]

instance : Coded Lights where
  encode x := record Lights.members [encode x.red, encode x.green, encode x.yellow]
  decode? j := match record? Lights.members j with
    | some [a, b, c] => do some ⟨← field? a, ← field? b, ← field? c⟩
    | _ => none

def SignalPlan.members : List String :=
  ["id", "controller", "phases", "plan", "start_time", "route_id", "junction_id", "lane_offset",
    "phase", "phase_number", "status", "lanes", "signal_heads", "compact"]

instance : Coded SignalPlan where
  encode x := record SignalPlan.members [encode x.id, encode x.controller, encode x.lights,
    encode x.plan, encode x.startTime, encode x.route, encode x.junction, encode x.laneOffset,
    encode x.phase, encode x.phaseNumber, encode x.status, encode x.lanes, encode x.heads,
    encode x.compact]
  decode? j := match record? SignalPlan.members j with
    | some [a, b, c, d, e, f, g, h, i, j, k, l, m, n] => do
      some ⟨← field? a, ← field? b, ← field? c, ← field? d, ← field? e, ← field? f, ← field? g,
        ← field? h, ← field? i, ← field? j, ← field? k, ← field? l, ← field? m, ← field? n⟩
    | _ => none

def Weather.members : List String :=
  ["timestamp", "date_time", "visual_range_km", "precipitation_type", "precipitation_intensity",
    "cloud_state", "wind_speed", "temperature_c"]

instance : Coded Weather where
  encode x := record Weather.members [encode x.timestamp, encode x.dateTime, encode x.visibility,
    encode x.precipitation, encode x.intensity, encode x.clouds, encode x.windSpeed,
    encode x.temperature]
  decode? j := match record? Weather.members j with
    | some [a, b, c, d, e, f, g, h] => do
      some ⟨← field? a, ← field? b, ← field? c, ← field? d, ← field? e, ← field? f, ← field? g,
        ← field? h⟩
    | _ => none

def Scene.members : List String :=
  ["dialect", "story_description", "map_file", "parameters", "egos", "vehicles", "pedestrians",
    "obstacles", "routes", "signals", "acceleration_tracks", "merge_tracks", "velocity_tracks",
    "pedestrian_velocity_tracks", "events", "ego_events", "ego_planner_events", "environment"]

instance : Coded Scene where
  encode x := record Scene.members [encode x.dialect, encode x.description, encode x.mapFile,
    encode x.parameters, encode x.egos, encode x.vehicles, encode x.pedestrians,
    encode x.obstacles, encode x.routes, encode x.signals, encode x.timelines.ramps,
    encode x.timelines.merges, encode x.timelines.speeds, encode x.timelines.walks,
    encode x.events, encode x.egoEvents, encode x.plannerEvents, encode x.weather]
  decode? j := match record? Scene.members j with
    | some [a, b, c, d, e, f, g, h, i, j, k, l, m, n, o, p, q, r] => do
      some ⟨← field? a, ← field? b, ← field? c, ← field? d, ← field? e, ← field? f, ← field? g,
        ← field? h, ← field? i, ← field? j, ⟨← field? k, ← field? l, ← field? m, ← field? n⟩,
        ← field? o, ← field? p, ← field? q, ← field? r⟩
    | _ => none

def Severity.key : Severity → String
  | info => "info"
  | warning => "warning"
  | error => "error"

def Severity.all : List Severity :=
  [.info, .warning, .error]

instance : Coded Severity where
  encode c := str c.key
  decode? := choose? Severity.all Severity.key

def Notice.members : List String :=
  ["severity", "code", "message"]

instance : Coded Notice where
  encode x := record Notice.members [encode x.severity, encode x.code, encode x.message]
  decode? j := match record? Notice.members j with
    | some [a, b, c] => do some ⟨← field? a, ← field? b, ← field? c⟩
    | _ => none

instance : Coded Journal where
  encode j := encode j.notices
  decode? j := (decode? j).map Journal.mk

def Staged.members : List String :=
  ["scene", "diagnostics"]

instance : Coded Staged where
  encode x := record Staged.members [encode x.scene, encode x.journal]
  decode? j := match record? Staged.members j with
    | some [a, b] => do some ⟨← field? a, ← field? b⟩
    | _ => none

end Scenography
