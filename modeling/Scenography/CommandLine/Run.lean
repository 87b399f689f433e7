import Scenography.CommandLine.Arguments
import Scenography.CommandLine.Errand
import Scenography.RoadMap.Plane
import Scenography.Scene.Coding.Scene
import Scenography.Staging.Document

namespace Scenography.CommandLine

open Coded Json

structure Source where
  name : String
  path : String
  text : String

structure SceneFile where
  source : String
  staged : Staged

def SceneFile.members : List String :=
  ["source", "scene", "diagnostics"]

instance : Coded SceneFile where
  encode f := record SceneFile.members [encode f.source, encode f.staged.scene, encode f.staged.journal]
  decode? j := match record? SceneFile.members j with
    | some [a, b, c] => do some ⟨← field? a, ⟨← field? b, ← field? c⟩⟩
    | _ => none

abbrev Task := ExceptT Failure Errand

namespace Task

def say (line : String) : Task Unit :=
  Errand.say line

def orFail {α : Type} (x : Except Trouble α) (f : Trouble → Failure) : Task α :=
  match x with
  | .ok a => return a
  | .error t => throw (f t)

def readFile (path : String) (f : Trouble → Failure) : Task String := do
  orFail (← Errand.ask (.read path)) f

def settings : Option String → Task Settings
  | none => return .standard
  | some path => do
    let text ← readFile path fun t => ⟨"CONFIG_INVALID", "Cannot read config " ++ path ++ ": " ++ t.message⟩
    match Settings.read? text with
    | some s => return s
    | none => throw ⟨"CONFIG_INVALID", "The settings are not valid."⟩

def Shelf.failure : Shelf.Defect → Failure
  | .text => ⟨"CATALOG_INVALID", "The catalog is not valid."⟩
  | .fragment => .ofMarkup

def catalog : Option String → Task Catalog
  | none => return .empty
  | some path => do
    let text ← readFile path fun t => ⟨"CATALOG_INVALID", "Cannot read catalog " ++ path ++ ": " ++ t.message⟩
    match Shelf.read text with
    | .ok s => return s.catalog
    | .error d => throw (Shelf.failure d)

def scenarioExtension : String := "xosc"

def scenarioPaths (paths : List String) : List String :=
  (paths.filter (Path.extension? · = some scenarioExtension)).mergeSort Path.notAfter

def inputPaths (input : String) : Task (List String) := do
  let location ← orFail (← Errand.ask (.locate input)) fun t => ⟨"CLI_SOURCE_PATH", t.message⟩
  if location.isFolder then
    let found ← orFail (← Errand.ask (.scan location.path)) fun t => ⟨"CLI_SOURCE_SCAN", t.message⟩
    return scenarioPaths found
  else return [location.path]

def source (path : String) : Task Source := do
  let text ← readFile path fun t => ⟨"CLI_SOURCE_READ", t.message⟩
  return { name := (Path.stem? path).getD "scenario", path, text }

def sources (input : String) : Task (List Source) := do
  let paths ← inputPaths input
  if paths.isEmpty then
    throw ⟨"CLI_SOURCE_EMPTY", "No ." ++ scenarioExtension ++ " files found under " ++ input ++ "."⟩
  paths.mapM source

/-- Stages documents one after the other. They share what the road map has answered. -/
def stageAll (s : Sources) (map : RoadMap) : RoadMap.Memo → List Source → Except Failure (List Staged)
  | _, [] => .ok []
  | memo, d :: ds =>
    match (stageText s d.text).runWith map memo with
    | (.error f, _) => .error { f with message := d.path ++ ": " ++ f.message }
    | (.ok staged, memo) => (stageAll s map memo ds).map (staged :: ·)

def noticeLine (n : Notice) : String :=
  "DIAGNOSTIC_JSON:" ++ (encode n).compact

def summary (d : Source) (s : Staged) : List String :=
  ["SCENARIO:" ++ d.name, "ENTITIES:" ++ toString s.scene.entities.length,
    "EVENTS:" ++ toString s.scene.eventCount, "DIAGNOSTICS:" ++ toString s.journal.size] ++
    s.journal.notices.map noticeLine

def scenePath (out : String) (d : Source) : String :=
  Path.join out (d.name ++ ".scene.json")

def emitScene (out : Option String) (d : Source) (s : Staged) : Task Unit := do
  let json := encode (SceneFile.mk d.path s)
  match out with
  | none => say ("SCENE_JSON:" ++ json.compact)
  | some out =>
    let path := scenePath out d
    orFail (← Errand.ask (.write path json.pretty)) fun t => ⟨"CLI_SCENE_WRITE", t.message⟩
    say ("SCENE:" ++ path)

def emit (out : Option String) (d : Source) (s : Staged) : Task Unit := do
  (summary d s).forM say
  emitScene out d s

def makeOut : Option String → Task Unit
  | none => return
  | some out => do
    orFail (← Errand.makeFolders out) fun t => ⟨"CLI_SCENE_WRITE", t.message⟩

def gather (a : Arguments) : Task (Sources × List Source) := do
  let settings ← settings a.config
  let catalog ← catalog a.catalog
  let documents ← sources a.input
  return ({ settings, catalog }, documents)

/-- Reads and stages everything before anything is said or written. -/
def lower (a : Arguments) : Task Unit := do
  let (sources, documents) ← gather a
  makeOut a.out
  let staged ← ExceptT.mk (pure (stageAll sources Plane.standard.roadMap {} documents))
  say "RESULT:OK"
  (documents.zip staged).forM fun (d, s) => emit a.out d s

end Task

def failureLines (f : Failure) : List String :=
  ["RESULT:ERROR", "ERROR_CODE:" ++ f.code, "ERROR_MSG_JSON:" ++ quote f.message]

def Call.run : Call → Errand Nat
  | .help => return 0
  | .misuse => return 2
  | .lower a => do
    match ← (Task.lower a).run with
    | .ok () => return 0
    | .error f =>
      (failureLines f).forM Errand.say
      return 1

end Scenography.CommandLine
