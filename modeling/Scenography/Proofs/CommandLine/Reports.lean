import Scenography.Proofs.CommandLine.Loading
import Scenography.Proofs.Paths
import Scenography.Proofs.Uncommenting

namespace Scenography.CommandLine

open Coded (encode)
open Scenography.CommandLine.Task (announce emit emitScene noticeLine prepare scenePath summary)

variable {log : List Exchange}

def sceneFile (p : Source × Staged) : Json :=
  encode (SceneFile.mk p.1.path p.2)

def emission (out : Option String) (p : Source × Staged) : List Exchange :=
  (summary p.1 p.2).map spoken ++ match out with
    | none => [spoken ("SCENE_JSON:" ++ (sceneFile p).compact)]
    | some folder =>
      [⟨.write (scenePath folder p.1) (sceneFile p).pretty, .ok ()⟩, spoken ("SCENE:" ++ scenePath folder p.1)]

def Stopped (out : Option String) (scenes : List (Source × Staged)) (t : Trouble) (log : List Exchange) : Prop :=
  ∃ folder front p back, out = some folder ∧ scenes = front ++ p :: back ∧
    log = front.flatMap (emission out) ++ ((summary p.1 p.2).map spoken ++
      [⟨.write (scenePath folder p.1) (sceneFile p).pretty, .error t⟩])

namespace Task

def writeFailure (t : Trouble) : Failure :=
  ⟨"CLI_SCENE_WRITE", t.message⟩

variable {out : Option String} {scenes : List (Source × Staged)} {r : Except Failure Unit} {p : Source × Staged}

theorem ends_forM_cons {α : Type} {f : α → Task Unit} {a : α} {l : List α} : ((a :: l).forM f).Ends log r ↔
    (∃ e, r = .error e ∧ (f a).Ends log (.error e)) ∨
      ∃ u front back, log = front ++ back ∧ (f a).Ends front (.ok u) ∧ (l.forM f).Ends back r :=
  ends_bind

theorem ends_forM_say {lines : List String} :
    (lines.forM say).Ends log r ↔ log = lines.map spoken ∧ r = .ok () := by
  induction lines generalizing log with
  | nil => exact ends_pure
  | cons line lines ih =>
    rw [ends_forM_cons]
    simp only [ends_say, ih]
    constructor
    · rintro (⟨e, -, -, he⟩ | ⟨_, _, _, rfl, ⟨rfl, -⟩, rfl, rfl⟩)
      · cases he
      · exact ⟨rfl, rfl⟩
    · rintro ⟨rfl, rfl⟩
      exact .inr ⟨(), [spoken line], lines.map spoken, rfl, ⟨rfl, trivial⟩, rfl, rfl⟩

theorem ends_emitScene_none : (emitScene none p.1 p.2).Ends log r ↔
    log = [spoken ("SCENE_JSON:" ++ (sceneFile p).compact)] ∧ r = .ok () :=
  ends_say

theorem ends_emitScene_some {folder : String} : (emitScene (some folder) p.1 p.2).Ends log r ↔
    (log = [⟨.write (scenePath folder p.1) (sceneFile p).pretty, .ok ()⟩, spoken ("SCENE:" ++ scenePath folder p.1)] ∧
      r = .ok ()) ∨
    ∃ t, log = [⟨.write (scenePath folder p.1) (sceneFile p).pretty, .error t⟩] ∧ r = .error (writeFailure t) := by
  refine (ends_asked (q := .write (scenePath folder p.1) (sceneFile p).pretty) (x := id)).trans ?_
  simp only [ends_say]
  constructor
  · rintro (⟨_, t, rfl, rfl, rfl⟩ | ⟨_, _, _, rfl, rfl, rfl, rfl⟩)
    · exact .inr ⟨t, rfl, rfl⟩
    · exact .inl ⟨rfl, rfl⟩
  · rintro (⟨rfl, rfl⟩ | ⟨t, rfl, rfl⟩)
    · exact .inr ⟨.ok (), (), _, rfl, rfl, rfl, rfl⟩
    · exact .inl ⟨.error t, t, rfl, rfl, rfl⟩

theorem ends_emit : (emit out p.1 p.2).Ends log r ↔ (log = emission out p ∧ r = .ok ()) ∨
    ∃ folder t, out = some folder ∧ r = .error (writeFailure t) ∧
      log = (summary p.1 p.2).map spoken ++ [⟨.write (scenePath folder p.1) (sceneFile p).pretty, .error t⟩] := by
  have hsplit : (emit out p.1 p.2).Ends log r ↔
      ∃ back, log = (summary p.1 p.2).map spoken ++ back ∧ (emitScene out p.1 p.2).Ends back r := by
    refine ends_bind.trans ?_
    simp only [ends_forM_say]
    constructor
    · rintro (⟨e, -, -, he⟩ | ⟨_, _, back, rfl, ⟨rfl, -⟩, h⟩)
      · cases he
      · exact ⟨back, rfl, h⟩
    · rintro ⟨back, rfl, h⟩
      exact .inr ⟨(), _, back, rfl, ⟨rfl, trivial⟩, h⟩
  rw [hsplit]
  cases out with
  | none =>
    simp only [ends_emitScene_none]
    constructor
    · rintro ⟨_, rfl, rfl, rfl⟩
      exact .inl ⟨rfl, rfl⟩
    · rintro (⟨rfl, rfl⟩ | ⟨_, _, hout, -⟩)
      · exact ⟨_, rfl, rfl, rfl⟩
      · cases hout
  | some folder =>
    simp only [ends_emitScene_some]
    constructor
    · rintro ⟨_, rfl, ⟨rfl, rfl⟩ | ⟨t, rfl, rfl⟩⟩
      · exact .inl ⟨rfl, rfl⟩
      · exact .inr ⟨folder, t, rfl, rfl, rfl⟩
    · rintro (⟨rfl, rfl⟩ | ⟨_, t, hout, rfl, rfl⟩)
      · exact ⟨_, rfl, .inl ⟨rfl, rfl⟩⟩
      · obtain rfl := Option.some.inj hout
        exact ⟨_, rfl, .inr ⟨t, rfl, rfl⟩⟩

theorem ends_scenes : (scenes.forM fun (d, s) => emit out d s).Ends log r ↔
    (log = scenes.flatMap (emission out) ∧ r = .ok ()) ∨ ∃ t, r = .error (writeFailure t) ∧ Stopped out scenes t log := by
  induction scenes generalizing log with
  | nil =>
    refine ends_pure.trans ⟨.inl, ?_⟩
    rintro (h | ⟨t, -, _, front, p, back, -, hnil, -⟩)
    · exact h
    · cases front <;> cases hnil
  | cons p scenes ih =>
    rw [ends_forM_cons]
    simp only [ih]
    constructor
    · rintro (⟨e, rfl, h⟩ | ⟨_, _, _, rfl, h, hrest⟩)
      · rcases ends_emit.1 h with ⟨-, hok⟩ | ⟨folder, t, hout, herror, rfl⟩
        · cases hok
        · exact .inr ⟨t, herror, folder, [], p, scenes, hout, rfl, rfl⟩
      · rcases ends_emit.1 h with ⟨rfl, -⟩ | ⟨_, _, -, herror, -⟩
        · rcases hrest with ⟨rfl, rfl⟩ | ⟨t, rfl, folder, front, q, back, hout, rfl, rfl⟩
          · exact .inl ⟨rfl, rfl⟩
          · exact .inr ⟨t, rfl, folder, p :: front, q, back, hout, rfl, by rw [List.flatMap_cons, List.append_assoc]⟩
        · cases herror
    · rintro (⟨rfl, rfl⟩ | ⟨t, rfl, folder, front, q, back, hout, hsplit, rfl⟩)
      · exact .inr ⟨(), _, _, rfl, ends_emit.2 (.inl ⟨rfl, rfl⟩), .inl ⟨rfl, rfl⟩⟩
      · cases front with
        | nil =>
          obtain ⟨rfl, rfl⟩ := List.cons.inj hsplit
          exact .inl ⟨_, rfl, ends_emit.2 (.inr ⟨folder, t, hout, rfl, rfl⟩)⟩
        | cons p' front =>
          obtain ⟨rfl, rfl⟩ := List.cons.inj hsplit
          rw [List.flatMap_cons, List.append_assoc]
          exact .inr ⟨(), _, _, rfl, ends_emit.2 (.inl ⟨rfl, rfl⟩), .inr ⟨t, rfl, folder, front, q, back, hout, rfl, rfl⟩⟩

theorem ends_announce : (announce out scenes).Ends log r ↔ ∃ rest, log = spoken "RESULT:OK" :: rest ∧
    ((rest = scenes.flatMap (emission out) ∧ r = .ok ()) ∨ ∃ t, r = .error (writeFailure t) ∧ Stopped out scenes t rest) := by
  refine ends_bind.trans ?_
  simp only [ends_say, ends_scenes]
  constructor
  · rintro (⟨e, -, -, he⟩ | ⟨_, _, rest, rfl, ⟨rfl, -⟩, h⟩)
    · cases he
    · exact ⟨rest, rfl, h⟩
  · rintro ⟨rest, rfl, h⟩
    exact .inr ⟨(), _, rest, rfl, ⟨rfl, trivial⟩, h⟩

end Task

section Runs

open Errand (Ends)

variable {a : Arguments} {code : Nat}

def Complete (a : Arguments) (log : List Exchange) : Prop :=
  ∃ sources documents staged opening making, Opened a opening sources documents ∧ Made a.out making ∧
    List.Forall₂ (Source.StagedAs sources) documents staged ∧
    log = opening ++ (making ++ spoken "RESULT:OK" :: (documents.zip staged).flatMap (emission a.out))

theorem ends_lines {lines : List String} : (lines.forM Errand.say).Ends log () ↔ log = lines.map spoken := by
  induction lines generalizing log with
  | nil => exact Errand.ends_pure.trans (by simp)
  | cons line lines ih =>
    refine Errand.ends_bind.trans ?_
    constructor
    · rintro ⟨_, front, back, rfl, hsay, hrest⟩
      rw [Errand.ends_ask.1 hsay, ih.1 hrest]
      rfl
    · rintro rfl
      exact ⟨(), [spoken line], lines.map spoken, rfl, Errand.ends_ask.2 rfl, ih.2 rfl⟩

theorem ends_run : (Call.lower a).run.Ends log code ↔
    (code = 0 ∧ (Task.lower a).Ends log (.ok ())) ∨
      ∃ f front, code = 1 ∧ (Task.lower a).Ends front (.error f) ∧ log = front ++ (failureLines f).map spoken := by
  refine Errand.ends_bind.trans ?_
  constructor
  · rintro ⟨f | u, front, back, rfl, hlower, h⟩
    · obtain ⟨_, lines, rest, rfl, hlines, hcode⟩ := Errand.ends_bind.1 h
      obtain ⟨rfl, rfl⟩ := Errand.ends_pure.1 hcode
      rw [ends_lines.1 hlines, List.append_nil]
      exact .inr ⟨f, front, rfl, hlower, rfl⟩
    · obtain ⟨rfl, rfl⟩ := Errand.ends_pure.1 h
      rw [List.append_nil]
      exact .inl ⟨rfl, hlower⟩
  · rintro (⟨rfl, hlower⟩ | ⟨f, front, rfl, hlower, rfl⟩)
    · exact ⟨.ok (), log, [], (List.append_nil _).symm, hlower, .done _⟩
    · refine ⟨.error f, front, _, rfl, hlower, Errand.ends_bind.2 ⟨(), _, [], (List.append_nil _).symm, ?_, .done _⟩⟩
      exact ends_lines.2 rfl

theorem ends_lower_ok : (Task.lower a).Ends log (.ok ()) ↔ Complete a log := by
  rw [Task.lower_eq, Task.ends_bind_ok]
  simp only [Task.ends_prepare_ok, Task.ends_announce]
  constructor
  · rintro ⟨_, _, _, rfl, ⟨sources, documents, staged, opening, making, hopened, hmade, hstaged, rfl, rfl⟩, rest, rfl,
      ⟨rfl, -⟩ | ⟨_, herror, -⟩⟩
    · exact ⟨sources, documents, staged, opening, making, hopened, hmade, hstaged, List.append_assoc _ _ _⟩
    · cases herror
  · rintro ⟨sources, documents, staged, opening, making, hopened, hmade, hstaged, rfl⟩
    exact ⟨_, opening ++ making, _, (List.append_assoc _ _ _).symm,
      ⟨sources, documents, staged, opening, making, hopened, hmade, hstaged, rfl, rfl⟩, _, rfl, .inl ⟨rfl, trivial⟩⟩

end Runs

section Lines

variable {out : Option String} {p : Source × Staged}

def sceneLine (out : Option String) (p : Source × Staged) : String :=
  match out with
  | none => "SCENE_JSON:" ++ (sceneFile p).compact
  | some folder => "SCENE:" ++ scenePath folder p.1

end Lines

section Report

variable {a : Arguments} {code : Nat}

def Exchange.Straight : Exchange → Prop
  | ⟨.read path, _⟩ => Unbroken path
  | ⟨.write path _, _⟩ => Unbroken path
  | _ => True

def Straight (log : List Exchange) : Prop :=
  ∀ x ∈ log, x.Straight

def Refused (log : List Exchange) : Prop :=
  ∃ path text t, ⟨.write path text, .error t⟩ ∈ log

theorem Source.Named.unbroken {d : Source} (h : d.Named) (hpath : Unbroken d.path) : Unbroken d.name := by
  rw [h]
  cases hstem : Path.stem? d.path with
  | none => simp [Unbroken]
  | some stem => exact fun hmem => hpath (Path.mem_of_mem_stem? hstem hmem).1

theorem Opened.unbroken {sources : Sources} {documents : List Source} (h : Opened a log sources documents)
    (hstraight : Straight log) : ∀ d ∈ documents, Unbroken d.name :=
  fun d hd => (h.named d hd).unbroken (hstraight d.reading (h.reading_mem hd))

variable {sources : Sources} {documents : List Source} {staged : List Staged} {opening making rest : List Exchange}

section Scenes

variable {out : Option String} {scenes : List (Source × Staged)}

end Scenes

theorem Stopped.refused {out : Option String} {scenes : List (Source × Staged)} {t : Trouble}
    (h : Stopped out scenes t log) : Refused log := by
  obtain ⟨folder, front, p, back, -, -, rfl⟩ := h
  exact ⟨scenePath folder p.1, (sceneFile p).pretty, t, by simp⟩

end Report

namespace Sample

def barest : String :=
  "<OpenSCENARIO><FileHeader/><Entities/><Storyboard><Init/></Storyboard></OpenSCENARIO>"

theorem barest_read : (Markup.document? barest.toList).any (fun root => (Sections.ofRoot root.pruned).isOk) = true := by
  unfold barest
  rw [String.toList_ofList]
  decide

theorem exists_stagedAs_barest (sources : Sources) (name path : String) :
    ∃ staged, Source.StagedAs sources ⟨name, path, barest⟩ staged := by
  cases hroot : Markup.document? barest.toList with
  | none => exact absurd barest_read (by rw [hroot]; exact Bool.false_ne_true)
  | some root =>
    have hok : (Sections.ofRoot root.pruned).isOk = true := by simpa [hroot] using barest_read
    exact ⟨_, run_stageText_iff.2 ⟨root.pruned, by rw [Markup.read?, hroot, Option.map_some], run_stage_of_isOk hok⟩⟩

def street : Source :=
  ⟨"street", "/street.xosc", barest⟩

theorem street_named : street.Named := by
  unfold Source.Named
  decide

def call (input : String) : Arguments where
  input := input
  out := some "/out"
  config := none
  catalog := none

def opening : List Exchange :=
  [⟨.locate "street.xosc", .ok ⟨"/street.xosc", false⟩⟩, street.reading]

def making : List Exchange :=
  [⟨.makeFolder "/out", .ok ()⟩]

theorem opened : Opened (call "street.xosc") opening ⟨.standard, .empty⟩ [street] :=
  ⟨[], [], _, .standard, .standard, .file "/street.xosc", List.cons_ne_nil _ _,
    List.forall_mem_singleton.2 street_named, rfl⟩

theorem made : Made (some "/out") making :=
  .folder (.request (r := .makeFolder "/out") (.ok () : Except Trouble Unit) (.done _))

variable (staged : Staged) (answer : Except Trouble Unit) (lines : List String)

end Sample

end Scenography.CommandLine
