import Scenography.Proofs.CommandLine.Courses
import Scenography.Proofs.Json.Lines
import Scenography.Proofs.Memo

namespace Scenography.CommandLine

open Json (quote)

variable {α β : Type} {log : List Exchange}

section Quiet

def Exchange.Quiet : Exchange → Prop
  | ⟨.write _ _, _⟩ => False
  | ⟨.say _, _⟩ => False
  | _ => True

def Errand.Quiet (p : Errand α) : Prop :=
  ∀ log a, p.Ends log a → ∀ x ∈ log, x.Quiet

namespace Errand.Quiet

variable {p : Errand α} {f : α → Errand β}

protected theorem pure (a : α) : Quiet (pure a) := by
  intro log b h
  obtain ⟨rfl, -⟩ := ends_pure.1 h
  exact List.forall_mem_nil _

protected theorem ask {r : Request} (h : ∀ answer, (⟨r, answer⟩ : Exchange).Quiet) : (ask r).Quiet := by
  intro log a ha
  rw [ends_ask.1 ha, List.forall_mem_singleton]
  exact h a

protected theorem bind (hp : p.Quiet) (hf : ∀ a, (f a).Quiet) : (p >>= f).Quiet := by
  intro log b h
  obtain ⟨a, front, back, rfl, ha, hb⟩ := ends_bind.1 h
  rw [List.forall_mem_append]
  exact ⟨hp _ _ ha, hf a _ _ hb⟩

theorem makeFolder {path : String} {around : Errand (Except Trouble Unit)} (h : around.Quiet) :
    (makeFolder path around).Quiet := by
  have hmake : (Errand.ask (.makeFolder path)).Quiet := .ask fun _ => trivial
  refine .bind hmake fun answer => ?_
  split
  · refine .bind h fun answer => ?_
    split
    · exact hmake
    · exact .pure _
  · exact .pure _

theorem makeWay (lead : String) (names : List String) : (makeWay lead names).Quiet := by
  induction names with
  | nil => exact .pure _
  | cons name names ih => exact .makeFolder ih

theorem makeFolders (path : String) : (makeFolders path).Quiet := by
  unfold Errand.makeFolders
  split
  · exact .pure _
  · exact .makeFolder (.makeWay _ _)

end Errand.Quiet

namespace Task

def Quiet (x : Task α) : Prop :=
  ∀ log r, x.Ends log r → (∀ e ∈ log, e.Quiet) ∧ ∀ f, r = .error f → Unbroken f.code

namespace Quiet

variable {x : Task α} {f : α → Task β}

protected theorem pure (a : α) : Quiet (pure a) := by
  intro log r h
  obtain ⟨rfl, rfl⟩ := ends_pure.1 h
  exact ⟨List.forall_mem_nil _, nofun⟩

protected theorem throw {f : Failure} (h : Unbroken f.code) : Quiet (throw f : Task α) := by
  intro log r hr
  obtain ⟨rfl, rfl⟩ := ends_throw.1 hr
  exact ⟨List.forall_mem_nil _, fun g hg => Except.error.inj hg ▸ h⟩

protected theorem bind (hx : x.Quiet) (hf : ∀ a, (f a).Quiet) : (x >>= f).Quiet := by
  intro log r h
  rcases ends_bind.1 h with ⟨e, rfl, he⟩ | ⟨a, front, back, rfl, ha, hb⟩
  · exact ⟨(hx _ _ he).1, fun g hg => (hx _ _ he).2 g (Except.error.inj hg ▸ rfl)⟩
  · rw [List.forall_mem_append]
    exact ⟨⟨(hx _ _ ha).1, (hf a _ _ hb).1⟩, (hf a _ _ hb).2⟩

theorem lift {p : Errand α} (hp : p.Quiet) : (liftM p : Task α).Quiet := by
  intro log r h
  obtain ⟨a, rfl, ha⟩ := ends_lift.1 h
  exact ⟨hp _ _ ha, nofun⟩

theorem orFail {x : Except Trouble α} {f : Trouble → Failure} (hf : ∀ t, Unbroken (f t).code) : (orFail x f).Quiet := by
  cases x with
  | ok a => exact .pure a
  | error t => exact .throw (hf t)

theorem readFile (path : String) {f : Trouble → Failure} (hf : ∀ t, Unbroken (f t).code) : (readFile path f).Quiet :=
  .bind (.lift (.ask fun _ => trivial)) fun _ => .orFail hf

theorem mapM {f : α → Task β} (hf : ∀ a, (f a).Quiet) (l : List α) : (l.mapM f).Quiet := by
  induction l with
  | nil => exact .pure _
  | cons a l ih =>
    rw [List.mapM_cons]
    exact .bind (hf a) fun b => .bind ih fun bs => .pure _

theorem settings (path : Option String) : (settings path).Quiet := by
  have hcode : Unbroken "CONFIG_INVALID" := by simp [Unbroken]
  cases path with
  | none => exact .pure _
  | some path =>
    refine .bind (.readFile path fun _ => hcode) fun text => ?_
    split
    · exact .pure _
    · exact .throw hcode

theorem catalog (path : Option String) : (catalog path).Quiet := by
  have hcode : Unbroken "CATALOG_INVALID" := by simp [Unbroken]
  cases path with
  | none => exact .pure _
  | some path =>
    refine .bind (.readFile path fun _ => hcode) fun text => ?_
    split
    · exact .pure _
    next d _ =>
      refine .throw ?_
      cases d with
      | text => exact hcode
      | fragment => simp [Unbroken, Shelf.failure, Failure.ofMarkup]

theorem inputPaths (input : String) : (inputPaths input).Quiet := by
  refine .bind (.lift (.ask fun _ => trivial)) fun answer => .bind (.orFail fun _ => by simp [Unbroken]) fun location => ?_
  split
  · exact .bind (.lift (.ask fun _ => trivial)) fun _ => .bind (.orFail fun _ => by simp [Unbroken]) fun _ => .pure _
  · exact .pure _

theorem sources (input : String) : (sources input).Quiet := by
  have hmany (paths : List String) : (paths.mapM source).Quiet :=
    .mapM (fun path => .bind (.readFile path fun _ => by simp [Unbroken]) fun _ => .pure _) paths
  refine .bind (.inputPaths input) fun paths => ?_
  split
  · exact .bind (.throw (by simp [Unbroken])) fun _ => hmany paths
  · exact hmany paths

theorem makeOut (out : Option String) : (makeOut out).Quiet := by
  cases out with
  | none => exact .pure _
  | some path => exact .bind (.lift (.makeFolders path)) fun _ => .orFail fun _ => by simp [Unbroken]

end Quiet

end Task

end Quiet

section Opening

inductive Configured (read? : String → Option α) (standard : α) : Option String → List Exchange → α → Prop
  | standard : Configured read? standard none [] standard
  | read {path text : String} {a : α} (h : read? text = some a) :
    Configured read? standard (some path) [⟨.read path, .ok text⟩] a

inductive Listed (input : String) : List Exchange → List String → Prop
  | file (path : String) : Listed input [⟨.locate input, .ok ⟨path, false⟩⟩] [path]
  | folder (path : String) (found : List String) :
    Listed input [⟨.locate input, .ok ⟨path, true⟩⟩, ⟨.scan path, .ok found⟩] (Task.scenarioPaths found)

namespace Source

def Named (d : Source) : Prop :=
  d.name = (Path.stem? d.path).getD "scenario"

def reading (d : Source) : Exchange :=
  ⟨.read d.path, .ok d.text⟩

def StagedAs (sources : Sources) (d : Source) (s : Staged) : Prop :=
  (stageText sources d.text).run Plane.standard.roadMap = .ok s

end Source

def catalog? (text : String) : Option Catalog :=
  (Shelf.read text).toOption.map (·.catalog)

def Opened (a : Arguments) (log : List Exchange) (sources : Sources) (documents : List Source) : Prop :=
  ∃ settings catalog listing, Configured Settings.read? .standard a.config settings sources.settings ∧
    Configured catalog? .empty a.catalog catalog sources.catalog ∧ Listed a.input listing (documents.map (·.path)) ∧
    documents ≠ [] ∧ (∀ d ∈ documents, d.Named) ∧
    log = settings ++ (catalog ++ (listing ++ documents.map Source.reading))

theorem Opened.named {a : Arguments} {sources : Sources} {documents : List Source} (h : Opened a log sources documents) :
    ∀ d ∈ documents, d.Named := by
  obtain ⟨_, _, _, -, -, -, -, hnamed, -⟩ := h
  exact hnamed

theorem Opened.reading_mem {a : Arguments} {sources : Sources} {documents : List Source} (h : Opened a log sources documents)
    {d : Source} (hd : d ∈ documents) : d.reading ∈ log := by
  obtain ⟨_, _, _, -, -, -, -, -, rfl⟩ := h
  have hmem : d.reading ∈ documents.map Source.reading := List.mem_map_of_mem hd
  simp only [List.mem_append, hmem, or_true]

inductive Made : Option String → List Exchange → Prop
  | none : Made none []
  | folder {path : String} {log : List Exchange} (h : (Errand.makeFolders path).Ends log (.ok ())) : Made (some path) log

namespace Task

variable {path : String} {s : Settings} {c : Catalog} {paths : List String} {documents : List Source}

theorem ends_readFile_ok {f : Trouble → Failure} {text : String} :
    (readFile path f).Ends log (.ok text) ↔ log = [⟨.read path, .ok text⟩] := by
  rw [ends_readFile]
  constructor
  · rintro ⟨answer | answer, rfl, h⟩
    · cases h
    · rw [Except.ok.inj h]
  · rintro rfl
    exact ⟨.ok text, rfl, rfl⟩

theorem ends_configured {x : Option String → Task α} {standard a : α} {read? : String → Option α}
    {f : String → Trouble → Failure} {parse : String → Task α} (hnone : x none = pure standard)
    (hsome : ∀ path, x (some path) = readFile path (f path) >>= parse)
    (hparse : ∀ text log, (parse text).Ends log (.ok a) ↔ log = [] ∧ read? text = some a) {path : Option String} :
    (x path).Ends log (.ok a) ↔ Configured read? standard path log a := by
  cases path with
  | none =>
    rw [hnone, ends_pure]
    constructor
    · rintro ⟨rfl, h⟩
      obtain rfl := Except.ok.inj h
      exact .standard
    · rintro ⟨⟩
      exact ⟨rfl, rfl⟩
  | some path =>
    rw [hsome, ends_bind_ok]
    constructor
    · rintro ⟨text, front, back, rfl, htext, h⟩
      obtain ⟨rfl, hread⟩ := (hparse text back).1 h
      rw [ends_readFile_ok.1 htext]
      exact .read hread
    · rintro ⟨⟩
      next text hread => exact ⟨text, _, [], rfl, ends_readFile_ok.2 rfl, (hparse text []).2 ⟨rfl, hread⟩⟩

theorem ends_settings_ok {path : Option String} :
    (settings path).Ends log (.ok s) ↔ Configured Settings.read? .standard path log s := by
  refine ends_configured (x := settings) rfl (fun _ => rfl) fun text log => ?_
  cases Settings.read? text with
  | some s' => exact ends_pure.trans (by simp [eq_comm])
  | none => exact ends_throw.trans (by simp)

theorem ends_catalog_ok {path : Option String} :
    (catalog path).Ends log (.ok c) ↔ Configured catalog? .empty path log c := by
  refine ends_configured (x := catalog) rfl (fun _ => rfl) fun text log => ?_
  rw [catalog?]
  cases Shelf.read text with
  | ok shelf => exact ends_pure.trans (by simp [Except.toOption, eq_comm])
  | error d => exact ends_throw.trans (by simp [Except.toOption])

theorem ends_asked_ok {q : Request} {x : q.Answer → Except Trouble α} {f : Trouble → Failure} {k : α → Task β} {b : β} :
    ((liftM (Errand.ask q) : Task q.Answer) >>= fun answer => orFail (x answer) f >>= k).Ends log (.ok b) ↔
      ∃ answer a rest, log = ⟨q, answer⟩ :: rest ∧ x answer = .ok a ∧ (k a).Ends rest (.ok b) := by
  simp [ends_asked]

theorem ends_inputPaths_ok {input : String} : (inputPaths input).Ends log (.ok paths) ↔ Listed input log paths := by
  refine (ends_asked_ok (q := .locate input) (x := id)).trans ⟨?_, ?_⟩
  · rintro ⟨_, ⟨path, isFolder⟩, rest, rfl, rfl, h⟩
    cases isFolder with
    | false =>
      obtain ⟨rfl, hok⟩ := ends_pure.1 h
      rw [Except.ok.inj hok]
      exact .file path
    | true =>
      obtain ⟨_, found, rest, rfl, rfl, hfound⟩ := (ends_asked_ok (q := .scan path) (x := id)).1 h
      obtain ⟨rfl, hok⟩ := ends_pure.1 hfound
      rw [Except.ok.inj hok]
      exact .folder path found
  · rintro (path | ⟨path, found⟩)
    · exact ⟨.ok ⟨path, false⟩, _, [], rfl, rfl, ends_pure.2 ⟨rfl, rfl⟩⟩
    · refine ⟨.ok ⟨path, true⟩, _, _, rfl, rfl, ?_⟩
      exact (ends_asked_ok (q := .scan path) (x := id)).2 ⟨.ok found, found, [], rfl, rfl, ends_pure.2 ⟨rfl, rfl⟩⟩

theorem ends_source_ok {d : Source} : (source path).Ends log (.ok d) ↔ d.path = path ∧ d.Named ∧ log = [d.reading] := by
  refine ends_bind_ok.trans ⟨?_, ?_⟩
  · rintro ⟨text, front, back, rfl, htext, h⟩
    obtain ⟨rfl, hok⟩ := ends_pure.1 h
    rw [ends_readFile_ok.1 htext, Except.ok.inj hok]
    exact ⟨rfl, rfl, rfl⟩
  · rintro ⟨rfl, hname, rfl⟩
    refine ⟨d.text, _, [], rfl, ends_readFile_ok.2 rfl, ends_pure.2 ⟨rfl, ?_⟩⟩
    rw [← hname]

theorem ends_mapM_source_ok : (paths.mapM source).Ends log (.ok documents) ↔
    documents.map (·.path) = paths ∧ (∀ d ∈ documents, d.Named) ∧ log = documents.map Source.reading := by
  induction paths generalizing log documents with
  | nil =>
    refine ends_pure.trans ⟨?_, ?_⟩
    · rintro ⟨rfl, h⟩
      rw [Except.ok.inj h]
      exact ⟨rfl, List.forall_mem_nil _, rfl⟩
    · rintro ⟨h, -, rfl⟩
      rw [List.map_eq_nil_iff.1 h]
      exact ⟨rfl, rfl⟩
  | cons path paths ih =>
    rw [List.mapM_cons, ends_bind_ok]
    simp only [ends_bind_ok, ends_pure, ih, ends_source_ok]
    constructor
    · rintro ⟨d, _, _, rfl, ⟨rfl, hd, rfl⟩, ds, _, _, rfl, ⟨rfl, hds, rfl⟩, rfl, h⟩
      rw [Except.ok.inj h, List.append_nil]
      exact ⟨rfl, List.forall_mem_cons.2 ⟨hd, hds⟩, rfl⟩
    · rintro ⟨h, hnamed, rfl⟩
      obtain ⟨d, ds, rfl, rfl, rfl⟩ := List.map_eq_cons_iff.1 h
      obtain ⟨hd, hds⟩ := List.forall_mem_cons.1 hnamed
      exact ⟨d, _, _, rfl, ⟨rfl, hd, rfl⟩, ds, _, [], (List.append_nil _).symm, ⟨rfl, hds, rfl⟩, rfl, rfl⟩

theorem ends_sources_ok {input : String} : (sources input).Ends log (.ok documents) ↔
    ∃ listing, Listed input listing (documents.map (·.path)) ∧ documents ≠ [] ∧ (∀ d ∈ documents, d.Named) ∧
      log = listing ++ documents.map Source.reading := by
  refine ends_bind_ok.trans ⟨?_, ?_⟩
  · rintro ⟨paths, listing, back, rfl, hlisted, h⟩
    split at h
    next =>
      obtain ⟨_, _, _, -, hthrow, -⟩ := ends_bind_ok.1 h
      cases (ends_throw.1 hthrow).2
    next hne =>
      obtain ⟨rfl, hnamed, rfl⟩ := ends_mapM_source_ok.1 h
      refine ⟨listing, ends_inputPaths_ok.1 hlisted, ?_, hnamed, rfl⟩
      simpa using hne
  · rintro ⟨listing, hlisted, hne, hnamed, rfl⟩
    refine ⟨_, listing, _, rfl, ends_inputPaths_ok.2 hlisted, ?_⟩
    rw [if_neg (by simpa using hne)]
    exact ends_mapM_source_ok.2 ⟨rfl, hnamed, rfl⟩

theorem ends_makeOut_ok {out : Option String} {u : Unit} : (makeOut out).Ends log (.ok u) ↔ Made out log := by
  cases out with
  | none =>
    refine ends_pure.trans ⟨?_, ?_⟩
    · rintro ⟨rfl, -⟩
      exact .none
    · rintro ⟨⟩
      exact ⟨rfl, rfl⟩
  | some path =>
    refine ends_attempt.trans ⟨?_, ?_⟩
    · rintro ⟨answer | answer, h, hok⟩
      · cases hok
      · exact .folder h
    · rintro ⟨⟩
      exact ⟨.ok (), ‹_›, rfl⟩

end Task

theorem mapM_eq_ok_iff {ε : Type} {f : α → Except ε β} {l : List α} {bs : List β} :
    l.mapM f = .ok bs ↔ List.Forall₂ (fun a b => f a = .ok b) l bs := by
  induction l generalizing bs with
  | nil =>
    rw [List.forall₂_nil_left_iff]
    exact ⟨fun h => (Except.ok.inj h).symm, fun h => h ▸ rfl⟩
  | cons a l ih =>
    rw [List.mapM_cons, List.forall₂_cons_left_iff]
    simp only [← ih]
    cases f a with
    | error e => simp [bind, Except.bind]
    | ok b =>
      cases l.mapM f with
      | error e => simp [bind, Except.bind]
      | ok bs' => simp [bind, Except.bind, pure, Except.pure, eq_comm]

theorem exists_of_mapM_eq_error {ε : Type} {f : α → Except ε β} {l : List α} {e : ε} (h : l.mapM f = .error e) :
    ∃ a ∈ l, f a = .error e := by
  induction l with
  | nil => cases h
  | cons a l ih =>
    rw [List.mapM_cons] at h
    cases ha : f a with
    | error e' =>
      rw [ha] at h
      obtain rfl : e' = e := Except.error.inj h
      exact ⟨a, List.mem_cons_self, ha⟩
    | ok b =>
      cases hl : l.mapM f with
      | error e' =>
        rw [ha, hl] at h
        obtain rfl : e' = e := Except.error.inj h
        obtain ⟨a', hmem, ha'⟩ := ih hl
        exact ⟨a', List.mem_cons_of_mem _ hmem, ha'⟩
      | ok bs =>
        rw [ha, hl] at h
        cases h

theorem unbroken_code_of_stageText {sources : Sources} {map : RoadMap} {text : String} {f : Failure}
    (h : (stageText sources text).run map = .error f) : Unbroken f.code := by
  unfold stageText at h
  split at h
  · obtain rfl := Except.error.inj h
    simp [Unbroken, Failure.ofMarkup]
  next root _ =>
    have hfault := (Inquiry.run_bind map (stage sources root) fun r => .done (r.mapError Failure.ofFault)).symm.trans h
    cases hs : (stage sources root).run map with
    | ok s => rw [hs] at hfault; cases hfault
    | error fault =>
      rw [hs] at hfault
      obtain rfl := Except.error.inj hfault
      cases fault <;> simp [Unbroken, Failure.ofFault, Fault.code]

theorem stageAll_eq_ok_iff {sources : Sources} {documents : List Source} {staged : List Staged} :
    Task.stageAll sources Plane.standard.roadMap {} documents = .ok staged ↔
      List.Forall₂ (Source.StagedAs sources) documents staged := by
  rw [stageAll_eq sources RoadMap.Memo.remembers_start, mapM_eq_ok_iff]
  have hstep (d : Source) (s : Staged) :
      ((stageText sources d.text).run Plane.standard.roadMap).mapError d.failure = .ok s ↔ d.StagedAs sources s := by
    rw [Source.StagedAs]
    cases (stageText sources d.text).run Plane.standard.roadMap <;> simp [Except.mapError]
  simp only [hstep]

namespace Task

def prepare (a : Arguments) : Task (List (Source × Staged)) := do
  let (sources, documents) ← gather a
  makeOut a.out
  let staged ← ExceptT.mk (pure (stageAll sources Plane.standard.roadMap {} documents))
  return documents.zip staged

def announce (out : Option String) (scenes : List (Source × Staged)) : Task Unit := do
  say "RESULT:OK"
  scenes.forM fun (d, s) => emit out d s

theorem lower_eq (a : Arguments) : lower a = prepare a >>= announce a.out := by
  simp only [lower, prepare, announce, bind_assoc, pure_bind]

theorem ends_result {x r : Except Failure α} : Task.Ends (ExceptT.mk (pure x)) log r ↔ log = [] ∧ r = x :=
  Errand.ends_pure

theorem Quiet.result {x : Except Failure α} (h : ∀ f, x = .error f → Unbroken f.code) :
    Task.Quiet (ExceptT.mk (pure x)) := by
  intro log r hr
  obtain ⟨rfl, rfl⟩ := ends_result.1 hr
  exact ⟨List.forall_mem_nil _, h⟩

theorem Quiet.prepare (a : Arguments) : (prepare a).Quiet := by
  have hgather : (gather a).Quiet :=
    .bind (.settings _) fun _ => .bind (.catalog _) fun _ => .bind (.sources _) fun _ => .pure _
  refine .bind hgather fun (sources, documents) =>
    .bind (.makeOut _) fun _ => .bind (.result fun f hf => ?_) fun _ => .pure _
  rw [stageAll_eq _ RoadMap.Memo.remembers_start] at hf
  obtain ⟨d, -, hd⟩ := exists_of_mapM_eq_error hf
  cases hstage : (stageText sources d.text).run Plane.standard.roadMap with
  | ok staged => rw [hstage] at hd; cases hd
  | error g =>
    rw [hstage] at hd
    obtain rfl := Except.error.inj hd
    change Unbroken g.code
    exact unbroken_code_of_stageText hstage

theorem ends_gather_ok {a : Arguments} {sources : Sources} {documents : List Source} :
    (gather a).Ends log (.ok (sources, documents)) ↔ Opened a log sources documents := by
  simp only [gather, ends_bind_ok, ends_settings_ok, ends_catalog_ok, ends_sources_ok, ends_pure]
  constructor
  · rintro ⟨s, config, _, rfl, hs, c, catalog, _, rfl, hc, documents', _, _, rfl, ⟨listing, hlisted, hne, hnamed, rfl⟩,
      rfl, h⟩
    obtain ⟨rfl, rfl⟩ := Prod.mk.inj (Except.ok.inj h)
    exact ⟨config, catalog, listing, hs, hc, hlisted, hne, hnamed, by rw [List.append_nil]⟩
  · rintro ⟨config, catalog, listing, hs, hc, hlisted, hne, hnamed, rfl⟩
    exact ⟨_, config, _, rfl, hs, _, catalog, _, rfl, hc, documents, _, [], (List.append_nil _).symm,
      ⟨listing, hlisted, hne, hnamed, rfl⟩, rfl, rfl⟩

theorem ends_prepare_ok {a : Arguments} {scenes : List (Source × Staged)} : (prepare a).Ends log (.ok scenes) ↔
    ∃ sources documents staged opening making, Opened a opening sources documents ∧ Made a.out making ∧
      List.Forall₂ (Source.StagedAs sources) documents staged ∧ scenes = documents.zip staged ∧ log = opening ++ making := by
  simp only [prepare, ends_bind_ok, Prod.exists, ends_gather_ok, ends_makeOut_ok, ends_result, ends_pure]
  constructor
  · rintro ⟨sources, documents, opening, _, rfl, hopened, _, making, _, rfl, hmade, staged, _, _, rfl, ⟨rfl, hstaged⟩,
      rfl, h⟩
    exact ⟨sources, documents, staged, opening, making, hopened, hmade, stageAll_eq_ok_iff.1 hstaged.symm, Except.ok.inj h,
      by rw [List.append_nil, List.append_nil]⟩
  · rintro ⟨sources, documents, staged, opening, making, hopened, hmade, hstaged, rfl, rfl⟩
    exact ⟨sources, documents, opening, _, rfl, hopened, (), making, [], (List.append_nil _).symm, hmade, staged, [], [], rfl,
      ⟨rfl, (stageAll_eq_ok_iff.2 hstaged).symm⟩, rfl, rfl⟩

end Task

end Opening

end Scenography.CommandLine
