import Scenography.Proofs.CommandLine.Places
import Scenography.Proofs.CommandLine.Reports

namespace Scenography.CommandLine

open Coded (encode)
open Scenography.CommandLine.Task (emit emitScene scenePath summary)

variable {log : List Exchange}

def Exchange.Looking : Exchange → Prop
  | ⟨.locate _, _⟩ => True
  | ⟨.scan _, _⟩ => True
  | ⟨.read _, _⟩ => True
  | _ => False

namespace Files

variable {α : Type} {f g h : Files}

inductive Answers : Files → List Exchange → Files → Prop
  | nil (f : Files) : Answers f [] f
  | cons {f g h : Files} {r : Request} {answer : r.Answer} {log : List Exchange} (hstep : handle r f = (answer, g))
    (hlog : Answers g log h) : Answers f (⟨r, answer⟩ :: log) h

theorem answers_cons {x : Exchange} : f.Answers (x :: log) h ↔
    ∃ g, handle x.request f = (x.answer, g) ∧ g.Answers log h := by
  constructor
  · rintro ⟨⟩
    exact ⟨_, ‹_›, ‹_›⟩
  · rintro ⟨g, hstep, hlog⟩
    exact .cons hstep hlog

theorem answers_append {front back : List Exchange} :
    f.Answers (front ++ back) h ↔ ∃ g, f.Answers front g ∧ g.Answers back h := by
  induction front generalizing f with
  | nil =>
    constructor
    · exact fun hback => ⟨f, .nil f, hback⟩
    · rintro ⟨g, ⟨⟩, hback⟩
      exact hback
  | cons x front ih =>
    simp only [List.cons_append, answers_cons, ih]
    constructor
    · rintro ⟨e, hstep, g, hfront, hback⟩
      exact ⟨g, ⟨e, hstep, hfront⟩, hback⟩
    · rintro ⟨g, ⟨e, hstep, hfront⟩, hback⟩
      exact ⟨e, hstep, g, hfront, hback⟩

theorem runIn_eq_iff {p : Errand α} {a : α} :
    (p.runIn handle).run f = (a, g) ↔ ∃ log, p.Ends log a ∧ f.Answers log g := by
  induction p generalizing f with
  | done b =>
    constructor
    · intro h
      obtain ⟨rfl, rfl⟩ := Prod.mk.inj h
      exact ⟨[], .done b, .nil f⟩
    · rintro ⟨log, ⟨⟩, ⟨⟩⟩
      rfl
  | request r next ih =>
    change ((next (handle r f).1).runIn handle).run (handle r f).2 = (a, g) ↔ _
    rw [ih]
    constructor
    · rintro ⟨log, hends, hlog⟩
      exact ⟨_, .request _ hends, .cons rfl hlog⟩
    · rintro ⟨log, hends, hlog⟩
      obtain ⟨answer, rest, rfl, hrest⟩ := Errand.ends_request.1 hends
      obtain ⟨g', hstep, hg'⟩ := answers_cons.1 hlog
      rw [hstep]
      exact ⟨rest, hrest, hg'⟩

theorem Answers.looking (hlog : f.Answers log g) (hlooking : ∀ x ∈ log, x.Looking) :
    g = f ∧ ∀ x ∈ log, handle x.request f = (x.answer, f) := by
  induction hlog with
  | nil f => exact ⟨rfl, List.forall_mem_nil _⟩
  | @cons f g h r answer log hstep hlog ih =>
    obtain ⟨hx, hrest⟩ := List.forall_mem_cons.1 hlooking
    obtain rfl : g = f := by
      cases r with
      | makeFolder path => exact hx.elim
      | write path text => exact hx.elim
      | say line => exact hx.elim
      | _ => exact (Prod.mk.inj hstep).2.symm
    obtain ⟨rfl, hlater⟩ := ih hrest
    exact ⟨rfl, List.forall_mem_cons.2 ⟨hstep, hlater⟩⟩

theorem answers_spoken {lines : List String} :
    f.Answers (lines.map spoken) g ↔ g = { f with said := f.said ++ lines } := by
  induction lines generalizing f with
  | nil =>
    rw [List.append_nil]
    constructor
    · rintro ⟨⟩
      rfl
    · rintro rfl
      exact .nil f
  | cons line lines ih =>
    rw [List.map_cons, answers_cons]
    simp only [ih]
    constructor
    · rintro ⟨e, hstep, rfl⟩
      obtain rfl := (Prod.mk.inj hstep).2
      rw [List.append_assoc, List.singleton_append]
    · rintro rfl
      exact ⟨_, rfl, by rw [List.append_assoc, List.singleton_append]⟩

theorem handle_write_ok {path text : String} :
    handle (.write path text) f = (.ok (), g) ↔ f.write path text = .ok g := by
  change change (f.write path text) f = _ ↔ _
  cases f.write path text with
  | ok h => exact ⟨fun heq => congrArg Except.ok (Prod.mk.inj heq).2, fun heq => by rw [Except.ok.inj heq]; rfl⟩
  | error t => exact ⟨fun heq => (nomatch (Prod.mk.inj heq).1), nofun⟩

end Files

section Emission

open Files (Keeps Answers)

variable {f g : Files} {out : String} {p : Source × Staged} {scenes : List (Source × Staged)}

def fileName (d : Source) : String :=
  d.name ++ ".scene.json"

theorem answers_emission : f.Answers (emission (some out) p) g ↔ ∃ e,
    Files.write { f with said := f.said ++ summary p.1 p.2 } (scenePath out p.1) (sceneFile p).pretty = .ok e ∧
      g = { e with said := e.said ++ [sceneLine (some out) p] } := by
  have hline (e : Files) : e.Answers [spoken ("SCENE:" ++ scenePath out p.1)] g ↔
      g = { e with said := e.said ++ [sceneLine (some out) p] } := by
    change e.Answers ([sceneLine (some out) p].map spoken) g ↔ _
    exact Files.answers_spoken
  rw [emission, Files.answers_append]
  simp only [Files.answers_spoken, Files.answers_cons, hline, exists_eq_left]
  exact exists_congr fun e => and_congr_left fun _ => Files.handle_write_ok

theorem slash_notMem_fileName {d : Source} (h : '/' ∉ d.name.toList) : '/' ∉ (fileName d).toList := by
  simp [fileName, h]

theorem fileName_injective {d d' : Source} (h : fileName d = fileName d') : d.name = d'.name := by
  have hlist := congrArg String.toList h
  rw [fileName, fileName, String.toList_append, String.toList_append] at hlist
  exact String.toList_injective (List.append_cancel_right hlist)

theorem keeps_emission (hname : '/' ∉ p.1.name.toList) (h : f.Answers (emission (some out) p) g) :
    g.Keeps (scenePath out p.1) (fileName p.1) (sceneFile p).pretty := by
  obtain ⟨e, hwrite, rfl⟩ := answers_emission.1 h
  obtain ⟨name, hkeeps⟩ := Files.keeps_of_write hwrite
  obtain ⟨folder, hleads, -⟩ := id hkeeps
  obtain rfl : name = fileName p.1 := hleads.eq_of_join (slash_notMem_fileName hname)
  exact hkeeps.say _

theorem keeps_emission_other (hname : '/' ∉ p.1.name.toList) (h : f.Answers (emission (some out) p) g)
    {path name text : String} (hkeeps : f.Keeps path name text) (hother : name ≠ fileName p.1) :
    g.Keeps path name text := by
  obtain ⟨e, hwrite, rfl⟩ := answers_emission.1 h
  refine ((hkeeps.say _).write hwrite fun folder hleads => hother ?_).say _
  exact hleads.eq_of_join (slash_notMem_fileName hname)

theorem keeps_scenes (hnames : ∀ p ∈ scenes, '/' ∉ p.1.name.toList)
    (h : f.Answers (scenes.flatMap (emission (some out))) g) {d : Source} {text : String} (hkeeps : f.Keeps (scenePath out d) (fileName d) text) :
    ∃ text', g.Keeps (scenePath out d) (fileName d) text' ∧
      (text' = text ∨ ∃ p ∈ scenes, p.1.name = d.name ∧ text' = (sceneFile p).pretty) := by
  induction scenes generalizing f text with
  | nil =>
    cases h
    exact ⟨text, hkeeps, .inl rfl⟩
  | cons p scenes ih =>
    obtain ⟨hp, hrest⟩ := List.forall_mem_cons.1 hnames
    obtain ⟨e, hfirst, hlater⟩ := Files.answers_append.1 h
    -- The scene goes to this very file, or to another one.
    by_cases hname : p.1.name = d.name
    · have hpath : scenePath out p.1 = scenePath out d := by rw [scenePath, scenePath, hname]
      have hfile : fileName p.1 = fileName d := by rw [fileName, fileName, hname]
      have hwritten := hfile ▸ hpath ▸ keeps_emission hp hfirst
      obtain ⟨text', htext', rfl | ⟨q, hq, hqname, heq⟩⟩ := ih hrest hlater hwritten
      · exact ⟨_, htext', .inr ⟨p, List.mem_cons_self, hname, rfl⟩⟩
      · exact ⟨text', htext', .inr ⟨q, List.mem_cons_of_mem _ hq, hqname, heq⟩⟩
    · have hleft := keeps_emission_other hp hfirst hkeeps fun heq => hname (fileName_injective heq).symm
      obtain ⟨text', htext', heq | ⟨q, hq, hqname, heq⟩⟩ := ih hrest hlater hleft
      · exact ⟨text', htext', .inl heq⟩
      · exact ⟨text', htext', .inr ⟨q, List.mem_cons_of_mem _ hq, hqname, heq⟩⟩

theorem read_scenes (hnames : ∀ p ∈ scenes, '/' ∉ p.1.name.toList)
    (h : f.Answers (scenes.flatMap (emission (some out))) g) :
    ∀ p ∈ scenes, ∃ q ∈ scenes, q.1.name = p.1.name ∧ g.read (scenePath out p.1) = .ok (sceneFile q).pretty := by
  induction scenes generalizing f with
  | nil => exact List.forall_mem_nil _
  | cons p scenes ih =>
    obtain ⟨hp, hrest⟩ := List.forall_mem_cons.1 hnames
    obtain ⟨e, hfirst, hlater⟩ := Files.answers_append.1 h
    refine List.forall_mem_cons.2 ⟨?_, fun q hq => ?_⟩
    · obtain ⟨text, htext, rfl | ⟨q, hq, hname, rfl⟩⟩ := keeps_scenes hrest hlater (keeps_emission hp hfirst)
      · exact ⟨p, List.mem_cons_self, rfl, htext.read⟩
      · exact ⟨q, List.mem_cons_of_mem _ hq, hname, htext.read⟩
    · obtain ⟨q', hq', hname, hread⟩ := ih hrest hlater q hq
      exact ⟨q', List.mem_cons_of_mem _ hq', hname, hread⟩

end Emission

section Sources

theorem path_eq_of_pretty_eq {p q : Source × Staged} (h : (sceneFile p).pretty = (sceneFile q).pretty) :
    p.1.path = q.1.path := by
  have hopen (p : Source × Staged) : ∃ rest, (sceneFile p).pretty.toList =
      '\x7b' :: ((Json.Layout.block.break 1).toList ++
        ((Json.quote "source" ++ Json.Layout.block.colon).toList ++ '"' :: (Json.quoteTail p.1.path ++ rest))) := by
    have hfile : sceneFile p = .obj [(⟨"source", .plain⟩, .str p.1.path), (⟨"scene", .plain⟩, encode p.2.scene),
      (⟨"diagnostics", .plain⟩, encode p.2.journal)] := rfl
    rw [hfile, Json.pretty, Json.write, Json.writeMembers, Json.toList_enclose .block 0 "\x7b" "\x7d" rfl rfl,
      Json.writeMembers, Json.parts, Json.write, String.toList_append, Json.toList_quote p.1.path, List.append_assoc,
      List.cons_append]
    exact ⟨_, rfl⟩
  obtain ⟨rest, hp⟩ := hopen p
  obtain ⟨rest', hq⟩ := hopen q
  rw [h, hq] at hp
  have htail : Json.quoteTail q.1.path ++ rest' = Json.quoteTail p.1.path ++ rest :=
    (List.cons.inj (List.append_cancel_left (List.append_cancel_left (List.cons.inj hp).2))).2
  -- Both texts are read with fuel for the longer one.
  have hread (path : String) (rest : List Char) (hpath : (Json.quoteTail path).length ≤
      (Json.quoteTail p.1.path).length + (Json.quoteTail q.1.path).length) :=
    Json.quoted?_quoteTail path _ hpath rest
  have hglyphs := (hread q.1.path rest' (Nat.le_add_left _ _)).symm.trans
    (htail ▸ hread p.1.path rest (Nat.le_add_right _ _))
  have htext := congrArg Json.text? (Prod.mk.inj (Option.some.inj hglyphs)).1
  rw [Json.text?_glyphs, Json.text?_glyphs] at htext
  exact (Option.some.inj htext).symm

end Sources

section Keeping

variable {a : Arguments} {f g : Files} {out : String} {scenes : List (Source × Staged)} {sources : Sources}
  {documents : List Source}

/-- What a call comes to on the files: the documents there are, each staged by itself. -/
def Loaded (a : Arguments) (f : Files) (scenes : List (Source × Staged)) : Prop :=
  ∃ sources documents staged opening, Opened a opening sources documents ∧ f.Answers opening f ∧
    List.Forall₂ (Source.StagedAs sources) documents staged ∧ scenes = documents.zip staged

theorem Configured.looking {α : Type} {read? : String → Option α} {standard s : α} {path : Option String}
    (h : Configured read? standard path log s) : ∀ x ∈ log, x.Looking := by
  cases h with
  | standard => exact List.forall_mem_nil _
  | read => exact List.forall_mem_singleton.2 trivial

theorem Listed.looking {input : String} {paths : List String} (h : Listed input log paths) : ∀ x ∈ log, x.Looking := by
  cases h with
  | file path => exact List.forall_mem_singleton.2 trivial
  | folder path found => exact List.forall_mem_cons.2 ⟨trivial, List.forall_mem_singleton.2 trivial⟩

theorem Opened.looking (h : Opened a log sources documents) : ∀ x ∈ log, x.Looking := by
  obtain ⟨_, _, _, hsettings, hcatalog, hlisted, -, -, rfl⟩ := h
  simp only [List.forall_mem_append, List.forall_mem_map]
  exact ⟨hsettings.looking, hcatalog.looking, hlisted.looking, fun _ _ => trivial⟩

theorem Source.Named.slash_notMem {d : Source} (h : d.Named) : '/' ∉ d.name.toList := by
  rw [h]
  cases hstem : Path.stem? d.path with
  | none => simp
  | some stem => exact fun hmem => (Path.mem_of_mem_stem? hstem hmem).2 rfl

theorem Loaded.slash_notMem (h : Loaded a f scenes) : ∀ p ∈ scenes, '/' ∉ p.1.name.toList := by
  obtain ⟨_, documents, _, _, hopened, -, -, rfl⟩ := h
  exact fun p hp => (hopened.named p.1 (List.of_mem_zip hp).1).slash_notMem

theorem Loaded.eq_of_path_eq (h : Loaded a f scenes) {p q : Source × Staged} (hp : p ∈ scenes) (hq : q ∈ scenes)
    (hpath : p.1.path = q.1.path) : p = q := by
  obtain ⟨sources, documents, staged, opening, hopened, hanswers, hstaged, rfl⟩ := h
  obtain ⟨-, hlooked⟩ := hanswers.looking hopened.looking
  have hread {p : Source × Staged} (hp : p ∈ documents.zip staged) : f.read p.1.path = .ok p.1.text :=
    (Prod.mk.inj (hlooked p.1.reading (hopened.reading_mem (List.of_mem_zip hp).1))).1
  have htext : p.1.text = q.1.text := Except.ok.inj ((hread hp).symm.trans (hpath ▸ hread hq))
  have hname : p.1.name = q.1.name := by
    rw [hopened.named p.1 (List.of_mem_zip hp).1, hopened.named q.1 (List.of_mem_zip hq).1, hpath]
  have hsource : p.1 = q.1 := by
    calc p.1 = ⟨p.1.name, p.1.path, p.1.text⟩ := rfl
      _ = ⟨q.1.name, q.1.path, q.1.text⟩ := by rw [hname, hpath, htext]
      _ = q.1 := rfl
  have hp' : (stageText sources p.1.text).run Plane.standard.roadMap = .ok p.2 := List.forall₂_zip hstaged hp
  have hq' : (stageText sources q.1.text).run Plane.standard.roadMap = .ok q.2 := List.forall₂_zip hstaged hq
  exact Prod.ext hsource (Except.ok.inj (hp'.symm.trans (hsource ▸ hq')))

theorem Loaded.unique {scenes' : List (Source × Staged)} (h : Loaded a f scenes) (h' : Loaded a f scenes') :
    scenes = scenes' := by
  obtain ⟨sources, documents, staged, opening, hopened, hanswers, hstaged, rfl⟩ := h
  obtain ⟨sources', documents', staged', opening', hopened', hanswers', hstaged', rfl⟩ := h'
  have hrun := Files.runIn_eq_iff.2 ⟨opening, Task.ends_gather_ok.2 hopened, hanswers⟩
  have hrun' := Files.runIn_eq_iff.2 ⟨opening', Task.ends_gather_ok.2 hopened', hanswers'⟩
  obtain ⟨rfl, rfl⟩ := Prod.mk.inj (Except.ok.inj (Prod.mk.inj (hrun.symm.trans hrun')).1)
  have hright : Relator.RightUnique (Source.StagedAs sources) := fun _ _ _ h h' => Except.ok.inj (h.symm.trans h')
  rw [Relator.RightUnique.forall₂ hright hstaged hstaged']

theorem exists_loaded (h : ((Call.lower a).run.runIn Files.handle).run f = (0, g)) :
    ∃ scenes e, Loaded a f scenes ∧ Files.Answers e (scenes.flatMap (emission a.out)) g := by
  obtain ⟨log, hends, hanswers⟩ := Files.runIn_eq_iff.1 h
  rcases ends_run.1 hends with ⟨-, hlower⟩ | ⟨_, _, hcode, -⟩
  · obtain ⟨sources, documents, staged, opening, making, hopened, -, hstaged, rfl⟩ := ends_lower_ok.1 hlower
    obtain ⟨f', hopening, hrest⟩ := Files.answers_append.1 hanswers
    obtain ⟨e, -, hreport⟩ := Files.answers_append.1 hrest
    obtain ⟨e', -, hscenes⟩ := Files.answers_cons.1 hreport
    obtain ⟨rfl, -⟩ := hopening.looking hopened.looking
    exact ⟨_, e', ⟨sources, documents, staged, opening, hopened, hopening, hstaged, rfl⟩, hscenes⟩
  · cases hcode

theorem run_of_answers {staged : List Staged} {opening making : List Exchange} {e : Files} (hout : a.out = some out)
    (hopened : Opened a opening sources documents) (hopening : f.Answers opening f) (hmade : Made a.out making)
    (hmaking : f.Answers making e) (hstaged : List.Forall₂ (Source.StagedAs sources) documents staged)
    (hscenes : Files.Answers { e with said := e.said ++ ["RESULT:OK"] }
      ((documents.zip staged).flatMap (emission (some out))) g) :
    ((Call.lower a).run.runIn Files.handle).run f = (0, g) := by
  have hlower := ends_lower_ok.2 ⟨_, _, _, _, _, hopened, hmade, hstaged, rfl⟩
  refine Files.runIn_eq_iff.2 ⟨_, ends_run.2 (.inl ⟨rfl, hlower⟩), Files.answers_append.2 ⟨f, hopening, ?_⟩⟩
  exact Files.answers_append.2 ⟨e, hmaking, .cons rfl (hout ▸ hscenes)⟩

/-- After a call that ends well, there is the scene of every document in the file of its name exactly if no two documents
have the same name. -/
theorem scenes_kept_iff (hout : a.out = some out) (h : ((Call.lower a).run.runIn Files.handle).run f = (0, g)) :
    ∃ scenes, Loaded a f scenes ∧ (∀ scenes', Loaded a f scenes' → scenes' = scenes) ∧
      ((∀ p ∈ scenes, g.read (scenePath out p.1) = .ok (sceneFile p).pretty) ↔
        ∀ p ∈ scenes, ∀ q ∈ scenes, p.1.name = q.1.name → p.1.path = q.1.path) := by
  obtain ⟨scenes, e, hloaded, hanswers⟩ := exists_loaded h
  rw [hout] at hanswers
  refine ⟨scenes, hloaded, fun scenes' hloaded' => hloaded'.unique hloaded, fun hkept p hp q hq hname => ?_,
    fun hpaths p hp => ?_⟩
  · have hplace : scenePath out p.1 = scenePath out q.1 := by rw [scenePath, scenePath, hname]
    have hboth := (hkept p hp).symm.trans (hplace ▸ hkept q hq)
    exact path_eq_of_pretty_eq (Except.ok.inj hboth)
  · obtain ⟨q, hq, hname, hread⟩ := read_scenes hloaded.slash_notMem hanswers p hp
    rw [hread, hloaded.eq_of_path_eq hp hq (hpaths p hp q hq hname.symm)]

end Keeping

namespace Sample

def yard (name : String) : Files where
  items := .ofList [(["in"], .folder), (["in", "a"], .folder), (["in", "a", "x.xosc"], .file barest),
    (["in", "b"], .folder), (["in", "b", name ++ ".xosc"], .file barest)]

def left : Source :=
  ⟨"x", "/in/a/x.xosc", barest⟩

def right (name : String) : Source :=
  ⟨name, "/in/b/" ++ name ++ ".xosc", barest⟩

variable {name : String}

theorem scenarioPaths_yard (h : name = "x" ∨ name = "y") :
    Task.scenarioPaths [left.path, (right name).path] = [left.path, (right name).path] := by
  unfold Task.scenarioPaths
  rw [List.filter_eq_self.2, List.mergeSort_of_pairwise]
  · rcases h with rfl | rfl <;> decide
  · rcases h with rfl | rfl <;> decide

theorem opened_yard (h : name = "x" ∨ name = "y") : ∃ opening,
    Opened (call "/in") opening ⟨.standard, .empty⟩ [left, right name] ∧ (yard name).Answers opening (yard name) := by
  have hlisted : Listed "/in" _ _ := .folder "/in" [left.path, (right name).path]
  rw [scenarioPaths_yard h] at hlisted
  refine ⟨_, ⟨[], [], _, .standard, .standard, hlisted, List.cons_ne_nil _ _, ?_, rfl⟩, ?_⟩
  · rcases h with rfl | rfl <;> (unfold Source.Named; decide)
  · rcases h with rfl | rfl <;> exact .cons rfl (.cons rfl (.cons rfl (.cons rfl (.nil _))))

def readyYard (name : String) : Files :=
  { yard name with items := (yard name).items.insert ["out"] .folder }

theorem exists_answers_yard (h : name = "x" ∨ name = "y") (staged staged' : Staged) : ∃ g,
    Files.Answers { readyYard name with said := ["RESULT:OK"] }
      ([(left, staged), (right name, staged')].flatMap (emission (some "/out"))) g := by
  have hleft (lines : List String) (text : String) :
      Files.write { readyYard name with said := lines } (scenePath "/out" left) text =
        .ok (Files.put { readyYard name with said := lines } ["out", "x.scene.json"] text) := by
    rcases h with rfl | rfl <;> rfl
  have hright (lines lines' : List String) (text text' : String) :
      Files.write { Files.put { readyYard name with said := lines } ["out", "x.scene.json"] text with said := lines' }
          (scenePath "/out" (right name)) text' =
        .ok (Files.put { Files.put { readyYard name with said := lines } ["out", "x.scene.json"] text with said := lines' }
          ["out", name ++ ".scene.json"] text') := by
    rcases h with rfl | rfl <;> rfl
  exact ⟨_, Files.answers_append.2 ⟨_, answers_emission.2 ⟨_, hleft _ _, rfl⟩,
    Files.answers_append.2 ⟨_, answers_emission.2 ⟨_, hright _ _ _ _, rfl⟩, .nil _⟩⟩⟩

theorem exists_run_yard (h : name = "x" ∨ name = "y") : ∃ staged staged' g,
    ((Call.lower (call "/in")).run.runIn Files.handle).run (yard name) = (0, g) ∧
      Loaded (call "/in") (yard name) [(left, staged), (right name, staged')] := by
  obtain ⟨staged, hstaged⟩ := exists_stagedAs_barest ⟨.standard, .empty⟩ "x" "/in/a/x.xosc"
  obtain ⟨staged', hstaged'⟩ := exists_stagedAs_barest ⟨.standard, .empty⟩ name ("/in/b/" ++ name ++ ".xosc")
  obtain ⟨opening, hopened, hopening⟩ := opened_yard h
  have hall : List.Forall₂ (Source.StagedAs ⟨.standard, .empty⟩) [left, right name] [staged, staged'] :=
    .cons hstaged (.cons hstaged' .nil)
  have hmaking : (yard name).Answers making (readyYard name) := by
    rcases h with rfl | rfl <;> exact .cons rfl (.nil _)
  obtain ⟨g, hanswers⟩ := exists_answers_yard h staged staged'
  exact ⟨staged, staged', g, run_of_answers rfl hopened hopening made hmaking hall hanswers,
    _, _, _, _, hopened, hopening, hall, rfl⟩

end Sample

theorem yard_scenes_kept : ∃ g scenes,
    ((Call.lower (Sample.call "/in")).run.runIn Files.handle).run (Sample.yard "y") = (0, g) ∧
    Loaded (Sample.call "/in") (Sample.yard "y") scenes ∧ scenes.length = 2 ∧
    ∀ p ∈ scenes, g.read (scenePath "/out" p.1) = .ok (sceneFile p).pretty := by
  obtain ⟨staged, staged', g, hrun, hloaded⟩ := Sample.exists_run_yard (.inr rfl)
  have hout : (Sample.call "/in").out = some "/out" := rfl
  obtain ⟨scenes, -, hunique, hkept⟩ := scenes_kept_iff hout hrun
  obtain rfl := hunique _ hloaded
  refine ⟨g, _, hrun, hloaded, rfl, hkept.2 ?_⟩
  simp [Sample.left, Sample.right]

theorem yard_scene_lost : ∃ g scenes,
    ((Call.lower (Sample.call "/in")).run.runIn Files.handle).run (Sample.yard "x") = (0, g) ∧
    Loaded (Sample.call "/in") (Sample.yard "x") scenes ∧
    ∃ p ∈ scenes, g.read (scenePath "/out" p.1) ≠ .ok (sceneFile p).pretty := by
  obtain ⟨staged, staged', g, hrun, hloaded⟩ := Sample.exists_run_yard (.inl rfl)
  refine ⟨g, _, hrun, hloaded, ?_⟩
  by_contra hnone
  simp only [not_exists, not_and, not_not] at hnone
  have hleft := hnone (Sample.left, staged) List.mem_cons_self
  have hright := hnone (Sample.right "x", staged') (by simp)
  have hpath : Sample.left.path = (Sample.right "x").path :=
    path_eq_of_pretty_eq (Except.ok.inj (hleft.symm.trans hright))
  exact absurd hpath (by decide)

end Scenography.CommandLine
