import Scenography.Proofs.Respelled.Opening
import Scenography.Proofs.Walk

namespace Scenography

open Markup (Element Spelling)

theorem Sections.ofRoot_eq_ok_iff {root : Element} {s : Sections} :
    Sections.ofRoot root = .ok s ↔ root.name = rootName ∧ root.child? "Storyboard" = some s.storyboard ∧
      s.storyboard.child? "Init" = some s.init ∧ root.child? "FileHeader" = some s.header ∧
      root.child? "Entities" = some s.entities := by
  have hrequire (e : Element) (name reason : String) (child : Element) :
      require e name reason = .ok child ↔ e.child? name = some child := by
    unfold require
    cases e.child? name <;> simp
  have hbind {α β : Type} (x : Except Fault α) (f : α → Except Fault β) (b : β) :
      x >>= f = .ok b ↔ ∃ a, x = .ok a ∧ f a = .ok b := by
    cases x <;> simp [Bind.bind, Except.bind]
  unfold ofRoot «section»
  split
  next hname => simp [hname]
  next hname =>
    simp only [hbind, hrequire, pure, Except.pure, Except.ok.injEq]
    constructor
    · rintro ⟨storyboard, hstoryboard, init, hinit, header, hheader, entities, hentities, rfl⟩
      exact ⟨not_not.1 hname, hstoryboard, hinit, hheader, hentities⟩
    · rintro ⟨-, hstoryboard, hinit, hheader, hentities⟩
      exact ⟨_, hstoryboard, _, hinit, _, hheader, _, hentities, rfl⟩

namespace Stage.Agree

variable {K : Aside → Aside → Prop} {ps : List Parameter} {s t : Stage}

theorem scene_eq (h : s.Agree K ps t) :
    t.scene.withReferences = { s.scene.withReferences with signals := t.signals, weather := t.weather } := by
  cases h
  rfl

protected theorem mono {L : Aside → Aside → Prop} (h : s.Agree K ps t) (hkl : ∀ a b, K a b → L a b) :
    s.Agree L ps t := by
  obtain ⟨journal, signals, weather, aside, declared⟩ := h
  exact .mk journal signals weather (hkl _ _ aside) declared

end Stage.Agree

open Staging

section Runs

variable {K : Aside → Aside → Prop} {ps : List Parameter} {sources : Sources} {map : RoadMap} {root root' : Element}
  {staged : Staged} {sections' : Sections}

theorem run_stage_of_agree (h : (stage sources root).run map = .ok staged)
    (hsections : Sections.ofRoot root' = .ok sections')
    (hagree : (finalStage sources map root).Agree K ps (finalStage sources map root')) :
    ∃ staged', (stage sources root').run map = .ok staged' ∧
      staged'.scene = { staged.scene with signals := staged'.scene.signals, weather := staged'.scene.weather } ∧
      K (staged.scene.signals, staged.scene.weather) (staged'.scene.signals, staged'.scene.weather) := by
  obtain ⟨sections, -, rfl⟩ := run_stage h
  exact ⟨_, run_stage_of_sections hsections, hagree.scene_eq, hagree.aside⟩

theorem run_stage_of_agree_eq (h : (stage sources root).run map = .ok staged)
    (hsections : Sections.ofRoot root' = .ok sections')
    (hagree : (finalStage sources map root).Agree Eq ps (finalStage sources map root')) :
    ∃ staged', (stage sources root').run map = .ok staged' ∧ staged'.scene = staged.scene := by
  obtain ⟨staged', hstaged', hscene, haside⟩ := run_stage_of_agree h hsections hagree
  obtain ⟨hsignals, hweather⟩ := Prod.mk.inj haside
  exact ⟨staged', hstaged', by rw [hscene, ← hsignals, ← hweather]⟩

/-- Documents that are alike: their openings are, and their stories are by the second spelling. -/
structure DocumentsAlike (f g : Spelling) (root root' : Element) (sections sections' : Sections) : Prop
    extends OpeningsAlike .bare f g root root' sections sections' where
  stories : List.Forall₂ (fun e e' => Element.Alike g e e' ∧ storyParameters e = storyParameters e')
    (sections.storyboard.childrenNamed "Story") (sections'.storyboard.childrenNamed "Story")

variable {f g : Spelling} {heads weather : Prop} {sections : Sections}

theorem shareTimelines_agrees : Staging.Agree K ps Eq shareTimelines shareTimelines := by
  apply Staging.Agree.modify
  rintro s _ ⟨journal, signals, weather, aside, declared⟩
  exact .mk journal signals weather aside declared

theorem finalStage_agree (hs : Sections.ofRoot root = .ok sections) (hs' : Sections.ofRoot root' = .ok sections')
    (h : (exec sources map ((sections.storyboard.childrenNamed "Story").forM story)
        (openStage sources map root sections)).2.Agree K ps
      (exec sources map ((sections'.storyboard.childrenNamed "Story").forM story)
        (openStage sources map root' sections')).2) :
    (finalStage sources map root).Agree K ps (finalStage sources map root') := by
  rw [← exec_document hs, ← exec_document hs']
  simp only [document, exec_bind]
  exact (shareTimelines_agrees sources map _ _ h).2

theorem finalStage_alike (hf : f.Faithful (parametersOf root)) (hg : g.Faithful (parametersOf root))
    (hk : g.KeepsNames) (hs : Sections.ofRoot root = .ok sections) (hs' : Sections.ofRoot root' = .ok sections')
    (h : DocumentsAlike f g root root' sections sections') (hheads : heads → headsOf root = headsOf root')
    (houtlooks : weather → outlooks sections.init = outlooks sections'.init) :
    (finalStage sources map root).Agree (Aside.Near heads weather) (parametersOf root)
      (finalStage sources map root') := by
  have hstories : Staging.Agree (Aside.Near heads weather) (parametersOf root) Eq
      ((sections.storyboard.childrenNamed "Story").forM story)
      ((sections'.storyboard.childrenNamed "Story").forM story) :=
    .forM h.stories fun _ _ he => story_alike hg hk he.1 he.2
  have hopening := opening_alike Spelling.bare_isLiteral hf hg hk h.toOpeningsAlike hheads houtlooks sources map
  exact finalStage_agree hs hs' (hstories sources map _ _ hopening).2

end Runs

end Scenography
