import Scenography.Proofs.Transparency
/-!
What comes to nothing may be left out of a document: events that are not kept, and actions that ask for nothing
or fail. They leave nothing but notices.
-/

namespace Scenography

open Markup (Element Spelling)

def Markup.Element.SameTag (e e' : Element) : Prop :=
  e.name = e'.name ∧ e.attributes = e'.attributes

open Staging

section Lists

variable (sources : Sources) (map : RoadMap) {β : Type}

/-- From a stage on the second list is the first one, but elements of a name may be left out where they come to
nothing, and be thinned where they are kept. The stage is where the work on the first list has led. -/
inductive Thinned (name : String) (work : Element → Staging β) (idle : Stage → Element → Prop)
    (thins : Stage → Element → Element → Prop) : Stage → List Element → List Element → Prop
  | nil {s : Stage} : Thinned name work idle thins s [] []
  | other {s : Stage} {e e' : Element} {l l' : List Element} (hname : e.name ≠ name)
      (halike : Element.Alike .bare e e') (rest : Thinned name work idle thins s l l') :
      Thinned name work idle thins s (e :: l) (e' :: l')
  | keep {s : Stage} {e e' : Element} {l l' : List Element} (hname : e.name = name) (hname' : e'.name = name)
      (hthins : thins s e e') (rest : Thinned name work idle thins (exec sources map (work e) s).2 l l') :
      Thinned name work idle thins s (e :: l) (e' :: l')
  | drop {s : Stage} {e : Element} {l l' : List Element} (hname : e.name = name) (hidle : idle s e)
      (rest : Thinned name work idle thins (exec sources map (work e) s).2 l l') :
      Thinned name work idle thins s (e :: l) l'

def ThinnedIn (name : String) (work : Element → Staging β) (idle : Stage → Element → Prop)
    (thins : Stage → Element → Element → Prop) (s : Stage) (e e' : Element) : Prop :=
  e.SameTag e' ∧ Thinned sources map name work idle thins s e.elements e'.elements

theorem exec_forM_cons (work : Element → Staging PUnit) (e : Element) (l : List Element) (s : Stage) :
    exec sources map ((e :: l).forM work) s = exec sources map (l.forM work) (exec sources map (work e) s).2 :=
  exec_bind sources map s (work e) fun _ => l.forM work

namespace Thinned

variable {sources map} {name : String} {work : Element → Staging β} {idle : Stage → Element → Prop}
  {thins : Stage → Element → Element → Prop} {s t : Stage} {l l' : List Element} {ps : List Parameter}

protected theorem refl (hthins : ∀ s e, thins s e e) (l : List Element) (s : Stage) :
    Thinned sources map name work idle thins s l l := by
  induction l generalizing s with
  | nil => exact .nil
  | cons e l ih =>
    by_cases he : e.name = name
    · exact .keep he he (hthins s e) (ih _)
    · exact .other he rfl (ih s)

theorem filter (h : Thinned sources map name work idle thins s l l') {other : String} (hother : other ≠ name) :
    List.Forall₂ (Element.Alike .bare) (l.filter (·.name = other)) (l'.filter (·.name = other)) := by
  induction h with
  | nil => exact .nil
  | @other s e e' l l' hname halike rest ih =>
    rw [List.filter_cons, List.filter_cons, ← halike.name_eq]
    by_cases he : e.name = other
    · simpa only [he, decide_true, if_true] using .cons halike ih
    · simpa only [he, decide_false, Bool.false_eq_true, if_false] using ih
  | @keep s e e' l l' hname hname' hthins rest ih =>
    rw [List.filter_cons, List.filter_cons, hname, hname']
    simpa only [hother.symm, decide_false, Bool.false_eq_true, if_false] using ih
  | @drop s e l l' hname hidle rest ih =>
    rw [List.filter_cons, hname]
    simpa only [hother.symm, decide_false, Bool.false_eq_true, if_false] using ih

theorem child? {e e' : Element} (h : Thinned sources map name work idle thins s e.elements e'.elements)
    {other : String} (hother : other ≠ name) : Option.Rel (Element.Alike .bare) (e.child? other) (e'.child? other) := by
  rw [Element.child?_eq_head?, Element.child?_eq_head?]
  exact rel_head? (h.filter hother)

theorem first {e e' a : Element} (h : Thinned sources map name work idle thins s e.elements e'.elements)
    (hidle : ∀ s a, ¬idle s a) (hget : e.child? name = some a) : ∃ a', e'.child? name = some a' ∧ thins s a a' := by
  unfold Element.child? at hget ⊢
  generalize e.elements = l, e'.elements = l' at h hget
  induction h with
  | nil => cases hget
  | @other s e e' l l' hname halike rest ih =>
    have hname' : e'.name ≠ name := halike.name_eq ▸ hname
    rw [List.find?_cons_of_neg (by simpa using hname)] at hget
    rw [List.find?_cons_of_neg (by simpa using hname')]
    exact ih hget
  | @keep s e e' l l' hname hname' hthins rest ih =>
    rw [List.find?_cons_of_pos (by simpa using hname), Option.some.injEq] at hget
    rw [List.find?_cons_of_pos (by simpa using hname')]
    exact ⟨e', rfl, hget ▸ hthins⟩
  | @drop s e l l' hname hdropped rest ih => exact (hidle s e hdropped).elim

theorem forM {work : Element → Staging PUnit} (h : Thinned sources map name work idle thins s l l')
    (hthins : ∀ s t e e', s.Agree Eq ps t → thins s e e' → AgreeFrom sources map Eq ps Eq s (work e) t (work e'))
    (hidle : ∀ s t e, s.Agree Eq ps t → idle s e → (exec sources map (work e) s).2.Agree Eq ps t)
    (hst : s.Agree Eq ps t) :
    AgreeFrom sources map Eq ps Eq s ((l.filter (·.name = name)).forM work) t
      ((l'.filter (·.name = name)).forM work) := by
  induction h generalizing t with
  | nil => exact ⟨rfl, hst⟩
  | @other s e e' l l' hname halike rest ih =>
    have hname' : e'.name ≠ name := halike.name_eq ▸ hname
    rw [List.filter_cons_of_neg (by simpa using hname), List.filter_cons_of_neg (by simpa using hname')]
    exact ih hst
  | @keep s e e' l l' hname hname' hkept rest ih =>
    rw [List.filter_cons_of_pos (by simpa using hname), List.filter_cons_of_pos (by simpa using hname')]
    exact .bind (hthins s t e e' hst hkept) fun hst' => ih hst'
  | @drop s e l l' hname hdropped rest ih =>
    -- what is done for the element alone leads to a stage that still agrees
    unfold AgreeFrom
    rw [List.filter_cons_of_pos (by simpa using hname), exec_forM_cons]
    exact ih (hidle s t e hst hdropped)

theorem filterMap {γ : Type} {work : Element → Staging (Option γ)}
    (h : Thinned sources map name work idle thins s l l')
    (hthins : ∀ s t e e', s.Agree Eq ps t → thins s e e' → AgreeFrom sources map Eq ps Eq s (work e) t (work e'))
    (hidle : ∀ s t e, s.Agree Eq ps t → idle s e →
      (exec sources map (work e) s).1 = none ∧ (exec sources map (work e) s).2.Agree Eq ps t)
    (hst : s.Agree Eq ps t) :
    AgreeFrom sources map Eq ps Eq s (Staging.filterMap work (l.filter (·.name = name))) t
      (Staging.filterMap work (l'.filter (·.name = name))) := by
  induction h generalizing t with
  | nil => exact ⟨rfl, hst⟩
  | @other s e e' l l' hname halike rest ih =>
    have hname' : e'.name ≠ name := halike.name_eq ▸ hname
    rw [List.filter_cons_of_neg (by simpa using hname), List.filter_cons_of_neg (by simpa using hname')]
    exact ih hst
  | @keep s e e' l l' hname hname' hkept rest ih =>
    rw [List.filter_cons_of_pos (by simpa using hname), List.filter_cons_of_pos (by simpa using hname')]
    exact .bind (hthins s t e e' hst hkept) fun hst' => .bind (ih hst') fun hend => .pure hend rfl
  | @drop s e l l' hname hdropped rest ih =>
    rw [List.filter_cons_of_pos (by simpa using hname)]
    obtain ⟨hresult, hst'⟩ := hidle s t e hst hdropped
    obtain ⟨hresults, hend⟩ := ih hst'
    unfold AgreeFrom
    simp only [Staging.filterMap, exec_bind, exec_pure]
    rw [hresult, hresults]
    exact ⟨rfl, hend⟩

end Thinned

theorem ThinnedIn.refl {name : String} {work : Element → Staging β} {idle : Stage → Element → Prop}
    {thins : Stage → Element → Element → Prop} (hthins : ∀ s e, thins s e e) (s : Stage) (e : Element) :
    ThinnedIn sources map name work idle thins s e e :=
  ⟨⟨rfl, rfl⟩, .refl hthins e.elements s⟩

end Lists

namespace Staging

section Parts

variable (overrides : KeyMap String String) (actor : String)

def eventHeading (e : Element) : Staging (Option (String × List Condition)) := do
  let name ← attr e "name"
  match ← (startConditions actor e).run with
  | .error f =>
    record f
    return none
  | .ok conditions => return some (name, ← withCounts overrides actor name conditions)

def groupHeading (e : Element) : Staging (String × List Element) := do
  let actor ← Staging.actor e
  let listed ← filterMap cataloguedManeuver? (e.childrenNamed "CatalogReference")
  return (actor, listed)

def maneuver (e : Element) : Staging Unit :=
  (e.childrenNamed "Event").forM (event overrides actor)

def act (e : Element) : Staging Unit :=
  (e.childrenNamed "ManeuverGroup").forM (group overrides)

theorem draft_eq (e : Element) :
    draft overrides actor e = (do
      match ← eventHeading overrides actor e with
      | none => return none
      | some (name, conditions) =>
        let actions ← eventActions actor conditions e
        if actions.isEmpty then return none
        else return some { id := 0, name, owner := actor, conditions, actions }) := by
  unfold draft eventHeading
  simp only [bind_assoc]
  congr 1
  funext name
  congr 1
  funext r
  cases r with
  | error f => simp only [bind_assoc, pure_bind]
  | ok conditions => simp only [bind_assoc, pure_bind]

theorem forM_flatMap {α β : Type} (work : β → Staging PUnit) (g : α → List β) (l : List α) :
    (l.flatMap g).forM work = l.forM fun a => (g a).forM work := by
  induction l with
  | nil => rfl
  | cons a l ih =>
    rw [List.flatMap_cons, List.forM_eq_forM, List.forM_append]
    exact congrArg (fun rest => (g a).forM work >>= fun _ => rest) ih

theorem group_eq (e : Element) : group overrides e = (do
    let heading ← groupHeading e
    (e.childrenNamed "Maneuver").forM (maneuver overrides heading.1)
    heading.2.forM (maneuver overrides heading.1)) := by
  unfold group groupHeading maneuvers
  simp only [bind_assoc, pure_bind, forM_flatMap, List.forM_eq_forM, List.forM_append]
  rfl

theorem story_eq (e : Element) : story e = (do
    discard (attr e "name")
    (e.childrenNamed "Act").forM (act (storyParameters e))) := by
  unfold story
  rw [forM_flatMap]
  rfl

end Parts

section Headings

variable {K : Aside → Aside → Prop} {ps : List Parameter} {e e' : Element}

theorem attr_sameTag (h : e.SameTag e') (name : String) : Agree K ps Eq (attr e name) (attr e' name) := by
  have hattr : attr e name = attr e' name := by
    unfold attr attrOr attr? Element.attr?
    rw [h.2]
  rw [hattr]
  exact .self fun K => attr_agrees (Spelling.bare_faithful ps) e' name

theorem startConditions_rel (h : Option.Rel (Element.Alike .bare) (e.child? "StartTrigger") (e'.child? "StartTrigger"))
    (actor : String) : Agree K ps Eq (startConditions actor e).run (startConditions actor e').run := by
  unfold startConditions
  generalize e.child? "StartTrigger" = o, e'.child? "StartTrigger" = o' at h
  cases h with
  | none => exact .run_pure _
  | some h =>
    apply Agree.alike _ h
    exact fun _ e => trigger_agrees (Spelling.bare_faithful ps) e actor

theorem eventHeading_rel (htag : e.SameTag e')
    (htrigger : Option.Rel (Element.Alike .bare) (e.child? "StartTrigger") (e'.child? "StartTrigger"))
    (overrides : KeyMap String String) (actor : String) :
    Agree K ps Eq (eventHeading overrides actor e) (eventHeading overrides actor e') := by
  unfold eventHeading
  refine .bind (attr_sameTag htag _) fun name => .bind (startConditions_rel htrigger actor) fun r => ?_
  split
  · exact .bind (.record _ _) fun _ => .pure rfl
  · exact .bind (withCounts_agrees _ _ _ _) fun _ => .pure rfl

theorem actor_rel (h : Option.Rel (Element.Alike .bare) (e.child? "Actors") (e'.child? "Actors")) :
    Agree K ps Eq (actor e) (actor e') := by
  unfold actor
  generalize e.child? "Actors" = o, e'.child? "Actors" = o' at h
  cases h with
  | none => exact .pure rfl
  | @some actors actors' h =>
    have hlast : Option.Rel (Element.Alike .bare) (actors.childrenNamed "EntityRef").getLast?
        (actors'.childrenNamed "EntityRef").getLast? := by
      rw [Element.rel_alike_iff, ← List.getLast?_map, ← List.getLast?_map,
        Element.forall₂_alike_iff.1 (h.childrenNamed _)]
    rw [Option.map_some, Option.map_some, Option.bind_some, Option.bind_some]
    generalize (actors.childrenNamed "EntityRef").getLast? = o,
      (actors'.childrenNamed "EntityRef").getLast? = o' at hlast
    cases hlast with
    | none => exact .pure rfl
    | some h => exact attr_alike (Spelling.bare_faithful ps) _ h

theorem groupHeading_rel (hactors : Option.Rel (Element.Alike .bare) (e.child? "Actors") (e'.child? "Actors"))
    (hreferences : List.Forall₂ (Element.Alike .bare) (e.childrenNamed "CatalogReference")
      (e'.childrenNamed "CatalogReference")) : Agree K ps Eq (groupHeading e) (groupHeading e') := by
  refine .bind (actor_rel hactors) fun actor => .bind (.filterMap_rel hreferences fun a b h => ?_) fun _ => .pure rfl
  apply Agree.alike _ h
  exact fun _ e => cataloguedManeuver?_agrees (Spelling.bare_faithful ps) e

end Headings

end Staging

section Documents

variable (sources : Sources) (map : RoadMap) (overrides : KeyMap String String) (actor : String)

def IdleAction (behavior : Behavior) (s : Stage) (e : Element) : Prop :=
  ∀ r, (exec sources map (request? actor behavior e).run s).1 ≠ .ok (some r)

/-- An event is not kept: its conditions are not understood, or none of its actions is kept. -/
def IdleEvent (s : Stage) (e : Element) : Prop :=
  (exec sources map (draft overrides actor e) s).1 = none

def ThinnedEvent (s : Stage) (e e' : Element) : Prop :=
  match exec sources map (eventHeading overrides actor e) s with
  | (some (_, conditions), s) =>
    ThinnedIn sources map "Action" (action? actor (s.cast.behaviorOf actor) (Cue.ofConditions? conditions))
      (IdleAction sources map actor (s.cast.behaviorOf actor)) (fun _ => Element.Alike .bare) s e e'
  | (none, _) => Element.Alike .bare e e'

def ThinnedManeuver : Stage → Element → Element → Prop :=
  ThinnedIn sources map "Event" (event overrides actor) (IdleEvent sources map overrides actor)
    (ThinnedEvent sources map overrides actor)

def ThinnedGroup (s : Stage) (e e' : Element) : Prop :=
  let heading := exec sources map (groupHeading e) s
  ThinnedIn sources map "Maneuver" (maneuver overrides heading.1.1) (fun _ _ => False)
    (ThinnedManeuver sources map overrides heading.1.1) heading.2 e e'

def ThinnedAct : Stage → Element → Element → Prop :=
  ThinnedIn sources map "ManeuverGroup" (group overrides) (fun _ _ => False) (ThinnedGroup sources map overrides)

def ThinnedStory (s : Stage) (e e' : Element) : Prop :=
  ThinnedIn sources map "Act" (act (storyParameters e)) (fun _ _ => False)
    (ThinnedAct sources map (storyParameters e)) (exec sources map (attr e "name") s).2 e e'

def ThinnedStoryboard : Stage → Element → Element → Prop :=
  ThinnedIn sources map "Story" story (fun _ _ => False) (ThinnedStory sources map)

def ThinnedDocument (root root' : Element) : Prop :=
  ∃ sections, Sections.ofRoot root = .ok sections ∧
    ThinnedIn sources map "Storyboard" (fun e => (e.childrenNamed "Story").forM story) (fun _ _ => False)
      (ThinnedStoryboard sources map) (openStage sources map root sections) root root'

theorem ThinnedEvent.refl (s : Stage) (e : Element) : ThinnedEvent sources map overrides actor s e e := by
  unfold ThinnedEvent
  split
  next => exact .refl _ _ (fun _ a => (rfl : Element.Alike .bare a a)) _ _
  next => exact (rfl : Element.Alike .bare e e)

theorem ThinnedDocument.refl {root : Element} {sections : Sections} (h : Sections.ofRoot root = .ok sections) :
    ThinnedDocument sources map root root := by
  have hmaneuver (overrides : KeyMap String String) (actor : String) :
      ∀ s e, ThinnedManeuver sources map overrides actor s e e :=
    .refl _ _ (ThinnedEvent.refl sources map overrides actor)
  have hact (overrides : KeyMap String String) : ∀ s e, ThinnedAct sources map overrides s e e :=
    .refl _ _ fun _ e => .refl _ _ (hmaneuver overrides _) _ e
  have hstory : ∀ s e, ThinnedStory sources map s e e := fun _ e => .refl _ _ (hact (storyParameters e)) _ e
  exact ⟨sections, h, .refl _ _ (.refl _ _ hstory) _ _⟩

variable {sources map overrides actor} {ps : List Parameter} {s t : Stage} {e e' : Element}

theorem action?_of_idle {behavior : Behavior} (cue : Option Cue) (h : IdleAction sources map actor behavior s e) :
    ∃ j, exec sources map (action? actor behavior cue e) s = (none, { s with journal := j }) := by
  obtain ⟨r, more, hread⟩ := request?_reads e actor behavior sources map s
  have hexec : exec sources map (request? actor behavior e).run s = _ := hread s.journal
  unfold action?
  rw [exec_bind, hexec]
  cases r with
  | error f => exact ⟨_, rfl⟩
  | ok r =>
    cases r with
    | none => exact ⟨_, rfl⟩
    | some r => exact (h r (congrArg Prod.fst hexec)).elim

theorem idleAction_of_none {behavior : Behavior} {cue : Option Cue}
    (h : (exec sources map (action? actor behavior cue e) s).1 = none) : IdleAction sources map actor behavior s e := by
  intro r hr
  unfold action? at h
  rw [exec_bind, hr] at h
  simp at h

theorem filterMap_of_nil {behavior : Behavior} {cue : Option Cue} {l : List Element}
    (h : (exec sources map (filterMap (action? actor behavior cue) l) s).1 = []) :
    ∃ j, exec sources map (filterMap (action? actor behavior cue) l) s = ([], { s with journal := j }) := by
  induction l generalizing s with
  | nil => exact ⟨s.journal, rfl⟩
  | cons e l ih =>
    simp only [filterMap, exec_bind, exec_pure, List.append_eq_nil_iff, Option.toList_eq_nil_iff] at h ⊢
    obtain ⟨hnone, hrest⟩ := h
    obtain ⟨j, hfirst⟩ := action?_of_idle cue (idleAction_of_none hnone)
    rw [hfirst] at hrest ⊢
    obtain ⟨j', hrest⟩ := ih hrest
    exact ⟨j', by rw [hrest]; rfl⟩

theorem eventHeading_reads (overrides : KeyMap String String) (actor : String) (e : Element) :
    Reads (eventHeading overrides actor e) := by
  unfold eventHeading
  grind

theorem exec_eventActions (conditions : List Condition) :
    exec sources map (eventActions actor conditions e) s =
      exec sources map (filterMap (action? actor (s.cast.behaviorOf actor) (Cue.ofConditions? conditions))
        (e.childrenNamed "Action")) s := by
  unfold eventActions
  rw [exec_bind, exec_getCast]
  rfl

theorem eventActions_thinned {conditions : List Condition} (hst : s.Agree Eq ps t)
    (h : ThinnedIn sources map "Action" (action? actor (s.cast.behaviorOf actor) (Cue.ofConditions? conditions))
      (IdleAction sources map actor (s.cast.behaviorOf actor)) (fun _ => Element.Alike .bare) s e e') :
    AgreeFrom sources map Eq ps Eq s (eventActions actor conditions e) t (eventActions actor conditions e') := by
  unfold AgreeFrom
  rw [exec_eventActions, exec_eventActions, hst.cast]
  refine h.2.filterMap ?_ ?_ hst
  · intro s t a a' hst ha
    apply Agree.alike _ ha sources map s t hst
    exact fun K e => action?_agrees (Spelling.bare_faithful ps) e Spelling.bare_keepsNames _ _ _
  · intro s t a hst ha
    obtain ⟨j, hnothing⟩ := action?_of_idle _ ha
    rw [hnothing]
    exact ⟨rfl, hst.journal_left j⟩

theorem draft_of_idle (h : IdleEvent sources map overrides actor s e) :
    ∃ j, exec sources map (draft overrides actor e) s = (none, { s with journal := j }) := by
  unfold IdleEvent at h
  obtain ⟨heading, more, hread⟩ := eventHeading_reads overrides actor e sources map s
  have hheading : exec sources map (eventHeading overrides actor e) s = _ := hread s.journal
  rw [draft_eq, exec_bind, hheading] at h ⊢
  cases heading with
  | none => exact ⟨_, rfl⟩
  | some heading =>
    -- the conditions are understood, so it is the actions that come to nothing
    obtain ⟨name, conditions⟩ := heading
    dsimp only at h ⊢
    rw [exec_bind, exec_eventActions] at h ⊢
    have hnone : (exec sources map (filterMap (action? actor (s.cast.behaviorOf actor) (Cue.ofConditions? conditions))
        (e.childrenNamed "Action")) { s with journal := ⟨s.journal.notices ++ more⟩ }).1 = [] := by
      split at h
      next hempty => exact List.isEmpty_iff.1 hempty
      next =>
        rw [exec_pure] at h
        cases h
    obtain ⟨j, hnothing⟩ := filterMap_of_nil hnone
    rw [hnothing]
    exact ⟨j, rfl⟩

theorem event_of_idle (hst : s.Agree Eq ps t) (h : IdleEvent sources map overrides actor s e) :
    (exec sources map (event overrides actor e) s).2.Agree Eq ps t := by
  obtain ⟨j, hdraft⟩ := draft_of_idle h
  unfold event
  rw [exec_bind, hdraft]
  exact hst.journal_left j

theorem draft_thinned (hst : s.Agree Eq ps t) (h : ThinnedEvent sources map overrides actor s e e') :
    AgreeFrom sources map Eq ps Eq s (draft overrides actor e) t (draft overrides actor e') := by
  unfold ThinnedEvent at h
  split at h
  next name conditions s' hheading =>
    have hheadings : Staging.Agree Eq ps Eq (eventHeading overrides actor e) (eventHeading overrides actor e') :=
      eventHeading_rel h.1 (h.2.child? (by decide)) overrides actor
    rw [draft_eq, draft_eq]
    refine .bind (hheadings sources map s t hst) fun hst' => ?_
    rw [hheading] at hst' ⊢
    refine .bind (eventActions_thinned hst' h) fun hend => ?_
    split
    · exact .pure hend rfl
    · exact .pure hend rfl
  next =>
    apply Agree.alike _ h sources map s t hst
    exact fun K e => draft_agrees (Spelling.bare_faithful ps) e Spelling.bare_keepsNames overrides actor

theorem event_thinned (hst : s.Agree Eq ps t) (h : ThinnedEvent sources map overrides actor s e e') :
    AgreeFrom sources map Eq ps Eq s (event overrides actor e) t (event overrides actor e') := by
  refine .bind (draft_thinned hst h) fun hst' => ?_
  split
  next kept _ => exact storeEvent_agrees kept sources map _ _ hst'
  next => exact .pure hst' rfl

theorem maneuver_thinned (hst : s.Agree Eq ps t) (h : ThinnedManeuver sources map overrides actor s e e') :
    AgreeFrom sources map Eq ps Eq s (maneuver overrides actor e) t (maneuver overrides actor e') :=
  h.2.forM (fun _ _ _ _ => event_thinned) (fun _ _ _ => event_of_idle) hst

theorem maneuver_agrees (overrides : KeyMap String String) (actor : String) (e : Element) :
    Staging.Agree Eq ps Eq (maneuver overrides actor e) (maneuver overrides actor e) := by
  refine .forM (List.forall₂_same.2 fun e _ => Eq.refl e) ?_
  rintro e _ rfl
  exact .self fun K => event_agrees (Spelling.bare_faithful ps) e Spelling.bare_keepsNames overrides actor

theorem group_thinned (hst : s.Agree Eq ps t) (h : ThinnedGroup sources map overrides s e e') :
    AgreeFrom sources map Eq ps Eq s (group overrides e) t (group overrides e') := by
  obtain ⟨-, hmaneuvers⟩ := h
  have hheadings : Staging.Agree Eq ps Eq (groupHeading e) (groupHeading e') :=
    groupHeading_rel (hmaneuvers.child? (by decide)) (hmaneuvers.filter (by decide))
  rw [group_eq, group_eq]
  refine .bind (hheadings sources map s t hst) fun hst' => ?_
  refine .bind (hmaneuvers.forM (fun _ _ _ _ => maneuver_thinned) (fun _ _ _ _ => False.elim) hst') fun hown => ?_
  -- the maneuvers of the catalog are the same
  refine Agree.forM (List.forall₂_same.2 fun m _ => Eq.refl m) ?_ sources map _ _ hown
  rintro m _ rfl
  exact maneuver_agrees overrides _ m

theorem act_thinned (hst : s.Agree Eq ps t) (h : ThinnedAct sources map overrides s e e') :
    AgreeFrom sources map Eq ps Eq s (act overrides e) t (act overrides e') :=
  h.2.forM (fun _ _ _ _ => group_thinned) (fun _ _ _ _ => False.elim) hst

theorem story_thinned (hst : s.Agree Eq ps t) (h : ThinnedStory sources map s e e') :
    AgreeFrom sources map Eq ps Eq s (story e) t (story e') := by
  obtain ⟨htag, hacts⟩ := h
  have hname : Staging.Agree Eq ps Eq (discard (attr e "name")) (discard (attr e' "name")) :=
    .map (attr_sameTag htag _)
  rw [story_eq, story_eq, ← storyParameters_eq Spelling.bare_isLiteral (hacts.child? (by decide))]
  refine .bind (hname sources map s t hst) fun hst' => ?_
  rw [exec_discard] at hst' ⊢
  exact hacts.forM (fun _ _ _ _ => act_thinned) (fun _ _ _ _ => False.elim) hst'

theorem stories_thinned (hst : s.Agree Eq ps t) (h : ThinnedStoryboard sources map s e e') :
    AgreeFrom sources map Eq ps Eq s ((e.childrenNamed "Story").forM story) t ((e'.childrenNamed "Story").forM story) :=
  h.2.forM (fun _ _ _ _ => story_thinned) (fun _ _ _ _ => False.elim) hst

variable {root root' : Element} {staged : Staged} {sections sections' : Sections}

theorem sections_thinned (h : ThinnedDocument sources map root root') :
    ∃ sections sections', Sections.ofRoot root = .ok sections ∧ Sections.ofRoot root' = .ok sections' ∧
      OpeningsAlike .bare .bare .bare root root' sections sections' ∧
      ThinnedStoryboard sources map (openStage sources map root sections) sections.storyboard sections'.storyboard := by
  obtain ⟨sections, hs, htag, hparts⟩ := h
  obtain ⟨hname, hstoryboard, hinit, hheader, hentities⟩ := Sections.ofRoot_eq_ok_iff.1 hs
  obtain ⟨storyboard', hstoryboard', hthins⟩ := hparts.first (fun _ _ => id) hstoryboard
  obtain ⟨init', hinit', hainit⟩ := exists_of_optionRel (hthins.2.child? (by decide)) hinit
  obtain ⟨header', hheader', haheader⟩ := exists_of_optionRel (hparts.child? (by decide)) hheader
  obtain ⟨entities', hentities', haentities⟩ := exists_of_optionRel (hparts.child? (by decide)) hentities
  refine ⟨sections, ⟨header', entities', storyboard', init'⟩, hs, ?_, ?_, hthins⟩
  · exact Sections.ofRoot_eq_ok_iff.2 ⟨htag.1 ▸ hname, hstoryboard', hinit', hheader', hentities'⟩
  · exact ⟨haheader, hparts.child? (by decide), hparts.child? (by decide), haentities, hainit⟩

theorem opening_literal {b : Spelling} (hb : b.IsLiteral) (h : OpeningsAlike b b b root root' sections sections') :
    (openStage sources map root sections).Agree Eq (parametersOf root) (openStage sources map root' sections') := by
  have houtlooks : outlooks sections.init = outlooks sections'.init :=
    outlooks_eq hb (optionRel_imp (h.init.child? _) fun _ _ he => he.childrenNamed _)
  have hnear := opening_alike hb (hb.faithful _) (hb.faithful _) hb.keepsNames h
    (fun _ : True => headsOf_eq hb h.network) (fun _ : True => houtlooks) sources map
  exact hnear.mono fun _ _ => Aside.Near.eq

theorem opening_thinned (h : OpeningsAlike .bare .bare .bare root root' sections sections') :
    (openStage sources map root sections).Agree Eq (parametersOf root) (openStage sources map root' sections') :=
  opening_literal Spelling.bare_isLiteral h

/-- What comes to nothing leaves no trace in the scene. -/
theorem stage_thinned (h : (stage sources root).run map = .ok staged)
    (hthinned : ThinnedDocument sources map root root') :
    ∃ staged', (stage sources root').run map = .ok staged' ∧ staged'.scene = staged.scene := by
  obtain ⟨sections, sections', hs, hs', hopening, hstoryboard⟩ := sections_thinned hthinned
  have hstories := stories_thinned (opening_thinned hopening) hstoryboard
  exact run_stage_of_agree_eq h hs' (finalStage_agree hs hs' hstories.2)

end Documents

section Samples

variable {sources : Sources} {map : RoadMap} {s : Stage}

theorem ThinnedIn.of_children {β : Type} {name label : String} {work : Element → Staging β}
    {idle : Stage → Element → Prop} {thins : Stage → Element → Element → Prop} {attributes : List (String × String)}
    {children children' : List Element} (h : Thinned sources map name work idle thins s children children') :
    ThinnedIn sources map name work idle thins s (.of label attributes children) (.of label attributes children') := by
  refine ⟨⟨rfl, rfl⟩, ?_⟩
  rw [Element.elements_of, Element.elements_of]
  exact h

theorem ThinnedEvent.of_heading {overrides : KeyMap String String} {actor : String} {e e' : Element}
    (behavior : Behavior) (hheading : (exec sources map (eventHeading overrides actor e) s).1.isSome = true)
    (hbehavior : (exec sources map (eventHeading overrides actor e) s).2.cast.behaviorOf actor = behavior)
    (h : ∀ cue, ThinnedIn sources map "Action" (action? actor behavior cue) (IdleAction sources map actor behavior)
      (fun _ => Element.Alike .bare) (exec sources map (eventHeading overrides actor e) s).2 e e') :
    ThinnedEvent sources map overrides actor s e e' := by
  subst hbehavior
  unfold ThinnedEvent
  split
  next heading =>
    rw [heading] at h
    exact h _
  next heading =>
    rw [heading] at hheading
    cases hheading

namespace Sample

def puzzling : Element :=
  event [.of "Condition" [] []] [speedAction "never" "step" "0" "9"]

def pointless : Element :=
  .of "Action" [("name", "nothing")] []

def starting (others : List Element) : Element :=
  event [timeTest "1"] (others ++ [speedAction "go" "step" "0" "9"])

def stopping : Element :=
  event [stateTest "go"] [speedAction "stop" "step" "0" "0"]

def carSections (events : List Element) : Sections where
  header := .of "FileHeader" [] []
  entities := .of "Entities" [] [.of "ScenarioObject" [("name", "Car")] [.of "Vehicle" [("name", "Sedan")] []]]
  storyboard := .of "Storyboard" [] [.of "Init" [] [], .of "Story" [] [.of "Act" [] [group "Car" events]]]
  init := .of "Init" [] []

def carRoot (events : List Element) : Element :=
  .of "OpenSCENARIO" [] [(carSections events).header, (carSections events).entities, (carSections events).storyboard]

theorem carRoot_sections (events : List Element) : Sections.ofRoot (carRoot events) = .ok (carSections events) :=
  Sections.ofRoot_eq_ok_iff.2 <| by
    simp [carRoot, carSections, Sections.rootName, Element.child?, Element.name_of, Element.elements_of]

def crowded : Element :=
  carRoot [puzzling, starting [pointless], stopping]

def cleared : Element :=
  carRoot [starting [], stopping]

theorem pointless_idle (s : Stage) : IdleAction .bare .blank "Car" .scripted s pointless := by
  have hrequest : request? "Car" .scripted pointless = (do
      let name ← attr pointless "name"
      refuse "UNSUPPORTED_ACTION" ("action \"" ++ name ++ "\" has no private or user-defined branch")) := rfl
  have hnone : Gives (fun r => ∀ request, r ≠ .ok (some request)) (request? "Car" .scripted pointless).run :=
    hrequest ▸ .run_bind (by simp) fun name => .run_lift (.refuse (by simp))
  exact hnone .bare .blank s

theorem cleared_thinned : ThinnedDocument .bare .blank crowded cleared := by
  refine ⟨_, carRoot_sections _, .of_children (.other (by decide) rfl (.other (by decide) rfl (.keep rfl rfl ?_ .nil)))⟩
  -- storyboard, story, act and group on the way
  refine .of_children (.other (by decide) rfl (.keep rfl rfl (.of_children (.keep rfl rfl ?_ .nil)) .nil))
  refine .of_children (.keep rfl rfl (.of_children (.other (by decide) rfl (.keep rfl rfl ?_ .nil))) .nil)
  refine .of_children (.drop rfl ?puzzling (.keep rfl rfl ?starting (.keep rfl rfl (.refl ..) .nil)))
  case puzzling => exact Option.isNone_iff_eq_none.1 (by decide)
  case starting =>
    refine .of_heading .scripted (by decide) (by decide) fun cue => ?_
    exact .of_children (.other (by decide) rfl (.drop rfl (pointless_idle _) (.keep rfl rfl rfl .nil)))

theorem stage_crowded : (stage .bare crowded).run .blank =
    .ok ⟨(finalStage .bare .blank crowded).scene.withReferences, (finalStage .bare .blank crowded).journal⟩ :=
  run_stage_of_sections (carRoot_sections _)

end Sample

theorem sample_thinned : ∃ staged staged', (stage .bare Sample.crowded).run .blank = .ok staged ∧
    (stage .bare Sample.cleared).run .blank = .ok staged' ∧ staged'.scene = staged.scene ∧
    staged.scene.events.values.length = 2 ∧ staged.journal.notices.length = 2 ∧ staged'.journal.notices = [] := by
  obtain ⟨staged', hstaged', hscene⟩ := stage_thinned Sample.stage_crowded Sample.cleared_thinned
  have hcleared : (stage .bare Sample.cleared).run .blank = _ := run_stage_of_sections (Sample.carRoot_sections _)
  refine ⟨_, staged', Sample.stage_crowded, hstaged', hscene, by decide +kernel, by decide +kernel, ?_⟩
  obtain rfl := Except.ok.inj (hstaged'.symm.trans hcleared)
  decide +kernel

end Samples

end Scenography
