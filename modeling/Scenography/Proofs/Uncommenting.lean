import Scenography.Proofs.Markup.Reading
import Scenography.Proofs.Thinning

namespace Scenography

open Markup (Element Spelling document? read? asidesPart withoutAsides)
open Staging

variable {sources : Sources} {map : RoadMap} {root root' : Element} {source : String} {staged : Staged}

theorem Sections.ofRoot_alike {f : Spelling} {sections : Sections} (h : Element.Alike f root root')
    (hs : Sections.ofRoot root = .ok sections) :
    ∃ sections', Sections.ofRoot root' = .ok sections' ∧ OpeningsAlike f f f root root' sections sections' ∧
      Element.Alike f sections.storyboard sections'.storyboard := by
  obtain ⟨hname, hstoryboard, hinit, hheader, hentities⟩ := Sections.ofRoot_eq_ok_iff.1 hs
  obtain ⟨storyboard', hstoryboard', hastoryboard⟩ := exists_of_optionRel (h.child? _) hstoryboard
  obtain ⟨init', hinit', hainit⟩ := exists_of_optionRel (hastoryboard.child? _) hinit
  obtain ⟨header', hheader', haheader⟩ := exists_of_optionRel (h.child? _) hheader
  obtain ⟨entities', hentities', haentities⟩ := exists_of_optionRel (h.child? _) hentities
  refine ⟨⟨header', entities', storyboard', init'⟩, ?_, ⟨haheader, h.child? _, h.child? _, haentities, hainit⟩, hastoryboard⟩
  exact Sections.ofRoot_eq_ok_iff.2 ⟨h.name_eq ▸ hname, hstoryboard', hinit', hheader', hentities'⟩

theorem stage_literal {b : Spelling} (hb : b.IsLiteral) (halike : Element.Alike b root root')
    (h : (stage sources root).run map = .ok staged) :
    ∃ staged', (stage sources root').run map = .ok staged' ∧ staged'.scene = staged.scene := by
  obtain ⟨sections, hs, -⟩ := run_stage h
  obtain ⟨sections', hs', hopening, hstoryboard⟩ := Sections.ofRoot_alike halike hs
  have hstories : Agree Eq (parametersOf root) Eq ((sections.storyboard.childrenNamed "Story").forM story)
      ((sections'.storyboard.childrenNamed "Story").forM story) :=
    .forM (hstoryboard.childrenNamed _) fun e e' he =>
      story_alike (hb.faithful _) hb.keepsNames he (storyParameters_eq hb (he.child? _))
  exact run_stage_of_agree_eq h hs' (finalStage_agree hs hs' (hstories sources map _ _ (opening_literal hb hopening)).2)

theorem run_stageText_iff : (stageText sources source).run map = .ok staged ↔
    ∃ root, read? source = some root ∧ (stage sources root).run map = .ok staged := by
  cases hread : read? source with
  | none => simp [stageText, hread, Inquiry.run]
  | some root =>
    have hstaged : (stageText sources source).run map = ((stage sources root).run map).mapError Failure.ofFault := by
      rw [stageText, hread]
      exact Inquiry.run_bind map (stage sources root) fun r => .done (r.mapError Failure.ofFault)
    cases hrun : (stage sources root).run map <;> simp [hstaged, hrun, Except.mapError]

def uncommented (source : String) : String :=
  String.ofList (withoutAsides source.toList)

theorem uncommented_eq {source' : String} (h : withoutAsides source.toList = source'.toList) : uncommented source = source' := by
  rw [uncommented, h, String.ofList_toList]

/-- In no custom command does blank text that a comment or an instruction cuts off stand between words. -/
def commandsUnbroken (source : String) : Bool :=
  (document? source.toList).all Element.commandsUnbroken

/-- Comments and instructions inside the root leave the scene as it is, but for a blank that they cut off in a command. -/
theorem stageText_uncommented (h : (stageText sources source).run map = .ok staged)
    (hasides : asidesPart source.toList = true) (hcommands : commandsUnbroken source = true) :
    ∃ staged', (stageText sources (uncommented source)).run map = .ok staged' ∧ staged'.scene = staged.scene := by
  obtain ⟨root, hroot, hrun⟩ := run_stageText_iff.1 h
  obtain ⟨document, hdocument, rfl⟩ := Option.map_eq_some_iff.1 hroot
  obtain ⟨document', hdocument', hreads⟩ := Markup.document?_withoutAsides hasides hdocument
  have hunbroken : document.commandsUnbroken = true := by simpa [commandsUnbroken, hdocument] using hcommands
  obtain ⟨staged', hstaged', hscene⟩ := stage_literal Spelling.quiet_isLiteral (hreads hunbroken) hrun
  refine ⟨staged', run_stageText_iff.2 ⟨document'.pruned, ?_, hstaged'⟩, hscene⟩
  rw [uncommented, read?, String.toList_ofList, hdocument', Option.map_some]

namespace Sample

def telling (words : String) : String :=
  "<OpenSCENARIO><FileHeader/><Entities><ScenarioObject name=\"Car\"><Vehicle name=\"Sedan\"/></ScenarioObject></Entities>" ++
  "<Storyboard><Init/><Story><Act><ManeuverGroup><Actors><EntityRef entityRef=\"Car\"/></Actors><Maneuver><Event>" ++
  "<StartTrigger><ConditionGroup><Condition><ByValueCondition><SimulationTimeCondition value=\"1\" rule=\"greaterThan\"/>" ++
  "</ByValueCondition></Condition></ConditionGroup></StartTrigger><Action><UserDefinedAction>" ++
  "<CustomCommandAction type=\"Command\">" ++ words ++ "</CustomCommandAction></UserDefinedAction></Action></Event>" ++
  "</Maneuver></ManeuverGroup></Act></Story></Storyboard></OpenSCENARIO>"

def plain : String :=
  telling "UserDefine:k=a b"

def remarked : String :=
  telling "UserDefine:k=a<!-- or --> b<?todo c?>"

def parted : String :=
  telling "UserDefine:k=a<!----> <!---->b"

def commandValues (scene : Scene) : List String :=
  scene.events.values.flatMap fun event => event.actions.filterMap fun action =>
    match action.effect with
    | .command _ _ value _ => some value
    | _ => none

def told? (cs : Markup.Chars) : Option (List String) :=
  (document? cs).bind fun root =>
    if (Sections.ofRoot root.pruned).isOk
    then some (commandValues (finalStage .bare .blank root.pruned).scene.withReferences)
    else none

theorem exists_of_told? {source : String} {values : List String} (h : told? source.toList = some values) :
    ∃ staged, (stageText .bare source).run .blank = .ok staged ∧ commandValues staged.scene = values := by
  obtain ⟨root, hroot, h⟩ := Option.bind_eq_some_iff.1 h
  obtain ⟨hok, hvalues⟩ := Option.ite_none_right_eq_some.1 h
  refine ⟨_, run_stageText_iff.2 ⟨root.pruned, ?_, run_stage_of_isOk hok⟩, Option.some.inj hvalues⟩
  rw [read?, hroot, Option.map_some]

theorem remarked_read : asidesPart remarked.toList = true ∧
    (document? remarked.toList).all Element.commandsUnbroken = true ∧ withoutAsides remarked.toList = plain.toList ∧
    told? remarked.toList = some ["a b"] := by
  unfold remarked plain telling
  simp only [String.toList_append]
  iterate 9 rw [String.toList_ofList]
  decide +kernel

theorem parted_read : asidesPart parted.toList = true ∧ withoutAsides parted.toList = plain.toList ∧
    told? parted.toList = some ["ab"] ∧ told? plain.toList = some ["a b"] := by
  unfold parted plain telling
  simp only [String.toList_append]
  iterate 9 rw [String.toList_ofList]
  decide +kernel

end Sample

theorem remarked_uncommented :
    asidesPart Sample.remarked.toList = true ∧ commandsUnbroken Sample.remarked = true ∧
    uncommented Sample.remarked = Sample.plain ∧
    ∃ staged staged', (stageText .bare Sample.remarked).run .blank = .ok staged ∧
      (stageText .bare (uncommented Sample.remarked)).run .blank = .ok staged' ∧ staged'.scene = staged.scene ∧
      Sample.commandValues staged.scene = ["a b"] := by
  obtain ⟨hasides, hcommands, hplain, htold⟩ := Sample.remarked_read
  obtain ⟨staged, hstaged, hvalues⟩ := Sample.exists_of_told? htold
  obtain ⟨staged', hstaged', hscene⟩ := stageText_uncommented hstaged hasides hcommands
  exact ⟨hasides, hcommands, uncommented_eq hplain, staged, staged', hstaged, hstaged', hscene, hvalues⟩

/-- A blank that stands by itself between words is lost, and comes back without the remarks around it. -/
theorem parted_uncommented_differs :
    asidesPart Sample.parted.toList = true ∧ uncommented Sample.parted = Sample.plain ∧
    ∃ staged staged', (stageText .bare Sample.parted).run .blank = .ok staged ∧
      (stageText .bare (uncommented Sample.parted)).run .blank = .ok staged' ∧
      Sample.commandValues staged.scene = ["ab"] ∧ Sample.commandValues staged'.scene = ["a b"] ∧
      staged'.scene ≠ staged.scene := by
  obtain ⟨hasides, hplain, htold, htold'⟩ := Sample.parted_read
  have huncommented := uncommented_eq hplain
  obtain ⟨staged, hstaged, hvalues⟩ := Sample.exists_of_told? htold
  obtain ⟨staged', hstaged', hvalues'⟩ := Sample.exists_of_told? (huncommented ▸ htold')
  refine ⟨hasides, huncommented, staged, staged', hstaged, hstaged', hvalues, hvalues', fun hscene => ?_⟩
  rw [hscene, hvalues] at hvalues'
  exact absurd hvalues' (by decide)

end Scenography
