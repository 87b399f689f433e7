import Scenography.Proofs.Enrolment
import Scenography.Proofs.Numbering
import Scenography.Proofs.Ownership

namespace Scenography

open Markup (Element)

def Entity.identity (e : Entity) : EntityKind × Nat × String × String × Box :=
  (e.kind, e.id, e.name, e.type, e.box)

theorem Entity.identity_of_plain {e e' : Entity} (h : e.plain = e'.plain) : e.identity = e'.identity := by
  have hplain : e.plain.identity = e'.plain.identity := by rw [h]
  exact hplain

theorem Entity.identity_withEvent (n : Nat) (e : Entity) : (Staging.withEvent n e).identity = e.identity := by
  unfold Staging.withEvent
  dsimp only
  split <;> rfl

theorem Entity.identity_of_settled {e e' : Entity} (h : e.Settled e') : e'.identity = e.identity := by
  simp only [identity, h.kind, h.id, h.name, h.type, h.box]

def Entity.ofKind (kind : EntityKind) (l : List Entity) : List Entity :=
  l.filter (·.kind = kind)

/-- The first of a list whose name is this one but for case. -/
def Entity.firstNamed (name : String) (l : List Entity) : Option Entity :=
  l.find? fun e => Text.lower e.name = Text.lower name

theorem Entity.ofKind_append (kind : EntityKind) (l : List Entity) (e : Entity) :
    Entity.ofKind kind (l ++ [e]) = Entity.ofKind kind l ++ if kind = e.kind then [e] else [] := by
  by_cases hk : kind = e.kind
  · simp [ofKind, hk]
  · simp [ofKind, hk, Ne.symm hk]

theorem Entity.tag_injective {e e' : Entity} (h : e.tag = e'.tag) : e.kind = e'.kind ∧ e.id = e'.id := by
  have hkind : e.kind = e'.kind := by
    have hchars := congrArg (·.toList.head?) h
    unfold tag at hchars
    revert hchars
    cases e.kind <;> cases e'.kind <;> simp [EntityKind.tagLead]
  rw [tag, tag, hkind] at h
  exact ⟨hkind, toString_injective (String.append_right_inj _ |>.1 h)⟩

namespace Cast

/-- The cast are those of a list: who is of a kind stands under the numbers from one on, in the list's order, and a name
leads to the first who has it, to be read or changed. -/
structure Numbers (kept : List Entity) (c : Cast) : Prop where
  keys : ∀ kind, (c.ofKind kind).keys = List.range' 1 (Entity.ofKind kind kept).length
  numbered : ∀ kind n, ((c.ofKind kind).get? (n + 1)).map Entity.identity =
    ((Entity.ofKind kind kept)[n]?).map Entity.identity
  own : ∀ kind i e, (c.ofKind kind).get? i = some e → e.id = i ∧ e.kind = kind
  first : ∀ name, (c.find? name).map Entity.identity = (Entity.firstNamed name kept).map Entity.identity
  changes : ∀ name f kind i, ((c.modify name f).ofKind kind).get? i =
    if c.who? name = some (kind, i) then ((c.ofKind kind).get? i).map f else (c.ofKind kind).get? i
  tags : ∀ name name' e e', c.find? name = some e → c.find? name' = some e' →
    (c.tag? name = c.tag? name' ↔ e = e')

theorem WellFormed.tag?_eq_iff {c : Cast} (h : c.WellFormed) {name name' : String} {e e' : Entity}
    (he : c.find? name = some e) (he' : c.find? name' = some e') : c.tag? name = c.tag? name' ↔ e = e' := by
  rw [tag?, tag?, he, he', Option.map_some, Option.map_some, Option.some.injEq]
  constructor
  · intro htag
    obtain ⟨hkind, hid⟩ := Entity.tag_injective htag
    have hget := h.get?_of_find? he
    rw [hkind, hid, h.get?_of_find? he'] at hget
    exact (Option.some.inj hget).symm
  · rintro rfl
    rfl

theorem Same.keys {β : Type} {view : Entity → β} {c d : Cast} (h : Same view c d) (kind : EntityKind) :
    (c.ofKind kind).keys = (d.ofKind kind).keys := by
  refine KeyMap.keys_eq (List.pairwise_map.2 (d.ofKind kind).sorted) fun i => ?_
  have hview := congrArg Option.isSome (h.view kind i)
  rw [Option.isSome_map, Option.isSome_map] at hview
  exact (Bool.eq_iff_iff.1 hview).trans KeyMap.mem_keys_iff.symm

theorem Same.numbers {kept : List Entity} {c d : Cast} (h : Same Entity.identity c d) (hc : c.Numbers kept)
    (hwell : c.WellFormed) : d.Numbers kept := by
  have hd : d.WellFormed := by
    refine (h.imp fun e e' he => ?_).wellFormed hwell
    obtain ⟨hkind, hid, -⟩ : e.kind = e'.kind ∧ e.id = e'.id ∧ _ := by simpa [Entity.identity] using he
    rw [hkind, hid]
  exact {
    keys := fun kind => (h.keys kind).symm.trans (hc.keys kind)
    numbered := fun kind n => (h.view kind (n + 1)).symm.trans (hc.numbered kind n)
    own := fun kind i e he => ⟨hd.id_eq kind i e he, hd.kind_eq kind i e he⟩
    first := fun name => (h.find? name).symm.trans (hc.first name)
    changes := hd.get?_modify
    tags := fun _ _ _ _ he he' => hd.tag?_eq_iff he he' }

end Cast

structure Stage.Registers (kept : List Entity) (s : Stage) : Prop where
  count : ∀ kind, s.counters.entities kind = (Entity.ofKind kind kept).length
  none_zero : ∀ kind, (s.cast.ofKind kind).get? 0 = none
  numbered : ∀ kind n, (s.cast.ofKind kind).get? (n + 1) = (Entity.ofKind kind kept)[n]?
  names : ∀ key, s.cast.names.get? key =
    (kept.find? (Cast.nameKey ·.name = key)).map fun e => (e.kind, e.id)

namespace Stage.Registers

variable {kept : List Entity} {s t : Stage}

theorem start (hcast : s.cast = {}) (hcount : ∀ kind, s.counters.entities kind = 0) : s.Registers [] where
  count := hcount
  none_zero kind := by
    rw [hcast]
    cases kind <;> rfl
  numbered kind n := by
    rw [hcast]
    cases kind <;> rfl
  names key := by
    rw [hcast]
    rfl

theorem add (h : s.Registers kept) {e : Entity} (hmade : s.Made e t) :
    { t with cast := t.cast.add e }.Registers (kept ++ [e]) := by
  obtain ⟨⟨j, rfl⟩, hid, -, -, -⟩ := hmade
  rw [Counters.nextEntity_fst, h.count] at hid
  constructor
  case count =>
    intro kind
    rw [Counters.entities_nextEntity, h.count, Entity.ofKind_append, List.length_append]
    split <;> rfl
  case none_zero =>
    intro kind
    have hne : ¬(kind = e.kind ∧ 0 = e.id) := by omega
    rw [Cast.get?_add, if_neg hne]
    exact h.none_zero kind
  case numbered =>
    intro kind n
    rw [Cast.get?_add, Entity.ofKind_append, hid, h.numbered]
    by_cases hk : kind = e.kind
    · subst hk
      rw [if_pos rfl, List.getElem?_append]
      rcases Nat.lt_trichotomy n (Entity.ofKind e.kind kept).length with hn | hn | hn
      · rw [if_pos hn, if_neg (by omega)]
      · simp [hn]
      · have hnone : [e][n - (Entity.ofKind e.kind kept).length]? = none := List.getElem?_eq_none (by simp; omega)
        rw [if_neg (by omega), if_neg (by omega), hnone, List.getElem?_eq_none (by omega)]
    · rw [if_neg fun hn => hk hn.1, if_neg hk, List.append_nil]
  case names =>
    intro key
    have hfree : s.cast.isFree e.name = true ↔ kept.find? (Cast.nameKey ·.name = Cast.nameKey e.name) = none := by
      rw [Cast.isFree, KeyMap.contains, h.names, Option.isSome_map]
      simp
    rw [Cast.names_add, List.find?_append]
    by_cases hkey : Cast.nameKey e.name = key
    · subst hkey
      cases hfirst : kept.find? (Cast.nameKey ·.name = Cast.nameKey e.name) with
      | none =>
        rw [if_pos (hfree.2 hfirst)]
        simp
      | some first =>
        rw [if_neg (by simp [hfree, hfirst]), h.names, hfirst]
        rfl
    · have hlast : [e].find? (Cast.nameKey ·.name = key) = none := by simp [hkey]
      rw [hlast, Option.or_none, ← h.names]
      split
      · exact KeyMap.get?_insert_of_ne (Ne.symm hkey) _ _
      · rfl

theorem there (h : s.Registers kept) (hcast : s.cast.WellFormed) {e : Entity} (he : e ∈ kept) :
    (s.cast.ofKind e.kind).get? e.id = some e := by
  have hmem : e ∈ Entity.ofKind e.kind kept := List.mem_filter.2 ⟨he, decide_eq_true rfl⟩
  obtain ⟨n, hn⟩ := List.getElem?_of_mem hmem
  have hget := (h.numbered e.kind n).trans hn
  rw [hcast.id_eq _ _ _ hget]
  exact hget

theorem find? (h : s.Registers kept) (hcast : s.cast.WellFormed) (name : String) :
    s.cast.find? name = Entity.firstNamed name kept := by
  have hnamed : Entity.firstNamed name kept = kept.find? (Cast.nameKey ·.name = Cast.nameKey name) := rfl
  rw [Cast.find?, h.names, hnamed]
  cases hfirst : kept.find? (Cast.nameKey ·.name = Cast.nameKey name) with
  | none => rfl
  | some e => exact h.there hcast (List.mem_of_find?_eq_some hfirst)

theorem keys (h : s.Registers kept) (kind : EntityKind) :
    (s.cast.ofKind kind).keys = List.range' 1 (Entity.ofKind kind kept).length := by
  refine KeyMap.keys_eq List.pairwise_lt_range' fun i => ?_
  rw [List.mem_range'_1]
  cases i with
  | zero => simp [h.none_zero]
  | succ n =>
    rw [h.numbered, isSome_getElem?]
    omega

theorem numbers (h : s.Registers kept) (hcast : s.cast.WellFormed) : s.cast.Numbers kept where
  keys := h.keys
  numbered kind n := by rw [h.numbered]
  own kind i e he := ⟨hcast.id_eq kind i e he, hcast.kind_eq kind i e he⟩
  first name := by rw [h.find? hcast]
  changes := hcast.get?_modify
  tags _ _ _ _ he he' := hcast.tag?_eq_iff he he'

end Stage.Registers

def Markup.Element.says? (ps : Parameters) (e : Element) (name : String) : Option String :=
  (e.attr? name).map fun token => (ps.resolveOrKeep token).1

def Markup.Element.isDeclaration (ps : Parameters) (object : Element) : Bool :=
  (object.child? "Vehicle").isSome || (object.child? "Pedestrian").isSome || (object.child? "MiscObject").isSome ||
    (object.child? "CatalogReference").any fun reference =>
      (CatalogKind.ofCatalogName? ((reference.says? ps "catalogName").getD "")).isSome

def Markup.Element.declaredName? (ps : Parameters) (object : Element) : Option String :=
  ((object.says? ps "name").filter (· ≠ "")).filter fun _ => object.isDeclaration ps

namespace Staging

variable {ps : Parameters} (name type : String) (object e : Element) (node : Option Element)

theorem attr?_gives : GivesFrom (·.parameters = ps) (· = e.says? ps name) (attr? e name) := by
  unfold attr? Element.says?
  cases e.attr? name with
  | none => exact Gives.from (.pure rfl) _
  | some token =>
    refine .map fun sources map s hs => ?_
    rw [resolve_gives token sources map s hs]
    rfl

theorem attr_gives :
    GivesFrom (·.parameters = ps) (· = ((e.says? ps name).filter (· ≠ "")).getD "") (attr e name) :=
  .bind_of (attr?_gives _ _) fun _ h => .pure (h ▸ rfl)

theorem declaration?_isSome :
    GivesFrom (·.parameters = ps) (fun o => o.isSome = object.isDeclaration ps) (declaration? object) := by
  unfold declaration? Element.isDeclaration
  split
  next hv => exact Gives.from (.pure (by simp [hv])) _
  next hv hp => exact Gives.from (.pure (by simp [hp])) _
  next hv hp hm => exact Gives.from (.pure (by simp [hm])) _
  next reference hv hp hm hr =>
    refine .bind_of (attr_gives _ _) fun catalog hcatalog => .bind fun name => .pure ?_
    -- an empty name of a catalog counts as left out, which is read as empty
    have hsaid : ((reference.says? ps "catalogName").filter (· ≠ "")).getD "" =
        (reference.says? ps "catalogName").getD "" := by
      cases reference.says? ps "catalogName" with
      | none => rfl
      | some said => by_cases hs : said = "" <;> simp [Option.filter_some, hs]
    rw [Option.isSome_map, hcatalog, hsaid, hv, hp, hm, hr]
    rfl
  next hv hp hm hr => exact Gives.from (.pure (by simp [hv, hp, hm, hr])) _

theorem ego_named : Gives (·.name = name) (ego name object node type) := by
  unfold ego
  exact .bind fun _ => .bind fun _ => .bind fun _ => .bind fun _ => .bind fun _ => .bind fun _ => .bind fun _ =>
    .bind fun _ => .pure rfl

theorem vehicle_named : Gives (·.name = name) (Staging.vehicle name type node) := by
  unfold Staging.vehicle
  exact .bind fun _ => .bind fun _ => .bind fun _ => .bind fun _ => .bind fun _ => .bind fun _ => .bind fun _ => .pure rfl

theorem pedestrian_named (standard : Behavior) : Gives (·.name = name) (pedestrian name type node standard) := by
  unfold pedestrian
  exact .bind fun _ => .bind fun _ => .bind fun _ => .bind fun _ => .bind fun _ => .bind fun _ => .pure rfl

theorem obstacle_named : Gives (·.name = name) (obstacle name type node) := by
  unfold obstacle
  exact .bind fun _ => .bind fun _ => .bind fun _ => .pure rfl

theorem ofDeclaration_named (d : Declaration) : Gives (·.name = name) (ofDeclaration name object d) := by
  cases d with
  | vehicle e =>
    refine .bind fun b => ?_
    split
    · exact .bind fun _ => ego_named _ _ _ _
    · refine .bind fun type => .bind fun sources => ?_
      split
      · exact pedestrian_named _ _ _ _
      · exact vehicle_named _ _ _
  | pedestrian e =>
    refine .bind fun model => ?_
    split
    · exact pedestrian_named _ _ _ _
    · exact .bind fun _ => pedestrian_named _ _ _ _
  | miscObject e => exact .bind fun _ => obstacle_named _ _ _
  | catalogued kind type =>
    have hvehicle : Gives (·.name = name) (do
        if isEgoName name then ego name object none type
        else if isWalker (← read).settings type then pedestrian name type none .scripted
        else Staging.vehicle name type none) := by
      split
      · exact ego_named _ _ _ _
      · refine .bind fun sources => ?_
        split
        · exact pedestrian_named _ _ _ _
        · exact vehicle_named _ _ _
    cases kind with
    | pedestrian => exact pedestrian_named _ _ _ _
    | miscObject => exact obstacle_named _ _ _
    | vehicle => exact hvehicle
    | ego => exact hvehicle

theorem entity?_named :
    GivesFrom (·.parameters = ps) (fun o => o.map (·.name) = object.declaredName? ps) (entity? object) := by
  intro sources map s hs
  have hkept := (attr?_reads object "name").keepsParameters sources map s hs
  have hname := attr?_gives "name" object sources map s hs
  unfold entity? Element.declaredName?
  rw [exec_bind, hname]
  cases (object.says? ps "name").filter (· ≠ "") with
  | none => rfl
  | some name =>
    have hdeclared := declaration?_isSome object sources map _ hkept
    dsimp only
    rw [exec_bind]
    cases hd : (exec sources map (declaration? object) (exec sources map (attr? object "name") s).2).1 with
    | none =>
      rw [hd] at hdeclared
      simp [← hdeclared]
    | some d =>
      rw [hd] at hdeclared
      dsimp only
      rw [exec_map, Option.map_some, ofDeclaration_named]
      simp [Option.filter_some, ← hdeclared]

theorem enter_keepsParameters (e : Entity) : Keeps (·.parameters = ps) (enter e) := by
  refine .getCast_bind fun c => .bind (.modify fun _ hs => hs) fun _ => ?_
  split
  · exact .pure _
  · exact (Reads.warn _ _).keepsParameters

theorem entity?_keepsParameters : Keeps (·.parameters = ps) (entity? object) := by
  intro sources map s hs
  rcases entity?_makes object sources map s with ⟨j, hnone⟩ | ⟨e, t, hsome, ⟨j, rfl⟩, -⟩
  · rwa [hnone]
  · rwa [hsome]

theorem declared?_keepsParameters : Keeps (·.parameters = ps) (declared? object) := by
  refine .bind (entity?_keepsParameters object) fun made => ?_
  cases made with
  | none => exact .pure _
  | some e => exact .bind (enter_keepsParameters e) fun _ => .pure _

theorem declaredIn_named : GivesFrom (·.parameters = ps)
    (fun kept => kept.map (fun p => (p.1, p.2.name)) =
      (e.childrenNamed "ScenarioObject").filterMap fun object => (object.declaredName? ps).map (object, ·))
    (declaredIn e) := by
  unfold declaredIn
  induction e.childrenNamed "ScenarioObject" with
  | nil => exact Gives.from (.pure rfl) _
  | cons object objects ih =>
    intro sources map s hs
    have hfirst := entity?_named object sources map s hs
    have hrest := ih sources map _ (declared?_keepsParameters object sources map s hs)
    have hmade : (exec sources map (declared? object) s).1 =
        (exec sources map (entity? object) s).1.map (object, ·) := by
      simp only [declared?, exec_bind]
      cases (exec sources map (entity? object) s).1 with
      | none => rfl
      | some e => simp only [exec_bind, exec_pure]
    simp only [filterMap, exec_bind, exec_pure, List.map_append, hrest, List.filterMap_cons, ← hfirst, hmade]
    cases (exec sources map (entity? object) s).1 <;> rfl

end Staging

section Runs

open Staging

variable {sources : Sources} {map : RoadMap} {root : Element} {sections : Sections}

theorem uncast_heads : HeadsSignals fun s => s.cast = {} ∧ ∀ kind, s.counters.entities kind = 0 where
  reads := fun _ _ hs => hs
  titles := fun _ _ _ _ _ hs => hs
  plans := by
    intro s p t hs hp
    cases hp with
    | plain _ _ => exact ⟨hs.1, fun kind => by simpa [Counters.entities] using hs.2 kind⟩
    | approached _ _ _ _ _ _ => exact ⟨hs.1, fun kind => by simpa [Counters.entities] using hs.2 kind⟩
  signals := fun _ _ hs => hs

theorem declaredStage_registers :
    (declaredStage sources map root sections).Registers ((declarations sources map root sections).map (·.2)) := by
  have hheaded := uncast_heads.heading root sections sources map {} ⟨rfl, fun kind => by cases kind <;> rfl⟩
  refine declaredIn_carries (I := fun past s => s.Registers (past.map (·.2))) (fun _ _ _ hs => ?_) (fun _ _ _ e _ hs hmade _ => ?_)
    sections.entities sources map [] _ (.start hheaded.1 hheaded.2)
  · exact { hs with }
  · rw [List.map_append]
    exact hs.add hmade

theorem identity_settles (base : Cast) : Settles fun t => Cast.Same Entity.identity base t.cast where
  reads := fun _ _ hs => hs
  signals := fun _ _ _ hs => hs
  weather := fun _ _ hs => hs
  entities := fun _ _ _ hf hs => hs.trans (.modify fun e _ => Entity.identity_of_settled (hf e))
  routes := by
    intro s owner plan route t hs _ ha
    exact hs.trans (ha.sameEvents.cast.same.imp fun _ _ => Entity.identity_of_plain)

theorem identity_lasts (base : Cast) : Lasts fun t => Cast.Same Entity.identity base t.cast where
  reads := fun _ _ hs => hs
  reroutes := fun _ _ _ _ _ hs ha => hs.trans (ha.sameEvents.cast.same.imp fun _ _ => Entity.identity_of_plain)
  feeds := fun _ _ _ _ _ hs _ _ hf => hs.trans (hf.alike.same.imp fun _ _ => Entity.identity_of_plain)
  keeps := by
    intro s event t hs hstored
    cases hstored with
    | ego _ _ => exact hs
    | stray _ _ => exact hs
    | listed _ _ => exact hs.trans (.modify fun e _ => Entity.identity_withEvent _ e)

theorem openStage_identity : Cast.Same Entity.identity (declaredStage sources map root sections).cast
    (openStage sources map root sections).cast := by
  rw [openStage_eq]
  exact (identity_settles _).init sections.init sources map _ (.refl _)

theorem told_identity (h : Sections.ofRoot root = .ok sections) :
    Cast.Same Entity.identity (declaredStage sources map root sections).cast (told sources map root).2.cast :=
  (identity_lasts _).told h openStage_identity

theorem finalStage_identity (h : Sections.ofRoot root = .ok sections) :
    Cast.Same Entity.identity (declaredStage sources map root sections).cast (finalStage sources map root).cast :=
  (told_identity h).trans
    ((shareTimelines_sameEvents sources map _).cast.same.imp fun _ _ => Entity.identity_of_plain)

end Runs

/-- Who is in a scene: those whom the objects of the document declare, at each stage and in the end. -/
structure Scene.Identified (sources : Sources) (map : RoadMap) (root : Element) (sections : Sections) (scene : Scene) :
    Prop where
  kept : (declarations sources map root sections).map (fun p => (p.1, p.2.name)) =
    (sections.entities.childrenNamed "ScenarioObject").filterMap fun object =>
      (object.declaredName? (headedStage sources map root sections).parameters).map (object, ·)
  declared : (declaredStage sources map root sections).cast.Numbers ((declarations sources map root sections).map (·.2))
  opened : (openStage sources map root sections).cast.Numbers ((declarations sources map root sections).map (·.2))
  told : (told sources map root).2.cast.Numbers ((declarations sources map root sections).map (·.2))
  closed : (finalStage sources map root).cast.Numbers ((declarations sources map root sections).map (·.2))
  scene : ∀ kind, scene.ofKind kind = (finalStage sources map root).cast.ofKind kind

theorem stage_identified {sources : Sources} {map : RoadMap} {root : Element} {staged : Staged}
    (h : (stage sources root).run map = .ok staged) :
    ∃ sections, Sections.ofRoot root = .ok sections ∧ staged.scene.Identified sources map root sections := by
  obtain ⟨sections, hroot, rfl⟩ := run_stage h
  have henrolled : (headedStage sources map root sections).Enrolled _ (declaredStage sources map root sections) :=
    declaredStage_enrolled
  have hdeclared := declaredStage_registers.numbers henrolled.cast
  exact ⟨sections, hroot, {
    kept := Staging.declaredIn_named sections.entities sources map _ rfl
    declared := hdeclared
    opened := openStage_identity.numbers hdeclared henrolled.cast
    told := (told_identity hroot).numbers hdeclared henrolled.cast
    closed := (finalStage_identity hroot).numbers hdeclared henrolled.cast
    scene := Stage.ofKind_scene _ }⟩

namespace Sample

def object (name kind type : String) : Element :=
  .of "ScenarioObject" [("name", name)] [.of kind [("name", type)] []]

def crowd : Element :=
  .of "OpenSCENARIO" [] [
    .of "FileHeader" [] [],
    .of "Entities" [] [object "Car" "Vehicle" "Sedan", object "" "Vehicle" "Sedan", object "Ego" "Vehicle" "Sedan",
      object "CAR" "Pedestrian" "Adult", object "car" "Vehicle" "Sedan", object "Box" "MiscObject" "Crate"],
    .of "Storyboard" [] [.of "Init" [] []]]

end Sample

theorem crowd_identified : ∃ staged sections, (stage .bare Sample.crowd).run .blank = .ok staged ∧
    Sections.ofRoot Sample.crowd = .ok sections ∧ staged.scene.Identified .bare .blank Sample.crowd sections ∧
    staged.scene.vehicles.keys = [1, 2] ∧ staged.scene.pedestrians.keys = [1] ∧
    (finalStage .bare .blank Sample.crowd).cast.who? "cAr" = some (.vehicle, 1) ∧
    (finalStage .bare .blank Sample.crowd).cast.who? "bOX" = some (.obstacle, 1) ∧
    (finalStage .bare .blank Sample.crowd).cast.who? "Bus" = none := by
  have hstaged := @run_stage_of_isOk .bare .blank Sample.crowd (by decide)
  obtain ⟨sections, hroot, hidentified⟩ := stage_identified hstaged
  exact ⟨_, sections, hstaged, hroot, hidentified, by decide +kernel, by decide +kernel, by decide +kernel,
    by decide +kernel, by decide +kernel⟩

end Scenography
