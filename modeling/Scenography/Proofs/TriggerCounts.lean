import Scenography.Proofs.Numbering
import Scenography.Proofs.Profiles
/-!
How often conditions fire: once, unless their story has a parameter of the condition's key. Keys of different conditions
differ unless the mark in the middle of a key stands in a name, too.
-/

namespace Scenography

open Markup (Element)

protected theorem Stage.SameEvents.trans {s t u : Stage} (h : s.SameEvents t) (h' : t.SameEvents u) : s.SameEvents u :=
  ⟨h'.events.trans h.events, h'.egoEvents.trans h.egoEvents, h'.plannerEvents.trans h.plannerEvents,
    h'.count.trans h.count, h'.egoCount.trans h.egoCount, h.cast.trans h'.cast⟩

theorem Cast.Alike.isEgo {c d : Cast} (h : c.Alike d) (name : String) : c.isEgo name = d.isEgo name := by
  have hfind := h.find? name
  unfold Cast.isEgo
  cases hc : c.find? name with
  | none =>
    cases hd : d.find? name with
    | none => rfl
    | some e' => simp [hc, hd] at hfind
  | some e =>
    cases hd : d.find? name with
    | none => simp [hc, hd] at hfind
    | some e' =>
      rw [hc, hd] at hfind
      simp only [Entity.kind_of_plain (Option.some.inj hfind)]

namespace Staging

section Keys

/-- The first actor's name, a mark and `w` make the second one's, and `w` and what follows it the first event's:
both pairs of names make one text, cut at different marks. -/
def Recut (actor event actor' event' : String) : Prop :=
  ∃ w, actor' = actor ++ "_triggercount$" ++ w ∧ event = w ++ "_triggercount$" ++ event'

def Merges (actor event actor' event' : String) : Prop :=
  actor = actor' ∧ event = event' ∨ Recut actor event actor' event' ∨ Recut actor' event' actor event

variable {mark : Char} {tail l l' r r' : List Char}

/-- A word whose first letter comes once does not overlap with itself. -/
theorem eq_nil_or_cons_of_append_eq (hmark : mark ∉ tail) {x : List Char}
    (h : mark :: tail ++ r = x ++ (mark :: tail ++ r')) :
    x = [] ∨ ∃ w, x = mark :: tail ++ w ∧ r = w ++ (mark :: tail ++ r') := by
  rcases List.append_eq_append_iff.1 h with ⟨w, hx, hr⟩ | ⟨y, htail, hr⟩
  · exact .inr ⟨w, hx, hr⟩
  · cases x with
    | nil => exact .inl rfl
    | cons c x =>
      cases y with
      | nil =>
        refine .inr ⟨[], by simpa using htail.symm, ?_⟩
        simpa using hr.symm
      | cons d y =>
        have hd : d = mark := (List.cons.inj hr).1.symm
        have hmem : mark ∈ tail := by
          rw [(List.cons.inj htail).2, hd]
          simp
        exact absurd hmem hmark

theorem append_mark_eq_iff (hmark : mark ∉ tail) : l ++ (mark :: tail ++ r) = l' ++ (mark :: tail ++ r') ↔
    l = l' ∧ r = r' ∨ (∃ w, l' = l ++ (mark :: tail ++ w) ∧ r = w ++ (mark :: tail ++ r')) ∨
      ∃ w, l = l' ++ (mark :: tail ++ w) ∧ r' = w ++ (mark :: tail ++ r) := by
  constructor
  · intro h
    rcases List.append_eq_append_iff.1 h with ⟨x, hl, hx⟩ | ⟨x, hl, hx⟩
    · rcases eq_nil_or_cons_of_append_eq hmark hx with rfl | ⟨w, rfl, hr⟩
      · exact .inl ⟨by simpa using hl.symm, by simpa using hx⟩
      · exact .inr (.inl ⟨w, hl, hr⟩)
    · rcases eq_nil_or_cons_of_append_eq hmark hx with rfl | ⟨w, rfl, hr⟩
      · exact .inl ⟨by simpa using hl, by simpa using hx.symm⟩
      · exact .inr (.inr ⟨w, hl, hr⟩)
  · rintro (⟨rfl, rfl⟩ | ⟨w, rfl, rfl⟩ | ⟨w, rfl, rfl⟩)
    · rfl
    · simp
    · simp

theorem eq_of_append_last (hr : mark ∉ r) (hr' : mark ∉ r') (h : l ++ mark :: r = l' ++ mark :: r') :
    l = l' ∧ r = r' := by
  have hend {x s t : List Char} (hs : mark ∉ s) (hx : mark :: s = x ++ mark :: t) : x = [] ∧ s = t := by
    cases x with
    | nil => exact ⟨rfl, (List.cons.inj hx).2⟩
    | cons c x =>
      have hmem : mark ∈ s := by
        rw [(List.cons.inj hx).2]
        simp
      exact absurd hmem hs
  rcases List.append_eq_append_iff.1 h with ⟨x, hl, hx⟩ | ⟨x, hl, hx⟩
  · obtain ⟨rfl, hrest⟩ := hend hr hx
    exact ⟨by simpa using hl.symm, hrest⟩
  · obtain ⟨rfl, hrest⟩ := hend hr' hx
    exact ⟨by simpa using hl, hrest.symm⟩

def bareKey (actor event : String) (index : Nat) : String :=
  actor ++ "_triggercount$" ++ event ++ "$Condition_" ++ toString index

theorem countKey_eq (actor event : String) (index : Nat) :
    countKey false actor event index = "$" ++ bareKey actor event index := by
  simp [countKey, bareKey, String.append_assoc]

theorem toList_bareKey (actor event : String) (index : Nat) : (bareKey actor event index).toList =
    actor.toList ++ ('_' :: "triggercount$".toList ++ event.toList) ++
      '$' :: ("Condition_".toList ++ Nat.toDigits 10 index) := by
  simp [bareKey]

theorem merges_iff {actor event actor' event' : String} : Merges actor event actor' event' ↔
    actor.toList ++ ('_' :: "triggercount$".toList ++ event.toList) =
      actor'.toList ++ ('_' :: "triggercount$".toList ++ event'.toList) := by
  rw [append_mark_eq_iff (by decide)]
  have hrecut (a e a' e' : String) : Recut a e a' e' ↔ ∃ w, a'.toList = a.toList ++ ('_' :: "triggercount$".toList ++ w) ∧
      e.toList = w ++ ('_' :: "triggercount$".toList ++ e'.toList) := by
    constructor
    · rintro ⟨w, rfl, rfl⟩
      exact ⟨w.toList, by simp, by simp⟩
    · rintro ⟨w, ha, he⟩
      exact ⟨String.ofList w, String.toList_inj.1 (by simpa using ha), String.toList_inj.1 (by simpa using he)⟩
  rw [Merges, hrecut, hrecut, String.toList_inj, String.toList_inj]

theorem dollar_notMem_toDigits (n : Nat) : '$' ∉ Nat.toDigits 10 n := by
  intro h
  have hdigit := Nat.isDigit_of_mem_toDigits (by decide) (by decide) h
  exact absurd hdigit (by decide)

theorem bareKey_eq_iff {actor event actor' event' : String} {index index' : Nat} :
    bareKey actor event index = bareKey actor' event' index' ↔ index = index' ∧ Merges actor event actor' event' := by
  have hplace (n : Nat) : '$' ∉ "Condition_".toList ++ Nat.toDigits 10 n := by
    simp [dollar_notMem_toDigits]
  rw [← String.toList_inj, toList_bareKey, toList_bareKey, merges_iff]
  constructor
  · intro h
    obtain ⟨hnames, hdigits⟩ := eq_of_append_last (hplace index) (hplace index') h
    exact ⟨toDigits_injective (List.append_cancel_left hdigits), hnames⟩
  · rintro ⟨rfl, hnames⟩
    rw [hnames]

theorem countKey_eq_iff {actor event actor' event' : String} {index index' : Nat} :
    countKey false actor event index = countKey false actor' event' index' ↔
      index = index' ∧ Merges actor event actor' event' := by
  rw [countKey_eq, countKey_eq, String.append_right_inj, bareKey_eq_iff]

theorem bareName_countKey (actor event : String) (index : Nat) :
    Parameters.bareName (countKey false actor event index) = bareKey (Parameters.bareName actor) event index := by
  rw [countKey_eq, ← String.toList_inj, toList_bareKey]
  simp only [Parameters.bareName, Text.dropLead, String.toList_ofList, String.toList_append, toList_bareKey]
  simp [Parameters.sigil, List.dropWhile_append]

theorem countKey_ne_bareName (actor event actor' event' : String) (index index' : Nat) :
    countKey false actor event index ≠ Parameters.bareName (countKey false actor' event' index') := by
  intro h
  have hhead := congrArg (fun s => s.toList.head?) h
  rw [countKey_eq, Parameters.bareName, Text.dropLead] at hhead
  simp only [String.toList_append, String.toList_ofList] at hhead
  have hdrop := List.head?_dropWhile_not (· = Parameters.sigil) (countKey false actor' event' index').toList
  rw [← hhead] at hdrop
  simp [Parameters.sigil] at hdrop

end Keys

section Counts

variable {sources : Sources} {map : RoadMap} {overrides : KeyMap String String} {actor : String} {s : Stage}

def storyCount (overrides : KeyMap String String) (key : String) : Nat :=
  ((override? overrides key).bind fun raw => count? (Text.trim raw)).getD 1

theorem Gives.run_listMapM {α β : Type} {Q : β → Prop} {f : α → Attempt β} (hf : ∀ a, Gives (IfOk Q) (f a).run)
    (l : List α) : Gives (IfOk fun bs => ∀ b ∈ bs, Q b) (l.mapM f).run := by
  induction l with
  | nil => exact .run_pure (.ok (by simp))
  | cons a l ih =>
    rw [List.mapM_cons]
    refine .run_bind_of .error (hf a) fun b hb => .run_bind_of .error ih fun bs hbs => .run_pure (.ok ?_)
    exact List.forall_mem_cons.2 ⟨hb, hbs⟩

theorem condition_once (actor : String) (e : Element) : Gives (IfOk (·.count = 1)) (condition actor e).run := by
  unfold condition
  refine .run_bind .error fun name => ?_
  split
  · exact .run_throw (.error _)
  · refine .run_bind .error fun _ => .run_bind .error fun _ => .run_bind .error fun _ => .run_bind .error fun _ => ?_
    exact .run_pure (.ok rfl)

theorem startConditions_once (actor : String) (e : Element) :
    Gives (IfOk fun l => ∀ c ∈ l, c.count = 1) (startConditions actor e).run := by
  unfold startConditions
  split
  · exact .run_listMapM (condition_once actor) _
  · exact .run_pure (.ok (by simp))

theorem exec_mapM_getElem? {α β : Type} {f : α → Staging β} {l : List α} {i : Nat} {b : β}
    (h : (exec sources map (l.mapM f) s).1[i]? = some b) :
    ∃ a t, l[i]? = some a ∧ (exec sources map (f a) t).1 = b := by
  induction l generalizing s i with
  | nil => simp at h
  | cons a l ih =>
    simp only [List.mapM_cons, exec_bind, exec_pure] at h
    cases i with
    | zero => exact ⟨a, s, rfl, by simpa using h⟩
    | succ i => exact ih (by simpa using h)

theorem withCount_count (overrides : KeyMap String String) (key : String) {c : Condition} (hc : c.count = 1) :
    Gives (·.count = storyCount overrides key) (withCount overrides key c) := by
  unfold withCount storyCount
  split
  next h => exact .pure (by rw [h, hc]; rfl)
  next raw h =>
    split
    next n hn => exact .pure (by rw [h, Option.bind_some, hn]; rfl)
    next hn => exact .bind fun _ => .pure (by rw [h, Option.bind_some, hn, hc]; rfl)

theorem withCounts_count {conditions : List Condition} (hl : ∀ c ∈ conditions, c.count = 1) (name : String) {i : Nat}
    {c : Condition} (hc : (exec sources map (withCounts overrides actor name conditions) s).1[i]? = some c) :
    c.count = storyCount overrides (countKey (s.cast.isEgo actor) actor name i) := by
  simp only [withCounts, exec_bind, exec_getCast] at hc
  obtain ⟨⟨a, j⟩, t, ha, rfl⟩ := exec_mapM_getElem? hc
  rw [List.getElem?_zipIdx, Nat.zero_add] at ha
  obtain ⟨a', hmem, hplace⟩ := Option.map_eq_some_iff.1 ha
  obtain ⟨rfl, rfl⟩ := Prod.mk.inj hplace
  exact withCount_count overrides _ (hl a' (List.mem_of_getElem? hmem)) _ _ _

theorem Reads.sameEvents {α : Type} {m : Staging α} (h : Reads m) (s₀ : Stage) : Keeps s₀.SameEvents m :=
  h.keeps fun _ j ht => ht.journal j

theorem action?_sameEvents (s₀ : Stage) (behavior : Behavior) (cue : Option Cue) (e : Element) :
    Keeps s₀.SameEvents (action? actor behavior cue e) := by
  intro sources map s hs
  have hread := (request?_reads e actor behavior).sameEvents s₀ sources map s hs
  have hplans := request?_fitsGated e actor behavior sources map s rfl
  simp only [action?, exec_bind]
  generalize exec sources map (request? actor behavior e).run s = requested at hread hplans ⊢
  obtain ⟨r, t⟩ := requested
  cases r with
  | error fault => exact (Reads.record fault).sameEvents s₀ sources map t hread
  | ok planned =>
    cases planned with
    | none => exact hread
    | some r =>
      simp only [exec_bind, exec_pure]
      exact hread.trans (exec_perform sources map t (hplans r rfl).plans actor cue).sameEvents

theorem eventActions_sameEvents (s₀ : Stage) (conditions : List Condition) (e : Element) :
    Keeps s₀.SameEvents (eventActions actor conditions e) :=
  .getCast_bind fun _ => .filterMap (action?_sameEvents s₀ _ _) _

theorem draft_sameEvents (s₀ : Stage) (e : Element) : Keeps s₀.SameEvents (draft overrides actor e) := by
  unfold draft
  refine .bind ((attr_reads _ _).sameEvents s₀) fun name => ?_
  refine .bind ((startConditions_reads _ _).sameEvents s₀) fun r => ?_
  split
  · exact .bind ((Reads.record _).sameEvents s₀) fun _ => .pure _
  · refine .bind ((withCounts_reads _ _ _ _).sameEvents s₀) fun _ => .bind (eventActions_sameEvents _ _ _) fun _ => ?_
    split <;> exact .pure _

theorem draft_counts {e : Element} {event : Event} (h : (exec sources map (draft overrides actor e) s).1 = some event) :
    event.owner = actor ∧ ∀ i c, event.conditions[i]? = some c →
      c.count = storyCount overrides (countKey (s.cast.isEgo actor) actor event.name i) := by
  simp only [draft, exec_bind] at h
  have hname := (attr_reads e "name").sameEvents s sources map s (.refl s)
  generalize exec sources map (attr e "name") s = named at h hname
  have hstart := (startConditions_reads e actor).sameEvents s sources map _ hname
  have honce := startConditions_once actor e sources map named.2
  generalize exec sources map (startConditions actor e).run named.2 = started at h hstart honce
  obtain ⟨started, t⟩ := started
  cases started with
  | error fault => simp at h
  | ok conditions =>
    simp only [exec_bind] at h
    have hcounts : ∀ i c, (exec sources map (withCounts overrides actor named.1 conditions) t).1[i]? = some c →
        c.count = storyCount overrides (countKey (s.cast.isEgo actor) actor named.1 i) := by
      rw [hstart.cast.isEgo actor]
      exact fun _ _ => withCounts_count (honce _ rfl) named.1
    split at h
    · simp at h
    · cases h
      exact ⟨rfl, hcounts⟩

/-- Among the free events of `t`, those that `s` does not have bear the counts a story gives them. -/
def CountsSince (s : Stage) (overrides : KeyMap String String) (t : Stage) : Prop :=
  ∀ n event, t.events.get? n = some event → s.events.get? n = some event ∨ ∀ i c, event.conditions[i]? = some c →
    c.count = storyCount overrides (countKey false event.owner event.name i)

theorem CountsSince.stored {event : Event} {t u : Stage} (ht : CountsSince s overrides t) (hu : t.Stored event u)
    (hcounts : ∀ i c, event.conditions[i]? = some c →
      c.count = storyCount overrides (countKey (t.cast.isEgo event.owner) event.owner event.name i)) :
    CountsSince s overrides u := by
  have hfree (hego : t.cast.isEgo event.owner = false) {n : Nat} {kept : Event}
      (hkept : (t.events.insert t.counters.events { event with id := t.counters.events }).get? n = some kept) :
      s.events.get? n = some kept ∨ ∀ i c, kept.conditions[i]? = some c →
        c.count = storyCount overrides (countKey false kept.owner kept.name i) := by
    rw [KeyMap.get?_insert] at hkept
    split at hkept
    · rw [hego] at hcounts
      cases hkept
      exact .inr hcounts
    · exact ht n kept hkept
  cases hu with
  | ego _ _ => exact ht
  | listed hfind hkind => exact fun n kept => hfree (by simp [Cast.isEgo, hfind, hkind])
  | stray hfind _ => exact fun n kept => hfree (by simp [Cast.isEgo, hfind])

theorem event_countsSince (s : Stage) (e : Element) : Keeps (CountsSince s overrides) (event overrides actor e) := by
  intro sources map t ht
  have hsame : t.SameEvents (exec sources map (draft overrides actor e) t).2 :=
    draft_sameEvents t e sources map t (.refl t)
  have hdrafted : CountsSince s overrides (exec sources map (draft overrides actor e) t).2 :=
    fun n kept hkept => ht n kept (hsame.events ▸ hkept)
  simp only [event, exec_bind]
  cases hdraft : (exec sources map (draft overrides actor e) t).1 with
  | none => exact hdrafted
  | some event =>
    obtain ⟨rfl, hcounts⟩ := draft_counts hdraft
    rw [hsame.cast.isEgo] at hcounts
    exact hdrafted.stored (exec_storeEvent sources map _ event) hcounts

theorem group_countsSince (s : Stage) (e : Element) : Keeps (CountsSince s overrides) (group overrides e) := by
  have hreads : ∀ (t : Stage) (j : Journal), CountsSince s overrides t →
      CountsSince s overrides { t with journal := j } := fun _ _ ht => ht
  unfold group
  exact .bind ((actor_reads _).keeps hreads) fun _ => .bind ((maneuvers_reads _).keeps hreads) fun _ =>
    .forM (event_countsSince s) _

theorem story_countsSince (s : Stage) (e : Element) : Keeps (CountsSince s (storyParameters e)) (story e) := by
  unfold story
  refine .bind ?_ fun _ => .forM (group_countsSince s) _
  exact .map ((attr_reads _ _).keeps fun _ _ ht => ht)

end Counts

section Overrides

variable {story : Element} {overrides : KeyMap String String} {actor event actor' event' : String} {index index' : Nat}

def Declares (story : Element) (name : String) : Prop :=
  ∃ declarations, story.child? "ParameterDeclarations" = some declarations ∧
    ∃ d ∈ declarations.childrenNamed "ParameterDeclaration", d.attr? "name" = some name

theorem Declares.of_get? {name value : String} (h : (storyParameters story).get? name = some value) :
    Declares story name := by
  rw [storyParameters, KeyMap.get?_ofList_last] at h
  obtain ⟨⟨key, value'⟩, hfind, rfl⟩ := Option.map_eq_some_iff.1 h
  have hkey : key = name := by simpa using List.find?_some hfind
  obtain ⟨d, hd, hnamed⟩ := List.mem_filterMap.1 (List.mem_reverse.1 (List.mem_of_find?_eq_some hfind))
  cases hdeclarations : story.child? "ParameterDeclarations" with
  | none => simp [hdeclarations] at hd
  | some declarations =>
    rw [hdeclarations, Option.map_some, Option.getD_some] at hd
    refine ⟨declarations, hdeclarations, d, hd, ?_⟩
    split at hnamed
    next hname => cases hnamed; exact hkey ▸ hname
    next => cases hnamed

theorem storyCount_undeclared {key : String} (h : ¬ Declares story key)
    (hbare : ¬ Declares story (Parameters.bareName key)) : storyCount (storyParameters story) key = 1 := by
  have hnone {name : String} (hn : ¬ Declares story name) : (storyParameters story).get? name = none := by
    cases hget : (storyParameters story).get? name with
    | none => rfl
    | some value => exact absurd (.of_get? hget) hn
  rw [storyCount, override?, hnone h, hnone hbare]
  rfl

theorem storyCount_insert {key name : String} (value : String) (h : key ≠ name)
    (hbare : Parameters.bareName key ≠ name) :
    storyCount (overrides.insert name value) key = storyCount overrides key := by
  rw [storyCount, override?, KeyMap.get?_insert_of_ne h, KeyMap.get?_insert_of_ne hbare]
  rfl

def Spells (actor event : String) (index : Nat) (name : String) : Prop :=
  name = countKey false actor event index ∨ name = Parameters.bareName (countKey false actor event index)

theorem Spells.merges {name : String} (h : Spells actor event index name) (h' : Spells actor' event' index' name) :
    index = index' ∧ Merges (Parameters.bareName actor) event (Parameters.bareName actor') event' := by
  have hbare : bareKey (Parameters.bareName actor) event index = bareKey (Parameters.bareName actor') event' index' := by
    rw [← bareName_countKey, ← bareName_countKey]
    rcases h with rfl | rfl <;> rcases h' with h' | h'
    · rw [h']
    · exact absurd h' (countKey_ne_bareName _ _ _ _ _ _)
    · exact absurd h'.symm (countKey_ne_bareName _ _ _ _ _ _)
    · exact h'
  exact bareKey_eq_iff.1 hbare

/-- The count of a condition of a free event that a story adds. It is one unless the story declares a parameter of the
condition's key, with or without the sigils; keys agree exactly if the places do and the names make one text; and a
parameter that another condition's count is declared under changes it only then, but for sigils in front of the
actors. -/
theorem story_counts {sources : Sources} {map : RoadMap} {s : Stage} {n i : Nat} {kept : Event} {c : Condition}
    (hkept : (exec sources map (Staging.story story) s).2.events.get? n = some kept)
    (hnew : s.events.get? n ≠ some kept) (hc : kept.conditions[i]? = some c) :
    c.count = storyCount (storyParameters story) (countKey false kept.owner kept.name i) ∧
      (¬ Declares story (countKey false kept.owner kept.name i) →
        ¬ Declares story (Parameters.bareName (countKey false kept.owner kept.name i)) → c.count = 1) ∧
      (∀ actor event index, countKey false actor event index = countKey false kept.owner kept.name i ↔
        index = i ∧ Merges actor event kept.owner kept.name) ∧
      ∀ actor event index name value, Spells actor event index name →
        storyCount ((storyParameters story).insert name value) (countKey false kept.owner kept.name i) ≠ c.count →
          index = i ∧ Merges (Parameters.bareName actor) event (Parameters.bareName kept.owner) kept.name := by
  have hcount : c.count = storyCount (storyParameters story) (countKey false kept.owner kept.name i) := by
    have hsince := story_countsSince s story sources map s (fun _ _ => .inl) n kept hkept
    exact hsince.resolve_left hnew i c hc
  refine ⟨hcount, fun h hbare => hcount.trans (storyCount_undeclared h hbare), fun _ _ _ => countKey_eq_iff, ?_⟩
  intro actor event index name value hspells hchanged
  apply hspells.merges
  by_contra hother
  obtain ⟨hkey, hbare⟩ := not_or.1 hother
  exact hchanged ((storyCount_insert value (Ne.symm hkey) (Ne.symm hbare)).trans hcount.symm)

end Overrides

end Staging

section Sample

namespace Sample

def namedEvent (name : String) (conditions actions : List Element) : Element :=
  .of "Event" [("name", name)] (.of "StartTrigger" [] [.of "ConditionGroup" [] conditions] :: actions)

def recounted : Element :=
  .of "Story" [] [
    .of "ParameterDeclarations" [] [
      .of "ParameterDeclaration" [("name", "a_triggercount$b_triggercount$c$Condition_0"), ("value", "3")] []],
    .of "Act" [] [
      group "a" [namedEvent "b_triggercount$c" [timeTest "1"] [speedAction "go" "step" "0" "10"]],
      group "a_triggercount$b" [namedEvent "c" [timeTest "5"] [speedAction "stop" "step" "0" "0"]]]]

def recountedRoot : Element :=
  .of "OpenSCENARIO" [] [
    .of "FileHeader" [] [],
    .of "Entities" [] [
      .of "ScenarioObject" [("name", "a")] [.of "Vehicle" [("name", "Sedan")] []],
      .of "ScenarioObject" [("name", "a_triggercount$b")] [.of "Vehicle" [("name", "Sedan")] []]],
    .of "Storyboard" [] [.of "Init" [] [], recounted]]

end Sample

open Staging

theorem recounted_condition_counts : ∃ kept c,
    (exec .bare .blank (Staging.story Sample.recounted) {}).2.events.get? 0 = some kept ∧
      ({} : Stage).events.get? 0 ≠ some kept ∧ kept.conditions[0]? = some c ∧
      c.count = storyCount (storyParameters Sample.recounted) (countKey false kept.owner kept.name 0) ∧
      (¬ Declares Sample.recounted (countKey false kept.owner kept.name 0) →
        ¬ Declares Sample.recounted (Parameters.bareName (countKey false kept.owner kept.name 0)) → c.count = 1) ∧
      (∀ actor event index, countKey false actor event index = countKey false kept.owner kept.name 0 ↔
        index = 0 ∧ Merges actor event kept.owner kept.name) ∧
      ∀ actor event index name value, Spells actor event index name →
        storyCount ((storyParameters Sample.recounted).insert name value) (countKey false kept.owner kept.name 0) ≠
          c.count → index = 0 ∧ Merges (Parameters.bareName actor) event (Parameters.bareName kept.owner) kept.name := by
  have hsome : (((exec .bare .blank (Staging.story Sample.recounted) {}).2.events.get? 0).bind
      fun kept => kept.conditions[0]?).isSome = true := by decide +kernel
  obtain ⟨c, hc⟩ := Option.isSome_iff_exists.1 hsome
  obtain ⟨kept, hkept, hc⟩ := Option.bind_eq_some_iff.1 hc
  have hnew : ({} : Stage).events.get? 0 ≠ some kept := nofun
  exact ⟨kept, c, hkept, hnew, hc, story_counts hkept hnew hc⟩

/-- Two conditions of two entities answer to one key, and one parameter sets the counts of both. -/
theorem one_key_of_two_conditions :
    ("a", "b_triggercount$c", 0) ≠ ("a_triggercount$b", "c", 0) ∧
      countKey false "a" "b_triggercount$c" 0 = countKey false "a_triggercount$b" "c" 0 ∧
      ((stage .bare Sample.recountedRoot).run .blank).toOption.map
        (fun staged => staged.scene.events.values.map fun e => (e.owner, e.name, e.conditions.map (·.count))) =
        some [("a", "b_triggercount$c", [3]), ("a_triggercount$b", "c", [3])] := by
  refine ⟨by decide, by decide, ?_⟩
  decide +kernel

end Sample

end Scenography
