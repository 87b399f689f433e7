import Mathlib.Data.Finset.Card
import Scenography.CommandLine.Run

namespace Scenography

namespace RoadMap.Memo

variable {map : RoadMap} {m : Memo} {past : List Query}

theorem find?_start (q : Query) : ({} : Memo).find? q = none := by
  cases q <;> rfl

theorem find?_keep_self (m : Memo) (q : Query) (a : q.Answer) : (m.keep q a).find? q = some a := by
  cases q <;> exact List.lookup_cons_self

theorem find?_keep_of_ne (m : Memo) {q q' : Query} (a : q.Answer) (h : q' ≠ q) :
    (m.keep q a).find? q' = m.find? q' := by
  have hkey : (q' == q) = false := beq_false_of_ne h
  cases q <;> cases q' <;> simp only [keep, find?, List.lookup_cons, hkey]

theorem find?_hits (m : Memo) (n : Nat) (q : Query) : ({ m with hits := n } : Memo).find? q = m.find? q := by
  cases q <;> rfl

theorem hits_keep (m : Memo) (q : Query) (a : q.Answer) : (m.keep q a).hits = m.hits := by
  cases q <;> rfl

/-- The memo has the map's answers to the queries asked so far and to no others, and it has served whenever one of
them was asked again. -/
structure Remembers (map : RoadMap) (past : List Query) (m : Memo) : Prop where
  known : ∀ q, m.find? q = if q ∈ past then some (map q) else none
  hits : m.hits + past.toFinset.card = past.length

theorem remembers_start : Remembers map [] {} where
  known q := by rw [find?_start, if_neg List.not_mem_nil]
  hits := rfl

theorem toFinset_concat (past : List Query) (q : Query) : (past ++ [q]).toFinset = insert q past.toFinset := by
  ext q'
  simp

theorem Remembers.again (h : Remembers map past m) {q : Query} (hq : q ∈ past) :
    Remembers map (past ++ [q]) { m with hits := m.hits + 1 } where
  known q' := by
    rw [find?_hits, h.known q']
    have hmem : q' ∈ past ++ [q] ↔ q' ∈ past := by
      rw [List.mem_append, List.mem_singleton]
      exact ⟨fun h => h.elim id fun heq => heq ▸ hq, Or.inl⟩
    simp only [hmem]
  hits := by
    have hsame : (past ++ [q]).toFinset = past.toFinset := by
      rw [toFinset_concat, Finset.insert_eq_self.2 (List.mem_toFinset.2 hq)]
    have hhits := h.hits
    change m.hits + 1 + (past ++ [q]).toFinset.card = _
    rw [hsame, List.length_append, List.length_singleton]
    omega

theorem Remembers.first (h : Remembers map past m) {q : Query} (hq : q ∉ past) :
    Remembers map (past ++ [q]) (m.keep q (map q)) where
  known q' := by
    by_cases heq : q' = q
    · subst heq
      rw [find?_keep_self, if_pos (by simp)]
    · rw [find?_keep_of_ne m _ heq, h.known q']
      simp only [List.mem_append, List.mem_singleton, heq, or_false]
  hits := by
    have hmore : (past ++ [q]).toFinset.card = past.toFinset.card + 1 := by
      rw [toFinset_concat, Finset.card_insert_of_notMem (List.mem_toFinset.not.2 hq)]
    have hhits := h.hits
    rw [hits_keep, hmore, List.length_append, List.length_singleton]
    omega

theorem Remembers.ask (h : Remembers map past m) (q : Query) :
    (m.ask map q).1 = map q ∧ Remembers map (past ++ [q]) (m.ask map q).2 := by
  have hknown := h.known q
  unfold Memo.ask
  by_cases hq : q ∈ past
  · rw [if_pos hq] at hknown
    rw [hknown]
    exact ⟨rfl, h.again hq⟩
  · rw [if_neg hq] at hknown
    rw [hknown]
    exact ⟨rfl, h.first hq⟩

end RoadMap.Memo

open RoadMap (Memo Query)

namespace Inquiry

variable {α β : Type} {map : RoadMap} {m : Memo} {past : List Query}

theorem runWith_remembers (p : Inquiry α) (h : Memo.Remembers map past m) :
    (p.runWith map m).1 = p.run map ∧ Memo.Remembers map (past ++ p.asked map) (p.runWith map m).2 := by
  induction p generalizing m past with
  | done a => exact ⟨rfl, by rwa [asked, List.append_nil]⟩
  | ask q next ih =>
    obtain ⟨hanswer, hm⟩ := h.ask q
    have hrest := ih (m.ask map q).1 hm
    rw [asked, List.append_cons, run, ← hanswer]
    exact hrest
  | overflow next ih => exact ih h

theorem run_mapM (map : RoadMap) (f : α → Inquiry β) (l : List α) :
    (l.mapM f).run map = l.map fun a => (f a).run map := by
  induction l with
  | nil => rfl
  | cons a l ih =>
    rw [List.mapM_cons, List.map_cons, ← ih]
    refine (run_bind map (f a) _).trans ?_
    exact run_bind map (l.mapM f) _

theorem asked_bind (map : RoadMap) (p : Inquiry α) (f : α → Inquiry β) :
    (p.bind f).asked map = p.asked map ++ (f (p.run map)).asked map := by
  induction p with
  | done a => rfl
  | ask q next ih => exact congrArg (q :: ·) (ih (map q))
  | overflow next ih => exact ih

def ofQueries (l : List Query) : Inquiry (List ((q : Query) × q.Answer)) :=
  l.mapM fun q => Sigma.mk q <$> query q

theorem asked_ofQueries (map : RoadMap) (l : List Query) : (ofQueries l).asked map = l := by
  induction l with
  | nil => rfl
  | cons q l ih =>
    rw [ofQueries, List.mapM_cons]
    refine (asked_bind map (Sigma.mk q <$> query q) _).trans (congrArg (q :: ·) ?_)
    refine (asked_bind map (ofQueries l) _).trans ?_
    rw [ih]
    exact List.append_nil l

end Inquiry

open CommandLine (Source)
open CommandLine.Task (stageAll)

def CommandLine.Source.failure (d : Source) (f : Failure) : Failure :=
  { f with message := d.path ++ ": " ++ f.message }

theorem stageAll_eq (sources : Sources) {map : RoadMap} {m : Memo} {past : List Query}
    (h : Memo.Remembers map past m) (documents : List Source) :
    stageAll sources map m documents =
      documents.mapM fun d => ((stageText sources d.text).run map).mapError d.failure := by
  induction documents generalizing m past with
  | nil => rfl
  | cons d ds ih =>
    obtain ⟨hresult, hm⟩ := Inquiry.runWith_remembers (stageText sources d.text) h
    rw [List.mapM_cons, ← hresult]
    unfold stageAll
    split
    next f _ hrun => rw [hrun]; rfl
    next staged memo hrun =>
      rw [hrun] at hm ⊢
      rw [ih hm]
      cases ds.mapM (m := Except Failure) fun d => ((stageText sources d.text).run map).mapError d.failure <;> rfl

/-- Queries sent to one memo, in any order, get the map's own answers, and the memo serves as often as a query was
asked before. So documents that are staged one after the other with one memo become what each becomes alone, also where
a call ends at the first that fails. -/
theorem memo_invisible (map : RoadMap) :
    (∀ queries : List Query,
      ((Inquiry.ofQueries queries).runWith map {}).1 = queries.map (fun q => ⟨q, map q⟩) ∧
      ((Inquiry.ofQueries queries).runWith map {}).2.hits + queries.toFinset.card = queries.length) ∧
    ∀ sources : Sources,
      (∀ texts : List String,
        ((texts.mapM (stageText sources)).runWith map {}).1 = texts.map fun text => (stageText sources text).run map) ∧
      ∀ documents : List Source, stageAll sources map {} documents =
        documents.mapM fun d => ((stageText sources d.text).run map).mapError d.failure := by
  refine ⟨fun queries => ?_, fun sources => ⟨fun texts => ?_, stageAll_eq sources Memo.remembers_start⟩⟩
  · have hstart : Memo.Remembers map [] {} := Memo.remembers_start
    obtain ⟨hanswers, hmemo⟩ := (Inquiry.ofQueries queries).runWith_remembers hstart
    rw [List.nil_append, Inquiry.asked_ofQueries] at hmemo
    rw [hanswers]
    exact ⟨Inquiry.run_mapM map _ queries, hmemo.hits⟩
  · rw [((texts.mapM (stageText sources)).runWith_remembers Memo.remembers_start).1]
    exact Inquiry.run_mapM map (stageText sources) texts

end Scenography
