import Scenography.Staging.Basic
/-!
Staging work on a stage when a road map answers every question: what it gives, what it keeps, and
what it only reads.
-/

namespace Scenography.Staging

variable {α β : Type}

def exec (sources : Sources) (map : RoadMap) (m : Staging α) (s : Stage) : α × Stage :=
  (m sources s).run map

section Exec

variable (sources : Sources) (map : RoadMap) (s : Stage)

@[simp] theorem exec_pure (a : α) : exec sources map (pure a) s = (a, s) := rfl

@[simp] theorem exec_bind (m : Staging α) (f : α → Staging β) :
    exec sources map (m >>= f) s =
      exec sources map (f (exec sources map m s).1) (exec sources map m s).2 :=
  Inquiry.run_bind map (m sources s) fun p => f p.1 sources p.2

@[simp] theorem exec_map (f : α → β) (m : Staging α) :
    exec sources map (f <$> m) s = (f (exec sources map m s).1, (exec sources map m s).2) := by
  rw [← bind_pure_comp, exec_bind, exec_pure]

@[simp] theorem exec_discard (m : Staging α) :
    exec sources map (discard m) s = ((), (exec sources map m s).2) :=
  exec_map sources map s _ m

@[simp] theorem exec_get : exec sources map get s = (s, s) := rfl

@[simp] theorem exec_read : exec sources map read s = (sources, s) := rfl

@[simp] theorem exec_modify (f : Stage → Stage) : exec sources map (modify f) s = ((), f s) := rfl

@[simp] theorem exec_modifyGet (f : Stage → α × Stage) : exec sources map (modifyGet f) s = f s := rfl

@[simp] theorem exec_ask (q : RoadMap.Query) : exec sources map (ask q) s = (map q, s) := rfl

@[simp] theorem exec_summed (x : Summed α) : exec sources map (summed x) s = (x.value, s) := by
  unfold exec summed Inquiry.ofSummed
  split <;> rfl

@[simp] theorem exec_getCast : exec sources map getCast s = (s.cast, s) := rfl

@[simp] theorem exec_count (next : Counters → α × Counters) :
    exec sources map (count next) s =
      ((next s.counters).1, { s with counters := (next s.counters).2 }) := rfl

@[simp] theorem exec_refuse (code message : String) :
    exec sources map (refuse code message : Staging (Option α)) s =
      (none, { s with journal := s.journal.warn code message }) := rfl

end Exec

def Gives (Q : α → Prop) (m : Staging α) : Prop :=
  ∀ sources map s, Q (exec sources map m s).1

namespace Gives

variable {Q : β → Prop} {m : Staging α} {f : α → Staging β}

protected theorem pure {b : β} (h : Q b) : Gives Q (pure b) :=
  fun _ _ _ => h

protected theorem bind (hf : ∀ a, Gives Q (f a)) : Gives Q (m >>= f) := by
  intro sources map s
  rw [exec_bind]
  exact hf _ _ _ _

theorem bind_of {P : α → Prop} (hm : Gives P m) (hf : ∀ a, P a → Gives Q (f a)) : Gives Q (m >>= f) := by
  intro sources map s
  rw [exec_bind]
  exact hf _ (hm _ _ _) _ _ _

protected theorem map {g : α → β} (hm : Gives (fun a => Q (g a)) m) : Gives Q (g <$> m) := by
  intro sources map s
  rw [exec_map]
  exact hm _ _ _

theorem refuse {Q : Option α → Prop} {code message : String} (h : Q none) : Gives Q (refuse code message) :=
  fun _ _ _ => h

end Gives

def GivesFrom (P : Stage → Prop) (Q : α → Prop) (m : Staging α) : Prop :=
  ∀ sources map s, P s → Q (exec sources map m s).1

theorem Gives.from {Q : α → Prop} {m : Staging α} (h : Gives Q m) (P : Stage → Prop) : GivesFrom P Q m :=
  fun sources map s _ => h sources map s

def Keeps (P : Stage → Prop) (m : Staging α) : Prop :=
  ∀ sources map s, P s → P (exec sources map m s).2

namespace Keeps

variable {P : Stage → Prop} {m : Staging α} {f : α → Staging β}

protected theorem pure (a : α) : Keeps P (pure a) :=
  fun _ _ _ h => h

protected theorem bind (hm : Keeps P m) (hf : ∀ a, Keeps P (f a)) : Keeps P (m >>= f) := by
  intro sources map s h
  rw [exec_bind]
  exact hf _ _ _ _ (hm _ _ _ h)

theorem bind_of {Q : α → Prop} (hm : Keeps P m) (hq : Gives Q m) (hf : ∀ a, Q a → Keeps P (f a)) :
    Keeps P (m >>= f) := by
  intro sources map s h
  rw [exec_bind]
  exact hf _ (hq _ _ _) _ _ _ (hm _ _ _ h)

protected theorem map {g : α → β} (hm : Keeps P m) : Keeps P (g <$> m) := by
  intro sources map s h
  rw [exec_map]
  exact hm _ _ _ h

theorem modify {g : Stage → Stage} (h : ∀ s, P s → P (g s)) : Keeps P (modify g : Staging Unit) :=
  fun _ _ s hs => h s hs

theorem count {next : Counters → α × Counters}
    (h : ∀ s : Stage, P s → P { s with counters := (next s.counters).2 }) :
    Keeps P (count next) :=
  fun _ _ s hs => h s hs

theorem get_bind {f : Stage → Staging β} (hf : ∀ s, Keeps P (f s)) : Keeps P (get >>= f) :=
  .bind (fun _ _ _ h => h) hf

theorem getCast_bind {f : Cast → Staging β} (hf : ∀ c, Keeps P (f c)) : Keeps P (getCast >>= f) :=
  .bind (fun _ _ _ h => h) hf

theorem forM_of_mem {f : α → Staging PUnit} {l : List α} (hf : ∀ a ∈ l, Keeps P (f a)) : Keeps P (l.forM f) := by
  induction l with
  | nil => exact .pure _
  | cons a l ih => exact .bind (hf a (by simp)) fun _ => ih fun b hb => hf b (by simp [hb])

theorem forM {f : α → Staging PUnit} (hf : ∀ a, Keeps P (f a)) (l : List α) : Keeps P (l.forM f) :=
  .forM_of_mem fun a _ => hf a

theorem filterMap {f : α → Staging (Option β)} (hf : ∀ a, Keeps P (f a)) (l : List α) :
    Keeps P (filterMap f l) := by
  induction l with
  | nil => exact .pure _
  | cons a l ih => exact .bind (hf a) fun _ => .bind ih fun _ => .pure _

end Keeps

namespace GivesFrom

variable {P : Stage → Prop} {Q : β → Prop} {m : Staging α} {f : α → Staging β}

protected theorem bind (hm : Keeps P m) (hf : ∀ a, GivesFrom P Q (f a)) : GivesFrom P Q (m >>= f) := by
  intro sources map s h
  rw [exec_bind]
  exact hf _ _ _ _ (hm _ _ _ h)

theorem bind_of {A : α → Prop} (hm : GivesFrom P A m) (hf : ∀ a, A a → Gives Q (f a)) :
    GivesFrom P Q (m >>= f) := by
  intro sources map s h
  rw [exec_bind]
  exact hf _ (hm _ _ _ h) _ _ _

protected theorem map {g : α → β} (hm : GivesFrom P (fun a => Q (g a)) m) : GivesFrom P Q (g <$> m) := by
  intro sources map s h
  rw [exec_map]
  exact hm _ _ _ h

theorem get_bind {f : Stage → Staging β} (hf : ∀ s, P s → GivesFrom P Q (f s)) : GivesFrom P Q (get >>= f) := by
  intro sources map s h
  rw [exec_bind]
  exact hf s h _ _ _ h

end GivesFrom

/-- The work does not look at the journal, and all it does to the stage is to add notices. -/
def Reads (m : Staging α) : Prop :=
  ∀ (sources : Sources) (map : RoadMap) (s : Stage), ∃ (a : α) (more : List Notice), ∀ j : Journal,
    exec sources map m { s with journal := j } = (a, { s with journal := ⟨j.notices ++ more⟩ })

namespace Reads

variable {m : Staging α} {f : α → Staging β}

@[grind ←] protected theorem pure (a : α) : Reads (pure a : Staging α) := by
  intro sources map s
  exact ⟨a, [], fun j => by simp⟩

@[grind ←] protected theorem bind (hm : Reads m) (hf : ∀ a, Reads (f a)) : Reads (m >>= f) := by
  intro sources map s
  obtain ⟨a, more, h⟩ := hm sources map s
  obtain ⟨b, more', h'⟩ := hf a sources map s
  refine ⟨b, more ++ more', fun j => ?_⟩
  rw [exec_bind, h, h', List.append_assoc]

@[grind ←] protected theorem map {g : α → β} (hm : Reads m) : Reads (g <$> m) := by
  rw [← bind_pure_comp]
  exact .bind hm fun a => .pure (g a)

@[grind ←] theorem get_bind {f : Stage → Staging β} (hf : ∀ s, Reads (f s))
    (hj : ∀ (s : Stage) (j : Journal), f { s with journal := j } = f s) : Reads (get >>= f) := by
  intro sources map s
  obtain ⟨b, more, h⟩ := hf s sources map s
  refine ⟨b, more, fun j => ?_⟩
  rw [exec_bind, exec_get, hj]
  exact h j

@[grind ←] theorem getCast : Reads getCast := by
  intro sources map s
  exact ⟨s.cast, [], fun j => by simp⟩

@[grind ←] theorem read : Reads read := by
  intro sources map s
  exact ⟨sources, [], fun j => by simp⟩

@[grind ←] theorem ask (q : RoadMap.Query) : Reads (ask q) := by
  intro sources map s
  exact ⟨map q, [], fun j => by simp⟩

@[grind ←] theorem summed (x : Summed α) : Reads (summed x) := by
  intro sources map s
  exact ⟨x.value, [], fun j => by simp⟩

@[grind ←] theorem warn (code message : String) : Reads (warn code message) := by
  intro sources map s
  exact ⟨(), [⟨.warning, code, message⟩], fun j => rfl⟩

@[grind ←] theorem record (fault : Fault) : Reads (record fault) := by
  intro sources map s
  exact ⟨(), [fault.notice], fun j => rfl⟩

@[grind ←] theorem refuse (code message : String) : Reads (refuse code message : Staging (Option α)) :=
  .bind (warn code message) fun _ => .pure none

@[grind ←] theorem optionMapM {o : Option α} (hf : ∀ a, Reads (f a)) : Reads (o.mapM f) := by
  cases o with
  | none => exact .pure none
  | some a => exact .map (hf a)

@[grind ←] theorem listMapM {l : List α} (hf : ∀ a, Reads (f a)) : Reads (l.mapM f) := by
  induction l with
  | nil => exact .pure []
  | cons a l ih =>
    rw [List.mapM_cons]
    exact .bind (hf a) fun b => .bind ih fun bs => .pure (b :: bs)

@[grind ←] theorem foldlM {g : β → α → Staging β} {l : List α} {b : β} (hg : ∀ b a, Reads (g b a)) :
    Reads (l.foldlM g b) := by
  induction l generalizing b with
  | nil => exact .pure b
  | cons a l ih =>
    rw [List.foldlM_cons]
    exact .bind (hg b a) fun b => ih

@[grind ←] theorem filterMap {f : α → Staging (Option β)} {l : List α} (hf : ∀ a, Reads (f a)) :
    Reads (filterMap f l) := by
  induction l with
  | nil => exact .pure []
  | cons a l ih => exact .bind (hf a) fun b => .bind ih fun bs => .pure (b.toList ++ bs)

theorem keeps {P : Stage → Prop} (h : Reads m)
    (hP : ∀ (s : Stage) (j : Journal), P s → P { s with journal := j }) :
    Keeps P m := by
  intro sources map s hs
  obtain ⟨a, more, h⟩ := h sources map s
  have he : exec sources map m s = _ := h s.journal
  rw [he]
  exact hP s _ hs

end Reads

section Attempts

variable {x : Attempt α} {f : α → Attempt β}

namespace Gives

variable {Q : Except Fault β → Prop}

theorem run_pure {b : β} (h : Q (.ok b)) : Gives Q (pure b : Attempt β).run :=
  .pure h

theorem run_throw {e : Fault} (h : Q (.error e)) : Gives Q (throw e : Attempt β).run :=
  .pure h

theorem run_lift {m : Staging β} (h : Gives (fun b => Q (.ok b)) m) : Gives Q (liftM m : Attempt β).run :=
  .map h

theorem run_bind (he : ∀ e, Q (.error e)) (hf : ∀ a, Gives Q (f a).run) : Gives Q (x >>= f).run := by
  rw [ExceptT.run_bind]
  refine .bind fun r => ?_
  cases r with
  | ok a => exact hf a
  | error e => exact .pure (he e)

theorem run_bind_of {P : α → Prop} (he : ∀ e, Q (.error e)) (hx : Gives (fun r => ∀ a, r = .ok a → P a) x.run)
    (hf : ∀ a, P a → Gives Q (f a).run) : Gives Q (x >>= f).run := by
  rw [ExceptT.run_bind]
  refine .bind_of hx fun r hr => ?_
  cases r with
  | ok a => exact hf a (hr a rfl)
  | error e => exact .pure (he e)

end Gives

namespace GivesFrom

variable {P : Stage → Prop} {Q : Except Fault β → Prop}

theorem run_lift {m : Staging β} (h : GivesFrom P (fun b => Q (.ok b)) m) :
    GivesFrom P Q (liftM m : Attempt β).run :=
  .map h

theorem run_bind (he : ∀ e, Q (.error e)) (hx : Keeps P x.run) (hf : ∀ a, GivesFrom P Q (f a).run) :
    GivesFrom P Q (x >>= f).run := by
  rw [ExceptT.run_bind]
  refine .bind hx fun r => ?_
  cases r with
  | ok a => exact hf a
  | error e => exact (Gives.pure (he e)).from P

theorem run_bind_of {A : α → Prop} (he : ∀ e, Q (.error e))
    (hx : GivesFrom P (fun r => ∀ a, r = .ok a → A a) x.run)
    (hf : ∀ a, A a → Gives Q (f a).run) : GivesFrom P Q (x >>= f).run := by
  rw [ExceptT.run_bind]
  refine .bind_of hx fun r hr => ?_
  cases r with
  | ok a => exact hf a (hr a rfl)
  | error e => exact .pure (he e)

end GivesFrom

namespace Reads

@[grind ←] theorem run_pure (a : α) : Reads (pure a : Attempt α).run :=
  .pure (Except.ok a)

@[grind ←] theorem run_throw (e : Fault) : Reads (throw e : Attempt α).run :=
  .pure (Except.error e)

@[grind ←] theorem run_lift {m : Staging α} (h : Reads m) : Reads (liftM m : Attempt α).run :=
  .map h

@[grind ←] theorem run_read : Reads (MonadReader.read : Attempt Sources).run :=
  .map read

@[grind ←] theorem run_bind (hx : Reads x.run) (hf : ∀ a, Reads (f a).run) : Reads (x >>= f).run := by
  rw [ExceptT.run_bind]
  refine .bind hx fun r => ?_
  cases r with
  | ok a => exact hf a
  | error e => exact .pure (Except.error e)

@[grind ←] theorem run_listMapM {l : List α} (hf : ∀ a, Reads (f a).run) : Reads (l.mapM f).run := by
  induction l with
  | nil => exact .pure (Except.ok [])
  | cons a l ih =>
    rw [List.mapM_cons]
    exact run_bind (hf a) fun b => run_bind ih fun bs => run_pure (b :: bs)

end Reads

end Attempts

/-- What the work gives carries a property of what came before over to what there is after. -/
def Carries (I : List β → Stage → Prop) (m : Staging (List β)) : Prop :=
  ∀ sources map past s, I past s → I (past ++ (exec sources map m s).1) (exec sources map m s).2

namespace Carries

variable {I : List β → Stage → Prop}

theorem filterMap {f : α → Staging (Option β)} (hf : ∀ a, Carries I (Option.toList <$> f a)) (l : List α) :
    Carries I (filterMap f l) := by
  induction l with
  | nil =>
    intro sources map past s h
    simpa [Staging.filterMap] using h
  | cons a l ih =>
    intro sources map past s h
    have hfirst := hf a sources map past s h
    rw [exec_map] at hfirst
    have hrest := ih sources map _ _ hfirst
    simpa [Staging.filterMap] using hrest

theorem flatMapM {f : α → Staging (List β)} (hf : ∀ a, Carries I (f a)) (l : List α) :
    Carries I (List.flatten <$> l.mapM f) := by
  induction l with
  | nil =>
    intro sources map past s h
    simpa using h
  | cons a l ih =>
    intro sources map past s h
    have hrest := ih sources map _ _ (hf a sources map past s h)
    simpa using hrest

theorem bind_keeps {m : Staging α} {f : α → Staging (List β)} (hm : ∀ past, Keeps (I past) m)
    (hf : ∀ a, Carries I (f a)) : Carries I (m >>= f) := by
  intro sources map past s h
  rw [exec_bind]
  exact hf _ _ _ _ _ (hm past sources map s h)

end Carries

end Scenography.Staging
