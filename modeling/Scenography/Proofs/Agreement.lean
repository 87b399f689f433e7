import Mathlib.Data.List.Forall2
import Scenography.Proofs.Execution
/-!
Two runs side by side, from stages that differ in their notices only, and in their signals and weather as
far as a relation lets them: the same results, and stages that differ no more than before.
-/

namespace Scenography

abbrev Aside := KeyMap Nat SignalPlan × KeyMap Int64 Weather

inductive Stage.Agree (K : Aside → Aside → Prop) (ps : List Parameter) : Stage → Stage → Prop
  | mk {s : Stage} (journal : Journal) (signals : KeyMap Nat SignalPlan) (weather : KeyMap Int64 Weather)
      (aside : K (s.signals, s.weather) (signals, weather)) (declared : s.parameters.declared = ps) :
      Stage.Agree K ps s { s with journal, signals, weather }

namespace Stage.Agree

variable {K : Aside → Aside → Prop} {ps : List Parameter} {s t u : Stage}

theorem cast (h : s.Agree K ps t) : t.cast = s.cast := by
  cases h
  rfl

theorem dialect (h : s.Agree K ps t) : t.dialect = s.dialect := by
  cases h
  rfl

theorem parameters (h : s.Agree K ps t) : t.parameters = s.parameters := by
  cases h
  rfl

theorem declared (h : s.Agree K ps t) : s.parameters.declared = ps := by
  cases h
  assumption

theorem aside (h : s.Agree K ps t) : K (s.signals, s.weather) (t.signals, t.weather) := by
  cases h
  assumption

protected theorem refl (h : s.parameters.declared = ps) : s.Agree Eq ps s :=
  .mk s.journal s.signals s.weather rfl h

protected theorem symm (h : s.Agree Eq ps t) : t.Agree Eq ps s := by
  obtain ⟨journal, signals, weather, aside, declared⟩ := h
  exact .mk s.journal s.signals s.weather aside.symm declared

protected theorem trans (h : s.Agree Eq ps t) (h' : t.Agree K ps u) : s.Agree K ps u := by
  obtain ⟨journal, signals, weather, aside, declared⟩ := h
  obtain ⟨journal', signals', weather', aside', -⟩ := h'
  have haside : K (s.signals, s.weather) (signals', weather') := aside ▸ aside'
  exact .mk journal' signals' weather' haside declared

theorem with_aside {L : Aside → Aside → Prop} (h : s.Agree K ps t) {signals signals' : KeyMap Nat SignalPlan}
    {weather weather' : KeyMap Int64 Weather} (haside : L (signals, weather) (signals', weather')) :
    { s with signals, weather }.Agree L ps { t with signals := signals', weather := weather' } := by
  obtain ⟨journal, -, -, -, declared⟩ := h
  exact .mk (s := { s with signals, weather }) journal signals' weather' haside declared

theorem journal_left (h : s.Agree K ps t) (j : Journal) : { s with journal := j }.Agree K ps t := by
  obtain ⟨journal, signals, weather, aside, declared⟩ := h
  exact .mk (s := { s with journal := j }) journal signals weather aside declared

theorem journal_right (h : s.Agree K ps t) (j : Journal) : s.Agree K ps { t with journal := j } := by
  obtain ⟨journal, signals, weather, aside, declared⟩ := h
  exact .mk j signals weather aside declared

end Stage.Agree

namespace Staging

variable {α β γ δ : Type} {K : Aside → Aside → Prop} {ps : List Parameter}

abbrev AgreeFrom (sources : Sources) (map : RoadMap) (K : Aside → Aside → Prop) (ps : List Parameter) (Q : α → β → Prop)
    (s : Stage) (m : Staging α) (t : Stage) (m' : Staging β) : Prop :=
  Q (exec sources map m s).1 (exec sources map m' t).1 ∧
    (exec sources map m s).2.Agree K ps (exec sources map m' t).2

namespace AgreeFrom

variable {sources : Sources} {map : RoadMap} {s t : Stage} {Q : γ → δ → Prop} {f : α → Staging γ}

protected theorem pure {c : γ} {d : δ} (hst : s.Agree K ps t) (h : Q c d) :
    AgreeFrom sources map K ps Q s (pure c) t (pure d) :=
  ⟨h, hst⟩

theorem bind_of {P : α → β → Prop} {m : Staging α} {m' : Staging β} {f' : β → Staging δ}
    (hm : AgreeFrom sources map K ps P s m t m')
    (hf : P (exec sources map m s).1 (exec sources map m' t).1 →
      (exec sources map m s).2.Agree K ps (exec sources map m' t).2 →
      AgreeFrom sources map K ps Q (exec sources map m s).2 (f (exec sources map m s).1) (exec sources map m' t).2
        (f' (exec sources map m' t).1)) :
    AgreeFrom sources map K ps Q s (m >>= f) t (m' >>= f') := by
  unfold AgreeFrom
  rw [exec_bind, exec_bind]
  exact hf hm.1 hm.2

protected theorem bind {m m' : Staging α} {f' : α → Staging δ} (hm : AgreeFrom sources map K ps Eq s m t m')
    (hf : (exec sources map m s).2.Agree K ps (exec sources map m' t).2 →
      AgreeFrom sources map K ps Q (exec sources map m s).2 (f (exec sources map m s).1) (exec sources map m' t).2
        (f' (exec sources map m s).1)) :
    AgreeFrom sources map K ps Q s (m >>= f) t (m' >>= f') :=
  .bind_of hm fun h hst => h ▸ hf hst

end AgreeFrom

/-- From stages that agree the two runs come to stages that agree, with results that are related. -/
def Agree (K : Aside → Aside → Prop) (ps : List Parameter) (Q : α → β → Prop) (m : Staging α) (m' : Staging β) :
    Prop :=
  ∀ sources map s t, s.Agree K ps t → AgreeFrom sources map K ps Q s m t m'

namespace Agree

variable {Q : γ → δ → Prop} {m m' : Staging α} {f : α → Staging γ} {f' : α → Staging δ}

protected theorem pure {c : γ} {d : δ} (h : Q c d) : Agree K ps Q (pure c) (pure d) :=
  fun _ _ _ _ hst => ⟨h, hst⟩

theorem bind_of {P : α → β → Prop} {m' : Staging β} {f' : β → Staging δ} (hm : Agree K ps P m m')
    (hf : ∀ a b, P a b → Agree K ps Q (f a) (f' b)) : Agree K ps Q (m >>= f) (m' >>= f') := by
  intro sources map s t hst
  exact .bind_of (hm sources map s t hst) fun hp hst' => hf _ _ hp sources map _ _ hst'

protected theorem bind (hm : Agree K ps Eq m m') (hf : ∀ a, Agree K ps Q (f a) (f' a)) :
    Agree K ps Q (m >>= f) (m' >>= f') :=
  .bind_of hm fun a _ h => h ▸ hf a

theorem map_of {P : α → β → Prop} {m' : Staging β} {g : α → γ} {g' : β → δ} (hm : Agree K ps P m m')
    (h : ∀ a b, P a b → Q (g a) (g' b)) : Agree K ps Q (g <$> m) (g' <$> m') := by
  rw [← bind_pure_comp, ← bind_pure_comp]
  exact .bind_of hm fun a b hp => .pure (h a b hp)

protected theorem map {g : α → γ} (hm : Agree K ps Eq m m') : Agree K ps Eq (g <$> m) (g <$> m') :=
  .map_of hm fun _ _ h => congrArg g h

protected theorem imp {Q' : α → β → Prop} {m : Staging α} {m' : Staging β} {P : α → β → Prop}
    (h : Agree K ps P m m') (hq : ∀ a b, P a b → Q' a b) : Agree K ps Q' m m' :=
  fun sources map s t hst => (h sources map s t hst).imp_left (hq _ _)

theorem get_bind {f : Stage → Staging γ} {f' : Stage → Staging δ}
    (hf : ∀ s t, s.Agree K ps t → Agree K ps Q (f s) (f' t)) : Agree K ps Q (get >>= f) (get >>= f') := by
  intro sources map s t hst
  unfold AgreeFrom
  rw [exec_bind, exec_bind]
  exact hf s t hst sources map s t hst

theorem getCast : Agree K ps Eq getCast getCast :=
  fun _ _ _ _ hst => ⟨hst.cast.symm, hst⟩

theorem read : Agree K ps Eq read read :=
  fun _ _ _ _ hst => ⟨rfl, hst⟩

theorem ask (q : RoadMap.Query) : Agree K ps Eq (ask q) (ask q) :=
  fun _ _ _ _ hst => ⟨rfl, hst⟩

theorem summed (x : Summed α) : Agree K ps Eq (summed x) (summed x) := by
  intro sources map s t hst
  unfold AgreeFrom
  rw [exec_summed, exec_summed]
  exact ⟨rfl, hst⟩

theorem warn (code message code' message' : String) : Agree K ps Eq (warn code message) (warn code' message') :=
  fun _ _ _ _ hst => ⟨rfl, (hst.journal_left _).journal_right _⟩

theorem record (fault fault' : Fault) : Agree K ps Eq (record fault) (record fault') :=
  fun _ _ _ _ hst => ⟨rfl, (hst.journal_left _).journal_right _⟩

theorem refuse {Q : Option γ → Option δ → Prop} (h : Q none none) (code message code' message' : String) :
    Agree K ps Q (refuse code message) (refuse code' message') :=
  .bind (warn code message code' message') fun _ => .pure h

theorem modify {g g' : Stage → Stage} (h : ∀ s t, s.Agree K ps t → (g s).Agree K ps (g' t)) :
    Agree K ps Eq (modify g : Staging Unit) (modify g' : Staging Unit) :=
  fun _ _ s t hst => ⟨rfl, h s t hst⟩

theorem modifyEntity (name : String) (g : Entity → Entity) :
    Agree K ps Eq (modifyEntity name g) (modifyEntity name g) := by
  apply modify
  rintro s _ ⟨journal, signals, weather, aside, declared⟩
  exact .mk journal signals weather aside declared

theorem count (next : Counters → α × Counters) : Agree K ps Eq (count next) (count next) := by
  rintro sources map s _ ⟨journal, signals, weather, aside, declared⟩
  exact ⟨rfl, .mk journal signals weather aside declared⟩

theorem optionMapM {o : Option α} {g : α → Staging γ} {g' : α → Staging γ}
    (hg : ∀ a, Agree K ps Eq (g a) (g' a)) : Agree K ps Eq (o.mapM g) (o.mapM g') := by
  cases o with
  | none => exact .pure rfl
  | some a => exact .map (hg a)

theorem optionMapM_map {h : α → β} {o : Option α} {g : β → Staging γ} {g' : α → Staging γ}
    (hg : ∀ a, Agree K ps Eq (g (h a)) (g' a)) : Agree K ps Eq ((o.map h).mapM g) (o.mapM g') := by
  cases o with
  | none => exact .pure rfl
  | some a => exact .map (hg a)

theorem optionMapM_of {R : α → β → Prop} {Q : γ → δ → Prop} {o : Option α} {o' : Option β} {g : α → Staging γ}
    {g' : β → Staging δ} (ho : Option.Rel R o o') (hg : ∀ a b, R a b → Agree K ps Q (g a) (g' b)) :
    Agree K ps (Option.Rel Q) (o.mapM g) (o'.mapM g') := by
  cases ho with
  | none => exact .pure .none
  | some h => exact .map_of (hg _ _ h) fun _ _ hq => .some hq

theorem optionMapM_rel {R : α → β → Prop} {o : Option α} {o' : Option β} {g : α → Staging γ} {g' : β → Staging γ}
    (ho : Option.Rel R o o') (hg : ∀ a b, R a b → Agree K ps Eq (g a) (g' b)) :
    Agree K ps Eq (o.mapM g) (o'.mapM g') := by
  cases ho with
  | none => exact .pure rfl
  | some h => exact .map (hg _ _ h)

theorem listMapM {l : List α} {g : α → Staging γ} {g' : α → Staging γ}
    (hg : ∀ a, Agree K ps Eq (g a) (g' a)) : Agree K ps Eq (l.mapM g) (l.mapM g') := by
  induction l with
  | nil => exact .pure rfl
  | cons a l ih =>
    rw [List.mapM_cons, List.mapM_cons]
    exact .bind (hg a) fun b => .bind ih fun bs => .pure rfl

theorem foldlM {l : List α} {g : γ → α → Staging γ} {g' : γ → α → Staging γ} {c : γ}
    (hg : ∀ c a, Agree K ps Eq (g c a) (g' c a)) : Agree K ps Eq (l.foldlM g c) (l.foldlM g' c) := by
  induction l generalizing c with
  | nil => exact .pure rfl
  | cons a l ih =>
    rw [List.foldlM_cons, List.foldlM_cons]
    exact .bind (hg c a) fun c => ih

theorem filterMap {l : List α} {g : α → Staging (Option γ)} {g' : α → Staging (Option γ)}
    (hg : ∀ a, Agree K ps Eq (g a) (g' a)) : Agree K ps Eq (filterMap g l) (filterMap g' l) := by
  induction l with
  | nil => exact .pure rfl
  | cons a l ih => exact .bind (hg a) fun b => .bind ih fun bs => .pure rfl

theorem filterMap_rel {R : α → β → Prop} {l : List α} {l' : List β} (hl : List.Forall₂ R l l')
    {g : α → Staging (Option γ)} {g' : β → Staging (Option γ)} (hg : ∀ a b, R a b → Agree K ps Eq (g a) (g' b)) :
    Agree K ps Eq (Staging.filterMap g l) (Staging.filterMap g' l') := by
  induction hl with
  | nil => exact .pure rfl
  | cons h _ ih => exact .bind (hg _ _ h) fun b => .bind ih fun bs => .pure rfl

theorem forM {R : α → β → Prop} {l : List α} {l' : List β} (hl : List.Forall₂ R l l') {g : α → Staging PUnit}
    {g' : β → Staging PUnit} (hg : ∀ a b, R a b → Agree K ps Eq (g a) (g' b)) :
    Agree K ps Eq (l.forM g) (l'.forM g') := by
  induction hl with
  | nil => exact .pure rfl
  | cons h _ ih => exact .bind (hg _ _ h) fun _ => ih

theorem forM_map {h : α → β} {l : List α} {g : β → Staging PUnit} {g' : α → Staging PUnit}
    (hg : ∀ a, Agree K ps Eq (g (h a)) (g' a)) : Agree K ps Eq ((l.map h).forM g) (l.forM g') := by
  refine .forM (R := fun b a => b = h a) (List.forall₂_map_left_iff.2 (List.forall₂_same.2 fun _ _ => rfl)) ?_
  rintro _ a rfl
  exact hg a

theorem run_pure (a : α) : Agree K ps Eq (pure a : Attempt α).run (pure a : Attempt α).run :=
  .pure rfl

theorem run_throw (e : Fault) : Agree K ps Eq (throw e : Attempt α).run (throw e : Attempt α).run :=
  .pure rfl

theorem run_lift (h : Agree K ps Eq m m') :
    Agree K ps Eq (liftM m : Attempt α).run (liftM m' : Attempt α).run :=
  .map h

theorem run_bind {x x' : Attempt α} {f f' : α → Attempt γ} (hx : Agree K ps Eq x.run x'.run)
    (hf : ∀ a, Agree K ps Eq (f a).run (f' a).run) : Agree K ps Eq (x >>= f).run (x' >>= f').run := by
  rw [ExceptT.run_bind, ExceptT.run_bind]
  refine .bind hx fun r => ?_
  cases r with
  | ok a => exact hf a
  | error e => exact .pure rfl

theorem run_listMapM {l : List α} {f f' : α → Attempt γ} (hf : ∀ a, Agree K ps Eq (f a).run (f' a).run) :
    Agree K ps Eq (l.mapM f).run (l.mapM f').run := by
  induction l with
  | nil => exact .pure rfl
  | cons a l ih =>
    rw [List.mapM_cons, List.mapM_cons]
    exact .run_bind (hf a) fun b => .run_bind ih fun bs => .run_pure _

protected theorem symm {φ : α → γ} (h : Agree Eq ps (fun a b => φ a = φ b) m m') :
    Agree Eq ps (fun a b => φ a = φ b) m' m := by
  intro sources map s t hst
  obtain ⟨hresult, hstage⟩ := h sources map t s hst.symm
  exact ⟨hresult.symm, hstage.symm⟩

protected theorem trans {m'' : Staging α} {φ : α → γ} (h : Agree Eq ps (fun a b => φ a = φ b) m m')
    (h' : Agree K ps (fun a b => φ a = φ b) m' m'') : Agree K ps (fun a b => φ a = φ b) m m'' := by
  intro sources map s t hst
  obtain ⟨hresult, hstage⟩ := h sources map s s (.refl hst.declared)
  obtain ⟨hresult', hstage'⟩ := h' sources map s t hst
  exact ⟨hresult.trans hresult', hstage.trans hstage'⟩

theorem self (h : ∀ K, Agree K ps Eq m m') : Agree K ps Eq m' m' :=
  .trans (h Eq).symm (h K)

/-- Work that does not tell things from their normal forms does not tell two of one normal form apart. -/
theorem across {φ : γ → δ} {g : α → Staging γ} {normal : α → α}
    (hg : ∀ K a, Agree K ps (fun c d => φ c = φ d) (g (normal a)) (g a)) {a b : α} (h : normal a = normal b) :
    Agree K ps (fun c d => φ c = φ d) (g a) (g b) :=
  .trans (hg Eq a).symm (h ▸ hg K b)

end Agree

def AgreeAt (sources : Sources) (map : RoadMap) (K : Aside → Aside → Prop) (ps : List Parameter) (Q : α → β → Prop)
    (m : Staging α) (m' : Staging β) : Prop :=
  ∀ s t, s.Agree K ps t → AgreeFrom sources map K ps Q s m t m'

namespace AgreeAt

variable {sources : Sources} {map : RoadMap} {Q : γ → δ → Prop} {m m' : Staging α} {f f' : α → Staging γ}

theorem of_agree {m' : Staging β} {Q : α → β → Prop} (h : Agree K ps Q m m') : AgreeAt sources map K ps Q m m' :=
  h sources map

protected theorem pure {c : γ} {d : δ} (h : Q c d) : AgreeAt sources map K ps Q (pure c) (pure d) :=
  .of_agree (.pure h)

theorem bind_of {P : α → β → Prop} {m' : Staging β} {f' : β → Staging δ} (hm : AgreeAt sources map K ps P m m')
    (hf : ∀ a b, P a b → AgreeAt sources map K ps Q (f a) (f' b)) :
    AgreeAt sources map K ps Q (m >>= f) (m' >>= f') :=
  fun s t hst => .bind_of (hm s t hst) fun hp hst' => hf _ _ hp _ _ hst'

protected theorem bind {f' : α → Staging δ} (hm : AgreeAt sources map K ps Eq m m')
    (hf : ∀ a, AgreeAt sources map K ps Q (f a) (f' a)) : AgreeAt sources map K ps Q (m >>= f) (m' >>= f') :=
  .bind_of hm fun a _ h => h ▸ hf a

protected theorem map {g : α → γ} (hm : AgreeAt sources map K ps Eq m m') :
    AgreeAt sources map K ps Eq (g <$> m) (g <$> m') := by
  rw [← bind_pure_comp, ← bind_pure_comp]
  exact .bind hm fun _ => .pure rfl

theorem forM {R : α → β → Prop} {l : List α} {l' : List β} (hl : List.Forall₂ R l l') {g : α → Staging PUnit}
    {g' : β → Staging PUnit} (hg : ∀ a b, R a b → AgreeAt sources map K ps Eq (g a) (g' b)) :
    AgreeAt sources map K ps Eq (l.forM g) (l'.forM g') := by
  induction hl with
  | nil => exact .pure rfl
  | cons h _ ih => exact .bind (hg _ _ h) fun _ => ih

theorem filterMap_rel {R : α → β → Prop} {l : List α} {l' : List β} (hl : List.Forall₂ R l l')
    {g : α → Staging (Option γ)} {g' : β → Staging (Option γ)}
    (hg : ∀ a b, R a b → AgreeAt sources map K ps Eq (g a) (g' b)) :
    AgreeAt sources map K ps Eq (Staging.filterMap g l) (Staging.filterMap g' l') := by
  induction hl with
  | nil => exact .pure rfl
  | cons h _ ih => exact .bind (hg _ _ h) fun b => .bind ih fun bs => .pure rfl

theorem run_bind {x x' : Attempt α} {f f' : α → Attempt γ} (hx : AgreeAt sources map K ps Eq x.run x'.run)
    (hf : ∀ a, AgreeAt sources map K ps Eq (f a).run (f' a).run) :
    AgreeAt sources map K ps Eq (x >>= f).run (x' >>= f').run := by
  rw [ExceptT.run_bind, ExceptT.run_bind]
  refine .bind hx fun r => ?_
  cases r with
  | ok a => exact hf a
  | error e => exact .pure rfl

end AgreeAt

theorem filterMap_map (g : β → Staging (Option γ)) (h : α → β) (l : List α) :
    filterMap g (l.map h) = filterMap (fun a => g (h a)) l := by
  induction l with
  | nil => rfl
  | cons a l ih =>
    rw [List.map_cons, filterMap, filterMap, ih]

end Staging

end Scenography
