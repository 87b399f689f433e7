import Scenography.Proofs.Execution
import Scenography.Staging.Position

namespace Scenography

namespace Summed

variable {α : Type} {x : Summed α}

theorem value?_eq_none_iff : x.value? = none ↔ x.overflowed = true := by
  unfold value?
  split <;> simp_all

theorem value_of_value? {a : α} (h : x.value? = some a) : x.value = a := by
  unfold value? at h
  split at h
  · cases h
  · exact Option.some.inj h

end Summed

namespace Inquiry

variable {α β : Type} {map : RoadMap}

theorem run?_bind (p : Inquiry α) (f : α → Inquiry β) :
    (p.bind f).run? map = (p.run? map).bind fun a => (f a).run? map := by
  induction p with
  | done a => rfl
  | ask q next ih =>
    change ((map.summed q).value?.bind fun answer => ((next answer).bind f).run? map) = _
    simp only [ih, run?, Option.bind_assoc]
  | overflow next ih => rfl

theorem run_of_run? {p : Inquiry α} {a : α} (h : p.run? map = some a) : p.run map = a := by
  induction p with
  | done b => exact Option.some.inj h
  | ask q next ih =>
    obtain ⟨answer, hanswer, hnext⟩ := Option.bind_eq_some_iff.1 h
    rw [run, RoadMap.answer, Summed.value_of_value? hanswer]
    exact ih answer hnext
  | overflow next ih => cases h

end Inquiry

namespace Staging

variable {α β : Type} {sources : Sources} {map : RoadMap} {s : Stage} {m : Staging α} {f : α → Staging β}

/-- As `exec`, with checked sums. -/
def exec? (sources : Sources) (map : RoadMap) (m : Staging α) (s : Stage) : Option (α × Stage) :=
  (m sources s).run? map

theorem exec_of_exec? {p : α × Stage} (h : exec? sources map m s = some p) : exec sources map m s = p :=
  Inquiry.run_of_run? h

theorem exec?_bind : exec? sources map (m >>= f) s =
    (exec? sources map m s).bind fun p => exec? sources map (f p.1) p.2 :=
  Inquiry.run?_bind (m sources s) fun p => f p.1 sources p.2

theorem exec?_bind_eq_none_iff : exec? sources map (m >>= f) s = none ↔ exec? sources map m s = none ∨
    exec? sources map (f (exec sources map m s).1) (exec sources map m s).2 = none := by
  rw [exec?_bind]
  cases hm : exec? sources map m s with
  | none => simp
  | some p => simp [exec_of_exec? hm]

theorem exec?_ask_eq_none_iff {q : RoadMap.Query} :
    exec? sources map (ask q) s = none ↔ (map.summed q).overflowed = true := by
  rw [← Summed.value?_eq_none_iff]
  change ((map.summed q).value?.bind fun answer => some (answer, s)) = none ↔ _
  cases (map.summed q).value? <;> simp

theorem exec?_summed_eq_none_iff {x : Summed α} : exec? sources map (summed x) s = none ↔ x.overflowed = true := by
  unfold exec? summed Inquiry.ofSummed
  split <;> simp_all [Inquiry.bind, Inquiry.run?]

/-- Whatever the map, no sum of the work leaves its type. -/
def Fits (m : Staging α) : Prop :=
  ∀ sources map s, exec? sources map m s ≠ none

namespace Fits

protected theorem pure (a : α) : Fits (pure a : Staging α) :=
  fun _ _ _ => nofun

theorem exec?_bind_eq_none_iff (hm : Fits m) : exec? sources map (m >>= f) s = none ↔
    exec? sources map (f (exec sources map m s).1) (exec sources map m s).2 = none := by
  rw [Staging.exec?_bind_eq_none_iff, or_iff_right (hm sources map s)]

theorem exec?_bind_left_eq_none_iff (hf : ∀ a, Fits (f a)) :
    exec? sources map (m >>= f) s = none ↔ exec? sources map m s = none := by
  rw [Staging.exec?_bind_eq_none_iff, or_iff_left (hf _ sources map _)]

protected theorem bind (hm : Fits m) (hf : ∀ a, Fits (f a)) : Fits (m >>= f) :=
  fun sources map _ h => hf _ sources map _ (hm.exec?_bind_eq_none_iff.1 h)

protected theorem map {g : α → β} (hm : Fits m) : Fits (g <$> m) := by
  rw [← bind_pure_comp]
  exact hm.bind fun a => .pure (g a)

protected theorem get : Fits get :=
  fun _ _ _ => nofun

protected theorem getCast : Fits getCast :=
  fun _ _ _ => nofun

protected theorem warn (code message : String) : Fits (warn code message) :=
  fun _ _ _ => nofun

protected theorem record (fault : Fault) : Fits (record fault) :=
  fun _ _ _ => nofun

theorem refuse (code message : String) : Fits (refuse code message : Staging (Option α)) :=
  fun _ _ _ => nofun

theorem optionMapM {o : Option α} (hf : ∀ a, Fits (f a)) : Fits (o.mapM f) := by
  cases o with
  | none => exact .pure none
  | some a => exact (hf a).map

end Fits

section Readers

variable (e : Markup.Element) (name : String)

theorem resolve_fits (token : String) : Fits (resolve token) := by
  refine .bind .get fun _ => ?_
  split
  · exact .pure _
  · exact .bind (.record _) fun _ => .pure _

theorem attr?_fits : Fits (attr? e name) :=
  .optionMapM resolve_fits

theorem attr_fits : Fits (attr e name) :=
  .bind (attr?_fits _ _) fun _ => .pure _

theorem value_fits : Fits (value e name) :=
  .bind (.bind (attr?_fits _ _) fun _ => .pure _) fun _ => .pure _

theorem anchor?_fits : Fits (anchor? e) := by
  refine .bind (attr_fits _ _) fun name => .bind .getCast fun c => ?_
  split
  · exact .pure _
  · exact .refuse _ _

theorem onMap_fits (found : Option Spot) : Fits (onMap e found) := by
  unfold onMap
  split
  · exact .pure _
  · exact .refuse _ _

theorem heading?_fits : Fits (heading? e) :=
  .optionMapM fun _ => value_fits _ _

end Readers

end Staging

end Scenography
