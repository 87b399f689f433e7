import Mathlib.Data.List.Basic
import Scenography.CommandLine.Run
/-!
The courses an errand may take: requests with their answers, whatever these are, and how it ends.
-/

namespace Scenography.CommandLine

structure Exchange where
  request : Request
  answer : request.Answer

variable {α β : Type} {log : List Exchange}

namespace Errand

/-- The errand may end with a result when its requests are answered as the log says. -/
inductive Ends : Errand α → List Exchange → α → Prop
  | done (a : α) : Ends (.done a) [] a
  | request {r : Request} {next : r.Answer → Errand α} (answer : r.Answer) {log : List Exchange} {a : α}
      (h : Ends (next answer) log a) : Ends (.request r next) (⟨r, answer⟩ :: log) a

theorem ends_pure {a b : α} : (pure a : Errand α).Ends log b ↔ log = [] ∧ b = a := by
  constructor
  · rintro ⟨⟩
    exact ⟨rfl, rfl⟩
  · rintro ⟨rfl, rfl⟩
    exact .done _

theorem ends_request {r : Request} {next : r.Answer → Errand α} {a : α} :
    (request r next).Ends log a ↔ ∃ answer rest, log = ⟨r, answer⟩ :: rest ∧ (next answer).Ends rest a := by
  constructor
  · rintro ⟨⟩
    exact ⟨_, _, rfl, ‹_›⟩
  · rintro ⟨answer, rest, rfl, h⟩
    exact .request answer h

theorem ends_ask {r : Request} {answer : r.Answer} : (ask r).Ends log answer ↔ log = [⟨r, answer⟩] := by
  rw [ask, ends_request]
  constructor
  · rintro ⟨answer', rest, rfl, h⟩
    obtain ⟨rfl, rfl⟩ := ends_pure.1 h
    rfl
  · rintro rfl
    exact ⟨answer, [], rfl, .done _⟩

theorem ends_bind {p : Errand α} {f : α → Errand β} {b : β} :
    (p >>= f).Ends log b ↔ ∃ a front back, log = front ++ back ∧ p.Ends front a ∧ (f a).Ends back b := by
  induction p generalizing log with
  | done a =>
    constructor
    · intro h
      exact ⟨a, [], log, rfl, .done a, h⟩
    · rintro ⟨a', front, back, rfl, h, hf⟩
      obtain ⟨rfl, rfl⟩ := ends_pure.1 h
      exact hf
  | request r next ih =>
    constructor
    · intro h
      obtain ⟨answer, rest, rfl, hrest⟩ := ends_request.1 h
      obtain ⟨a, front, back, rfl, hp, hf⟩ := (ih answer).1 hrest
      exact ⟨a, _, back, rfl, .request answer hp, hf⟩
    · rintro ⟨a, front, back, rfl, hp, hf⟩
      obtain ⟨answer, rest, rfl, hrest⟩ := ends_request.1 hp
      exact .request answer ((ih answer).2 ⟨a, rest, back, rfl, hrest, hf⟩)

theorem Ends.unique {p : Errand α} {a b : α} (ha : p.Ends log a) (hb : p.Ends log b) : a = b := by
  induction ha with
  | done a => exact (ends_pure.1 hb).2.symm
  | request answer _ ih =>
    obtain ⟨answer', rest, heq, hrest⟩ := ends_request.1 hb
    obtain ⟨rfl⟩ : answer = answer' := by
      obtain ⟨hx, -⟩ := List.cons.inj heq
      exact eq_of_heq (Exchange.mk.inj hx).2
    exact ih ((List.cons.inj heq).2 ▸ hrest)

end Errand

def spoken (line : String) : Exchange :=
  ⟨.say line, ()⟩

def Exchange.line? : Exchange → Option String
  | ⟨.say line, _⟩ => some line
  | _ => none

def said (log : List Exchange) : List String :=
  log.filterMap Exchange.line?

namespace Task

open Errand

def Ends (x : Task α) (log : List Exchange) (r : Except Failure α) : Prop :=
  Errand.Ends x.run log r

variable {r : Except Failure β}

theorem ends_pure {b : β} : (pure b : Task β).Ends log r ↔ log = [] ∧ r = .ok b :=
  Errand.ends_pure

theorem ends_throw {f : Failure} : (throw f : Task β).Ends log r ↔ log = [] ∧ r = .error f :=
  Errand.ends_pure

theorem ends_bind {x : Task α} {f : α → Task β} : (x >>= f).Ends log r ↔
    (∃ e, r = .error e ∧ x.Ends log (.error e)) ∨
      ∃ a front back, log = front ++ back ∧ x.Ends front (.ok a) ∧ (f a).Ends back r := by
  rw [Ends, ExceptT.run_bind, Errand.ends_bind]
  constructor
  · rintro ⟨a | a, front, back, rfl, hx, hf⟩
    · obtain ⟨rfl, rfl⟩ := Errand.ends_pure.1 hf
      exact .inl ⟨a, rfl, by rwa [List.append_nil]⟩
    · exact .inr ⟨a, front, back, rfl, hx, hf⟩
  · rintro (⟨e, rfl, hx⟩ | ⟨a, front, back, rfl, hx, hf⟩)
    · exact ⟨.error e, log, [], by rw [List.append_nil], hx, .done _⟩
    · exact ⟨.ok a, front, back, rfl, hx, hf⟩

theorem ends_bind_ok {x : Task α} {f : α → Task β} {b : β} : (x >>= f).Ends log (.ok b) ↔
    ∃ a front back, log = front ++ back ∧ x.Ends front (.ok a) ∧ (f a).Ends back (.ok b) := by
  simp [ends_bind]

theorem ends_lift {p : Errand β} : (liftM p : Task β).Ends log r ↔ ∃ b, r = .ok b ∧ p.Ends log b := by
  change Errand.Ends (Except.ok <$> p) log r ↔ _
  rw [← bind_pure_comp, Errand.ends_bind]
  constructor
  · rintro ⟨b, front, back, rfl, hp, h⟩
    obtain ⟨rfl, rfl⟩ := Errand.ends_pure.1 h
    exact ⟨b, rfl, by rwa [List.append_nil]⟩
  · rintro ⟨b, rfl, hp⟩
    exact ⟨b, log, [], by rw [List.append_nil], hp, .done _⟩

theorem ends_say {line : String} {r : Except Failure Unit} :
    (say line).Ends log r ↔ log = [spoken line] ∧ r = .ok () := by
  refine ends_lift.trans ?_
  constructor
  · rintro ⟨b, rfl, h⟩
    exact ⟨ends_ask.1 h, rfl⟩
  · rintro ⟨rfl, rfl⟩
    exact ⟨(), rfl, ends_ask.2 rfl⟩

theorem ends_orFail {x : Except Trouble β} {f : Trouble → Failure} :
    (orFail x f).Ends log r ↔ log = [] ∧ r = x.mapError f := by
  cases x with
  | ok b => exact ends_pure
  | error t => exact ends_throw

theorem ends_attempt {p : Errand (Except Trouble β)} {f : Trouble → Failure} :
    ((liftM p : Task (Except Trouble β)) >>= fun answer => orFail answer f).Ends log r ↔
      ∃ answer, p.Ends log answer ∧ r = answer.mapError f := by
  rw [ends_bind]
  simp only [ends_lift, ends_orFail]
  constructor
  · rintro (⟨e, -, b, hb, -⟩ | ⟨a, front, back, rfl, ⟨b, hb, hp⟩, rfl, rfl⟩)
    · cases hb
    · obtain rfl := Except.ok.inj hb
      exact ⟨a, by rwa [List.append_nil], rfl⟩
  · rintro ⟨answer, hp, rfl⟩
    exact .inr ⟨answer, log, [], by rw [List.append_nil], ⟨answer, rfl, hp⟩, rfl, rfl⟩

theorem ends_asked {q : Request} {x : q.Answer → Except Trouble α} {f : Trouble → Failure} {k : α → Task β} :
    ((liftM (Errand.ask q) : Task q.Answer) >>= fun answer => orFail (x answer) f >>= k).Ends log r ↔
      (∃ answer t, log = [⟨q, answer⟩] ∧ x answer = .error t ∧ r = .error (f t)) ∨
        ∃ answer a rest, log = ⟨q, answer⟩ :: rest ∧ x answer = .ok a ∧ (k a).Ends rest r := by
  rw [ends_bind]
  simp only [ends_lift, ends_ask, ends_bind, ends_orFail]
  constructor
  · rintro (⟨e, -, b, hb, -⟩ | ⟨_, _, back, rfl, ⟨answer, hanswer, rfl⟩, h⟩)
    · cases hb
    · obtain rfl := Except.ok.inj hanswer
      cases hx : x _ with
      | error t =>
        rw [hx] at h
        rcases h with ⟨e, rfl, rfl, he⟩ | ⟨_, _, _, -, ⟨-, hok⟩, -⟩
        · exact .inl ⟨_, t, rfl, hx, congrArg Except.error (Except.error.inj he)⟩
        · cases hok
      | ok a =>
        rw [hx] at h
        rcases h with ⟨_, -, -, he⟩ | ⟨_, _, rest, rfl, ⟨rfl, hok⟩, hk⟩
        · cases he
        · obtain rfl := Except.ok.inj hok
          exact .inr ⟨_, _, rest, rfl, hx, hk⟩
  · rintro (⟨answer, t, rfl, hx, rfl⟩ | ⟨answer, a, rest, rfl, hx, hk⟩)
    · exact .inr ⟨answer, _, [], rfl, ⟨answer, rfl, rfl⟩, .inl ⟨f t, rfl, rfl, by rw [hx]; rfl⟩⟩
    · exact .inr ⟨answer, _, rest, rfl, ⟨answer, rfl, rfl⟩, .inr ⟨a, [], rest, rfl, ⟨rfl, by rw [hx]; rfl⟩, hk⟩⟩

theorem ends_readFile {path : String} {f : Trouble → Failure} {r : Except Failure String} :
    (readFile path f).Ends log r ↔
      ∃ answer : Except Trouble String, log = [⟨.read path, answer⟩] ∧ r = answer.mapError f :=
  ends_attempt.trans (exists_congr fun _ => and_congr_left fun _ => ends_ask (r := .read path))

end Task

end Scenography.CommandLine
