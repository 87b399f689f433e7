import Mathlib.Algebra.Order.Ring.Nat
import Scenography.Json.Reading
import Scenography.Json.Writing

namespace Scenography.Json

open Number (leadDigits leadSign)

section Follow

def Ends (rest : Chars) : Prop :=
  ∀ c ∈ rest.head?, c.isDigit = false ∧ c ≠ '.' ∧ c ≠ 'e' ∧ c ≠ 'E'

theorem ends_nil : Ends [] := by
  intro c hc
  cases hc

theorem ends_cons {c : Char} {rest : Chars} (h : c.isDigit = false ∧ c ≠ '.' ∧ c ≠ 'e' ∧ c ≠ 'E') :
    Ends (c :: rest) := by
  intro d hd
  cases hd
  exact h

variable {cs r rest : Chars} {n m k l : Nat}

theorem leadDigits_append (h : leadDigits n k cs = (m, l, r)) (hrest : Ends rest) :
    leadDigits n k (cs ++ rest) = (m, l, r ++ rest) := by
  induction cs generalizing n k with
  | nil =>
    cases h
    cases rest with
    | nil => rfl
    | cons c rest => simp [leadDigits, (hrest c rfl).1]
  | cons c cs ih =>
    rw [leadDigits] at h
    rw [List.cons_append, leadDigits]
    split at h
    next hc =>
      rw [if_pos hc]
      exact ih h
    next hc =>
      rw [if_neg hc]
      cases h
      rfl

theorem leadSign_append {c : Char} :
    leadSign (c :: cs ++ rest) = ((leadSign (c :: cs)).1, (leadSign (c :: cs)).2 ++ rest) := by
  by_cases hm : c = '-'
  · subst hm; rfl
  · by_cases hp : c = '+'
    · subst hp; rfl
    · simp [leadSign, hm, hp]

theorem whole?_zero : whole? ('0' :: cs) = if cs.head?.any Char.isDigit then none else some (0, cs) := by
  cases cs <;> rfl

theorem whole?_eq_some_iff {c : Char} (hc : c ≠ '0') :
    whole? (c :: cs) = some (n, r) ↔ ∃ k, leadDigits 0 0 (c :: cs) = (n, k + 1, r) := by
  unfold whole?
  split
  next heq => cases heq; exact (hc rfl).elim
  next =>
    obtain ⟨n', k, r'⟩ := leadDigits 0 0 (c :: cs)
    cases k <;> simp

theorem whole?_append (h : whole? cs = some (n, r)) (hrest : Ends rest) :
    whole? (cs ++ rest) = some (n, r ++ rest) := by
  cases cs with
  | nil => cases h
  | cons c cs =>
    by_cases hc : c = '0'
    · subst hc
      rw [whole?_zero, Option.ite_none_left_eq_some] at h
      obtain ⟨hhead, h⟩ := h
      have hlast : ¬(cs ++ rest).head?.any Char.isDigit := by
        cases cs with
        | nil =>
          cases rest with
          | nil => exact Bool.false_ne_true
          | cons c rest => simp [(hrest c rfl).1]
        | cons c cs => exact hhead
      cases h
      rw [List.cons_append, whole?_zero, if_neg hlast]
    · obtain ⟨k, h⟩ := (whole?_eq_some_iff hc).1 h
      exact (whole?_eq_some_iff hc).2 ⟨k, leadDigits_append h hrest⟩

theorem fraction?_point {p : Nat × Option Nat × Chars} :
    fraction? n ('.' :: cs) = some p ↔ ∃ m k r, leadDigits n 0 cs = (m, k + 1, r) ∧ p = (m, some (k + 1), r) := by
  simp only [fraction?]
  obtain ⟨m, k, r⟩ := leadDigits n 0 cs
  cases k <;> simp [eq_comm]

theorem fraction?_append {places : Option Nat} (h : fraction? n cs = some (m, places, r)) (hrest : Ends rest) :
    fraction? n (cs ++ rest) = some (m, places, r ++ rest) := by
  cases cs with
  | nil =>
    cases h
    cases rest with
    | nil => rfl
    | cons c rest => simp [fraction?, (hrest c rfl).2.1]
  | cons c cs =>
    by_cases hc : c = '.'
    · subst hc
      obtain ⟨m', k, r', hlead, hp⟩ := fraction?_point.1 h
      cases hp
      exact fraction?_point.2 ⟨m, k, r ++ rest, leadDigits_append hlead hrest, rfl⟩
    · have hplain (cs : Chars) : fraction? n (c :: cs) = some (n, none, c :: cs) := by simp [fraction?, hc]
      rw [hplain] at h
      cases h
      exact hplain _

theorem power?_mark {c : Char} (hc : c = 'e' ∨ c = 'E') {p : Option Int × Chars} :
    power? (c :: cs) = some p ↔ ∃ n k r, leadDigits 0 0 (leadSign cs).2 = (n, k + 1, r) ∧
      p = (some (if (leadSign cs).1 then -(n : Int) else n), r) := by
  simp only [power?, if_pos hc]
  obtain ⟨n, k, r⟩ := leadDigits 0 0 (leadSign cs).2
  cases k
  · simp
  · simp [eq_comm (b := p)]

theorem power?_append {power : Option Int} (h : power? cs = some (power, r)) (hrest : Ends rest) :
    power? (cs ++ rest) = some (power, r ++ rest) := by
  cases cs with
  | nil =>
    cases h
    cases rest with
    | nil => rfl
    | cons c rest => simp [power?, (hrest c rfl).2.2]
  | cons c cs =>
    by_cases hc : c = 'e' ∨ c = 'E'
    · obtain ⟨n, k, r', hlead, hp⟩ := (power?_mark hc).1 h
      cases hp
      cases cs with
      | nil => cases hlead
      | cons d cs =>
        refine (power?_mark hc).2 ⟨n, k, r ++ rest, ?_, ?_⟩
        · exact leadSign_append ▸ leadDigits_append hlead hrest
        · exact leadSign_append ▸ rfl
    · simp only [power?, if_neg hc] at h
      cases h
      simp only [List.cons_append, power?, if_neg hc]

def unsigned? (negative : Bool) (cs : Chars) : Option (Json × Chars) := do
  let (n, rest) ← whole? cs
  let (m, places, rest) ← fraction? n rest
  let (power, rest) ← power? rest
  match places, power with
  | none, none => some (integer negative n, rest)
  | places, power => some (double negative m (power.getD 0 - places.getD 0), rest)

theorem number?_minus : number? ('-' :: cs) = unsigned? true cs := rfl

theorem number?_of_ne {c : Char} (hc : c ≠ '-') : number? (c :: cs) = unsigned? false (c :: cs) := by
  unfold number?
  split
  next heq =>
    split at heq
    next h => cases h; exact (hc rfl).elim
    next => cases heq; rfl

theorem unsigned?_append {negative : Bool} {j : Json} (h : unsigned? negative cs = some (j, r))
    (hrest : Ends rest) : unsigned? negative (cs ++ rest) = some (j, r ++ rest) := by
  simp only [unsigned?, Option.bind_eq_bind, Option.bind_eq_some_iff, Prod.exists] at h ⊢
  obtain ⟨n, r₁, hwhole, m, places, r₂, hfraction, power, r₃, hpower, h⟩ := h
  refine ⟨n, _, whole?_append hwhole hrest, m, places, _, fraction?_append hfraction hrest, power, _,
    power?_append hpower hrest, ?_⟩
  cases places <;> cases power <;> cases h <;> rfl

theorem number?_append {j : Json} (h : number? cs = some (j, r)) (hrest : Ends rest) :
    number? (cs ++ rest) = some (j, r ++ rest) := by
  cases cs with
  | nil => cases h
  | cons c cs =>
    by_cases hc : c = '-'
    · subst hc
      rw [number?_minus] at h
      rw [List.cons_append, number?_minus]
      exact unsigned?_append h hrest
    · rw [number?_of_ne hc] at h
      rw [List.cons_append, number?_of_ne hc]
      exact unsigned?_append h hrest

theorem number?_head {c : Char} {p : Json × Chars} (h : number? (c :: cs) = some p) : c = '-' ∨ c.isDigit = true := by
  by_cases hc : c = '-'
  · exact .inl hc
  · right
    rw [number?_of_ne hc] at h
    by_cases hz : c = '0'
    · subst hz; rfl
    · simp only [unsigned?, Option.bind_eq_bind, Option.bind_eq_some_iff, Prod.exists] at h
      obtain ⟨n, r, hwhole, -⟩ := h
      obtain ⟨k, h⟩ := (whole?_eq_some_iff hz).1 hwhole
      rw [leadDigits] at h
      split at h
      next hd => exact hd
      next => cases h

end Follow

section Words

theorem leadDigits_digits {ds : Chars} (h : ∀ c ∈ ds, c.isDigit = true) (n k : Nat) :
    leadDigits n k ds = (Nat.ofDigitChars 10 ds n, k + ds.length, []) := by
  induction ds generalizing n k with
  | nil => rfl
  | cons c ds ih =>
    obtain ⟨hc, hds⟩ := List.forall_mem_cons.1 h
    rw [leadDigits, if_pos hc, ih hds]
    simp [Nat.ofDigitChars_cons, Nat.add_comm, Nat.add_left_comm]

theorem head_toDigits_ne {n : Nat} (hn : 0 < n) : ∃ c ds, Nat.toDigits 10 n = c :: ds ∧ c ≠ '0' := by
  induction n using Nat.strong_induction_on with
  | _ n ih =>
    by_cases hlt : n < 10
    · refine ⟨n.digitChar, [], Nat.toDigits_of_lt_base hlt, ?_⟩
      simp [Nat.digitChar_eq_zero]
      omega
    · obtain ⟨c, ds, hds, hc⟩ := ih (n / 10) (by omega) (by omega)
      refine ⟨c, ds ++ [(n % 10).digitChar], ?_, hc⟩
      rw [Nat.toDigits_of_base_le (by omega) (by omega), hds, List.cons_append]

theorem whole?_toDigits (n : Nat) : whole? (Nat.toDigits 10 n) = some (n, []) := by
  by_cases hn : n = 0
  · subst hn; rfl
  · obtain ⟨c, ds, hds, hc⟩ := head_toDigits_ne (Nat.pos_of_ne_zero hn)
    have hdigits : ∀ d ∈ c :: ds, d.isDigit = true := by
      rw [← hds]
      exact fun d hd => Nat.isDigit_of_mem_toDigits (by decide) (by decide) hd
    rw [hds, whole?_eq_some_iff hc]
    refine ⟨ds.length, ?_⟩
    rw [leadDigits_digits hdigits, ← hds, Nat.ofDigitChars_ten_toDigits, hds, List.length_cons, Nat.zero_add]

theorem unsigned?_toDigits (negative : Bool) (n : Nat) :
    unsigned? negative (Nat.toDigits 10 n) = some (integer negative n, []) := by
  rw [unsigned?, whole?_toDigits]
  rfl

theorem number?_toDigits (n : Nat) : number? (Nat.toDigits 10 n) = some (integer false n, []) := by
  obtain ⟨c, ds, hds⟩ := List.exists_cons_of_ne_nil (Nat.toDigits_ne_nil (n := n) (b := 10))
  have hdigit : c.isDigit = true := Nat.isDigit_of_mem_toDigits (b := 10) (n := n) (by decide) (by decide) (by simp [hds])
  have hc : c ≠ '-' := by
    rintro rfl
    exact absurd hdigit (by decide)
  rw [hds, number?_of_ne hc, ← hds, unsigned?_toDigits]

def IsWord (i : Int) : Prop :=
  Int64.minValue.toInt ≤ i ∧ i < UInt64.size

theorem toList_toString_neg (n : Nat) : (toString (Int.negSucc n)).toList = '-' :: Nat.toDigits 10 (n + 1) := by
  have htext : toString (Int.negSucc n) = "-" ++ (n + 1).repr := rfl
  rw [htext, String.toList_append, Nat.toList_repr]
  rfl

theorem number?_toString {i : Int} (h : IsWord i) : number? (toString i).toList = some (int i, []) := by
  obtain ⟨hlo, hhi⟩ := h
  cases i with
  | ofNat n =>
    have htext : (toString (Int.ofNat n)).toList = Nat.toDigits 10 n := Nat.toList_repr
    have hn : n < UInt64.size := Int.ofNat_lt.1 hhi
    rw [htext, number?_toDigits]
    simp [integer, hn]
  | negSucc n =>
    have hn : ¬(n + 1 = 0 ∨ Int64.minValue.toInt.natAbs < n + 1) := by omega
    rw [toList_toString_neg, number?_minus, unsigned?_toDigits]
    simp only [integer, if_neg hn, if_true]
    rfl

end Words

end Scenography.Json
