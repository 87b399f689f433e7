import Scenography.Proofs.Decimals
import Scenography.Proofs.DoubleOrder
import Scenography.Proofs.Json.Numbers

namespace Scenography.Number

open Decimal Shortest
open Json (leadDigits_digits)

section Exact

def exact (cs : List Char) : ℚ :=
  match leadDigits 0 0 cs with
  | (n, _, '.' :: rest) => (leadDigits n 0 rest).1 / 10 ^ (leadDigits n 0 rest).2.1
  | (n, _, _) => n

theorem exact_digits {ds : List Char} (h : ∀ c ∈ ds, c.isDigit = true) : exact ds = Nat.ofDigitChars 10 ds 0 := by
  rw [exact, leadDigits_digits h]

theorem leadDigits_stop {ds : List Char} (h : ∀ c ∈ ds, c.isDigit = true) {c : Char} (hc : c.isDigit = false)
    (rest : List Char) (n k : Nat) :
    leadDigits n k (ds ++ c :: rest) = (Nat.ofDigitChars 10 ds n, k + ds.length, c :: rest) := by
  induction ds generalizing n k with
  | nil => simp [leadDigits, hc]
  | cons d ds ih =>
    obtain ⟨hd, hds⟩ := List.forall_mem_cons.1 h
    rw [List.cons_append, leadDigits, if_pos hd, ih hds]
    simp [Nat.ofDigitChars_cons, Nat.add_comm, Nat.add_left_comm]

theorem exact_point {ds es : List Char} (hds : ∀ c ∈ ds, c.isDigit = true) (hes : ∀ c ∈ es, c.isDigit = true) :
    exact (ds ++ '.' :: es) = Nat.ofDigitChars 10 (ds ++ es) 0 / 10 ^ es.length := by
  have hrest : exact (ds ++ '.' :: es) = ((leadDigits (Nat.ofDigitChars 10 ds 0) 0 es).1 : ℚ) /
      10 ^ (leadDigits (Nat.ofDigitChars 10 ds 0) 0 es).2.1 := by
    rw [exact, leadDigits_stop hds rfl]
    rfl
  rw [hrest, leadDigits_digits hes, Nat.ofDigitChars_append, Nat.zero_add]

theorem isDigit_of_mem_zeros {n : Nat} {c : Char} (h : c ∈ zeros n) : c.isDigit = true := by
  rw [List.eq_of_mem_replicate h]
  rfl

theorem exact_positional {ds : List Char} (hds : ∀ c ∈ ds, c.isDigit = true) (e : Int) :
    exact (positional ds (ds.length + e)) = Nat.ofDigitChars 10 ds 0 * 10 ^ e := by
  have hten : (10 : ℚ) ≠ 0 := by norm_num
  unfold positional
  split
  next h =>
    obtain ⟨n, hn⟩ : ∃ n : Nat, e = -(n : Int) := ⟨(-e).toNat, by omega⟩
    have hzeros : ∀ c ∈ zeros (-(ds.length + e)).toNat ++ ds, c.isDigit = true := fun c hc =>
      (List.mem_append.1 hc).elim isDigit_of_mem_zeros (hds c)
    have hlength : (zeros (-(ds.length + e)).toNat ++ ds).length = n := by
      rw [List.length_append, zeros, List.length_replicate]
      omega
    have hdigits : Nat.ofDigitChars 10 (['0'] ++ (zeros (-(ds.length + e)).toNat ++ ds)) 0 =
        Nat.ofDigitChars 10 ds 0 := by
      rw [Nat.ofDigitChars_append, zeros, Nat.ofDigitChars_append, Nat.ofDigitChars_replicate_zero]
      rfl
    have hzero : ∀ c ∈ ['0'], c.isDigit = true := List.forall_mem_singleton.2 rfl
    have hvalue := exact_point hzero hzeros
    rw [hlength, hdigits] at hvalue
    rw [List.append_assoc, hn, zpow_neg, zpow_natCast, ← div_eq_mul_inv]
    rw [hn] at hvalue
    exact hvalue
  next h =>
    split
    next hle =>
      obtain ⟨n, hn⟩ : ∃ n : Nat, e = n := ⟨e.toNat, by omega⟩
      have hcount : ((ds.length : Int) + e).toNat - ds.length = n := by omega
      have hall : ∀ c ∈ ds ++ zeros n, c.isDigit = true := fun c hc =>
        (List.mem_append.1 hc).elim (hds c) isDigit_of_mem_zeros
      rw [hcount, exact_digits hall, Nat.ofDigitChars_append, zeros, Nat.ofDigitChars_replicate_zero, hn, zpow_natCast]
      push_cast
      ring
    next hlt =>
      obtain ⟨n, hn⟩ : ∃ n : Nat, e = -(n : Int) := ⟨(-e).toNat, by omega⟩
      have hcount : (ds.drop ((ds.length : Int) + e).toNat).length = n := by
        rw [List.length_drop]
        omega
      rw [exact_point (fun c hc => hds c (List.mem_of_mem_take hc)) fun c hc => hds c (List.mem_of_mem_drop hc),
        List.take_append_drop, hcount, hn, zpow_neg, zpow_natCast, div_eq_mul_inv]

end Exact

section Characters

def isNumeral (c : Char) : Bool :=
  c.isDigit || c = '.' || c = '-'

theorem isDigit_of_mem_digits {n : Nat} {c : Char} (h : c ∈ digits n) : c.isDigit = true :=
  Nat.isDigit_of_mem_toDigits (by decide) (by decide) h

theorem isNumeral_of_isDigit {c : Char} (h : c.isDigit = true) : isNumeral c = true := by
  simp [isNumeral, h]

theorem isNumeral_of_mem_toString {n : Nat} {c : Char} (h : c ∈ (toString n).toList) : isNumeral c = true := by
  have hdigits : (toString n).toList = digits n := Nat.toList_repr
  exact isNumeral_of_isDigit (isDigit_of_mem_digits (hdigits ▸ h))

theorem isNumeral_of_mem_toString_int {n : Int} {c : Char} (h : c ∈ (toString n).toList) : isNumeral c = true := by
  rw [Int.toString_eq_repr, Int.repr_eq_if] at h
  split at h
  · exact isNumeral_of_mem_toString h
  · rw [String.toList_append, String.toList_ofList, List.mem_append, List.mem_singleton] at h
    rcases h with rfl | h
    · rfl
    · exact isNumeral_of_mem_toString h

theorem mem_positional {ds : List Char} (hds : ∀ c ∈ ds, c.isDigit = true) {point : Int} {c : Char}
    (h : c ∈ positional ds point) : c.isDigit = true ∨ c = '.' := by
  unfold positional at h
  split at h
  · simp only [List.mem_append, List.mem_cons, List.not_mem_nil, or_false] at h
    rcases h with ((rfl | rfl) | h) | h
    · exact .inl rfl
    · exact .inr rfl
    · exact .inl (isDigit_of_mem_zeros h)
    · exact .inl (hds c h)
  · split at h
    · rcases List.mem_append.1 h with h | h
      · exact .inl (hds c h)
      · exact .inl (isDigit_of_mem_zeros h)
    · rcases List.mem_append.1 h with h | h
      · exact .inl (hds c (List.mem_of_mem_take h))
      · rcases List.mem_cons.1 h with rfl | h
        · exact .inr rfl
        · exact .inl (hds c (List.mem_of_mem_drop h))

theorem head_positional {ds : List Char} (hds : ∀ c ∈ ds, c.isDigit = true) (hne : ds ≠ []) (point : Int) :
    ∃ c cs, positional ds point = c :: cs ∧ c.isDigit = true := by
  obtain ⟨d, es, rfl⟩ := List.exists_cons_of_ne_nil hne
  have hd : d.isDigit = true := hds d List.mem_cons_self
  unfold positional
  split
  · exact ⟨'0', _, rfl, rfl⟩
  next hpoint =>
    split
    · exact ⟨d, _, rfl, hd⟩
    · obtain ⟨n, hn⟩ : ∃ n, point.toNat = n + 1 := ⟨point.toNat - 1, by omega⟩
      rw [hn, List.take_succ_cons]
      exact ⟨d, _, rfl, hd⟩

theorem mem_unsignedPlain {b : Binary64} {c : Char} (h : c ∈ unsignedPlain b) : c.isDigit = true ∨ c = '.' := by
  unfold unsignedPlain at h
  split at h
  · rw [List.mem_singleton.1 h]
    exact .inl rfl
  · exact mem_positional (fun c hc => isDigit_of_mem_digits hc) h

theorem head_unsignedPlain (b : Binary64) : ∃ c cs, unsignedPlain b = c :: cs ∧ c.isDigit = true := by
  unfold unsignedPlain
  split
  · exact ⟨'0', [], rfl, rfl⟩
  · exact head_positional (fun c hc => isDigit_of_mem_digits hc) Nat.toDigits_ne_nil _

theorem toList_sign (negative : Bool) (cs : List Char) :
    (sign negative cs).toList = if negative then '-' :: cs else cs :=
  String.toList_ofList

theorem mem_sign {negative : Bool} {cs : List Char} (hcs : ∀ c ∈ cs, c.isDigit = true ∨ c = '.') {c : Char}
    (h : c ∈ (sign negative cs).toList) : isNumeral c = true := by
  have hplain : c = '-' ∨ c ∈ cs := by
    rw [toList_sign] at h
    split at h
    · exact List.mem_cons.1 h
    · exact .inr h
  rcases hplain with rfl | hc
  · rfl
  · rcases hcs c hc with hc | rfl
    · simp [isNumeral, hc]
    · rfl

theorem special_cases (x : Float) : special x = "inf" ∨ special x = "-inf" ∨ special x = "NaN" := by
  unfold special
  split
  · exact .inl rfl
  · split
    · exact .inr (.inl rfl)
    · exact .inr (.inr rfl)

theorem plain_cases (x : Float) : (∃ b, Binary64.ofFloat? x = some b ∧ plain x = sign b.negative (unsignedPlain b)) ∨
    Binary64.ofFloat? x = none ∧ plain x = special x := by
  unfold plain
  split
  next b hb => exact .inl ⟨b, hb, rfl⟩
  next hb => exact .inr ⟨hb, rfl⟩

theorem mem_special {x : Float} {c : Char} (h : c ∈ (special x).toList) :
    isNumeral c = true ∨ c ∈ ['i', 'n', 'f', 'N', 'a'] := by
  rcases special_cases x with hs | hs | hs <;> rw [hs, String.toList_ofList] at h
  · exact .inr (List.mem_append_left ['N', 'a'] h)
  · rcases List.mem_cons.1 h with rfl | h
    · exact .inl rfl
    · exact .inr (List.mem_append_left ['N', 'a'] h)
  · simp only [List.mem_cons, List.not_mem_nil, or_false] at h ⊢
    tauto

theorem mem_plain {x : Float} {c : Char} (h : c ∈ (plain x).toList) :
    isNumeral c = true ∨ c ∈ ['i', 'n', 'f', 'N', 'a'] := by
  rcases plain_cases x with ⟨b, -, hb⟩ | ⟨-, hspecial⟩
  · rw [hb] at h
    exact .inl (mem_sign (fun _ => mem_unsignedPlain) h)
  · rw [hspecial] at h
    exact mem_special h

theorem mem_tidy {x : Float} {c : Char} (h : c ∈ (tidy x).toList) :
    isNumeral c = true ∨ c ∈ ['i', 'n', 'f', 'N', 'a'] := by
  unfold tidy at h
  split at h
  · rw [String.toList_ofList, List.mem_singleton] at h
    rw [h]
    exact .inl rfl
  · exact mem_plain h

theorem mem_fixed {places : Nat} {x : Float} {c : Char} (h : c ∈ (fixed places x).toList) :
    isNumeral c = true ∨ c ∈ ['i', 'n', 'f', 'N', 'a'] := by
  unfold fixed at h
  split at h
  next b _ =>
    refine .inl (mem_sign (fun c hc => mem_positional (fun d hd => ?_) hc) h)
    rcases List.mem_append.1 hd with hd | hd
    · exact isDigit_of_mem_zeros hd
    · exact isDigit_of_mem_digits hd
  next => exact mem_special h

end Characters

section Injective

variable {b b' : Binary64}

theorem exact_unsignedPlain (hm : b.mantissa ≠ 0) : exact (unsignedPlain b) = (decimal b).value := by
  rw [unsignedPlain, if_neg hm]
  dsimp only
  rw [exact_positional fun c hc => isDigit_of_mem_digits hc, digits, Nat.ofDigitChars_ten_toDigits]
  rfl

theorem exact_unsignedPlain_pos (hb : b.Canonical) (hm : b.mantissa ≠ 0) : 0 < exact (unsignedPlain b) := by
  rw [exact_unsignedPlain hm]
  have hlow := (decimal_roundsTo hb hm).low
  have hone : (1 : ℚ) ≤ b.mantissa := by exact_mod_cast Nat.one_le_iff_ne_zero.2 hm
  have hbelow : (below b : ℚ) ≤ 2 := by
    rcases below_cases b with ⟨h, -⟩ | ⟨h, -⟩ <;> rw [h] <;> norm_num
  have hend : 0 < (4 * (b.mantissa : ℚ) - below b) * 2 ^ (b.exponent - 2) :=
    mul_pos (by linarith) (by positivity)
  exact hend.trans_le hlow

theorem unsignedPlain_injective (hb : b.Canonical) (hb' : b'.Canonical) (h : unsignedPlain b = unsignedPlain b') :
    b.mantissa = b'.mantissa ∧ b.exponent = b'.exponent := by
  have hzero (b : Binary64) (hm : b.mantissa = 0) : exact (unsignedPlain b) = 0 := by
    have hdigit : ∀ c ∈ ['0'], c.isDigit = true := List.forall_mem_singleton.2 rfl
    rw [unsignedPlain, if_pos hm]
    exact exact_digits hdigit
  have hleast (b : Binary64) (hb : b.Canonical) (hm : b.mantissa = 0) : b.exponent = -1074 :=
    hb.normal.resolve_left fun hunit => by rw [hm] at hunit; exact absurd hunit (by decide)
  by_cases hm : b.mantissa = 0
  · by_cases hm' : b'.mantissa = 0
    · exact ⟨hm.trans hm'.symm, (hleast b hb hm).trans (hleast b' hb' hm').symm⟩
    · have hpos := exact_unsignedPlain_pos hb' hm'
      rw [← h, hzero b hm] at hpos
      exact (lt_irrefl _ hpos).elim
  · by_cases hm' : b'.mantissa = 0
    · have hpos := exact_unsignedPlain_pos hb hm
      rw [h, hzero b' hm'] at hpos
      exact (lt_irrefl _ hpos).elim
    · have hvalue : (decimal b).value = (decimal b').value := by
        rw [← exact_unsignedPlain hm, ← exact_unsignedPlain hm', h]
      exact (decimal_roundsTo hb hm).unique hb hb' (hvalue ▸ decimal_roundsTo hb' hm')

theorem sign_injective {m n : Bool} (h : sign m (unsignedPlain b) = sign n (unsignedPlain b')) :
    m = n ∧ unsignedPlain b = unsignedPlain b' := by
  have hlist := congrArg String.toList h
  rw [toList_sign, toList_sign] at hlist
  obtain ⟨c, cs, hcs, hc⟩ := head_unsignedPlain b
  obtain ⟨d, ds, hds, hd⟩ := head_unsignedPlain b'
  cases m <;> cases n
  case true.true => exact ⟨rfl, (List.cons.inj hlist).2⟩
  case false.false => exact ⟨rfl, hlist⟩
  case true.false =>
    rw [hds] at hlist
    rw [← (List.cons.inj hlist).1] at hd
    cases hd
  case false.true =>
    rw [hcs] at hlist
    rw [(List.cons.inj hlist).1] at hc
    cases hc

variable {x y : Float}

theorem beq_of_ofFloat?_eq (hx : Binary64.ofFloat? x = some b) (hy : Binary64.ofFloat? y = some b) :
    (x == y) = true := by
  rw [Binary64.ofFloat?_eq] at hx hy
  have hrank (u : Float.Model.UnpackedFloat) (h : Binary64.ofUnpacked? u = some b) :
      u.isFinite = true ∧ rank u = if b.mantissa = 0 then toLex (0, toLex (0, 0))
        else if b.negative then toLex (-1, toLex (-b.exponent, -(b.mantissa : Int)))
        else toLex (1, toLex (b.exponent, (b.mantissa : Int))) := by
    cases u with
    | infinity s => cases h
    | notANumber => cases h
    | zero s => cases h; exact ⟨rfl, rfl⟩
    | finite s m e hm =>
      cases h
      refine ⟨rfl, ?_⟩
      rw [if_neg (Nat.pos_iff_ne_zero.1 hm)]
      cases s <;> rfl
  obtain ⟨hfinite, hx⟩ := hrank _ hx
  obtain ⟨hfinite', hy⟩ := hrank _ hy
  exact (beq_iff_rank hfinite hfinite').2 (hx.trans hy.symm)

theorem special_mem {x : Float} : ∃ c ∈ (special x).toList, isNumeral c = false := by
  rcases special_cases x with h | h | h <;> rw [h, String.toList_ofList]
  · exact ⟨'i', by simp, rfl⟩
  · exact ⟨'i', by simp, rfl⟩
  · exact ⟨'N', by simp, rfl⟩

theorem infinite_of_ofFloat?_eq_none (h : Binary64.ofFloat? x = none) (hx : x.isNaN = false) :
    x.toModel.unpack = .infinity .positive ∧ special x = "inf" ∨
      x.toModel.unpack = .infinity .negative ∧ special x = "-inf" := by
  have hpos : 0 < x ↔ _ := zero_lt_iff
  have hneg : x < 0 ↔ _ := lt_zero_iff
  have hnumber : x.toModel.unpack.isNaN = false := hx
  rw [Binary64.ofFloat?_eq] at h
  unfold special
  cases hu : x.toModel.unpack with
  | infinity s =>
    cases s with
    | positive => simp [hpos, hu]
    | negative => simp [hpos, hneg, hu]
  | notANumber => rw [hu] at hnumber; cases hnumber
  | zero s => rw [hu] at h; cases h
  | finite s m e hm => rw [hu] at h; cases h

/-- Two doubles of one text are equal, but for NaN, which is equal to nothing. -/
theorem plain_injective (hx : x.isNaN = false) (hy : y.isNaN = false) (h : plain x = plain y) : (x == y) = true := by
  have hmixed {x : Float} {b : Binary64} : special x ≠ sign b.negative (unsignedPlain b) := by
    obtain ⟨c, hc, hnumeral⟩ := special_mem (x := x)
    intro heq
    rw [heq] at hc
    rw [mem_sign (fun _ => mem_unsignedPlain) hc] at hnumeral
    cases hnumeral
  rcases plain_cases x with ⟨b, hb, hplain⟩ | ⟨hnone, hplain⟩
  · rcases plain_cases y with ⟨b', hb', hplain'⟩ | ⟨-, hplain'⟩
    · rw [hplain, hplain'] at h
      obtain ⟨hnegative, htext⟩ := sign_injective h
      obtain ⟨hm, he⟩ := unsignedPlain_injective (Binary64.canonical_of_ofFloat? hb)
        (Binary64.canonical_of_ofFloat? hb') htext
      have heq : b = b' := by
        cases b; cases b'
        simp_all
      exact beq_of_ofFloat?_eq hb (heq ▸ hb')
    · rw [hplain, hplain'] at h
      exact (hmixed h.symm).elim
  · rcases plain_cases y with ⟨b', -, hplain'⟩ | ⟨hnone', hplain'⟩
    · rw [hplain, hplain'] at h
      exact (hmixed h).elim
    · rw [hplain, hplain'] at h
      change x.toModel.unpack.beq y.toModel.unpack = true
      rcases infinite_of_ofFloat?_eq_none hnone hx with ⟨hu, hs⟩ | ⟨hu, hs⟩ <;>
        rcases infinite_of_ofFloat?_eq_none hnone' hy with ⟨hu', hs'⟩ | ⟨hu', hs'⟩ <;> rw [hs, hs'] at h
      · rw [hu, hu']; rfl
      · exact absurd h (by decide)
      · exact absurd h (by decide)
      · rw [hu, hu']; rfl

theorem tidy_injective (hx : x.isNaN = false) (hy : y.isNaN = false) (h : tidy x = tidy y) : (x == y) = true := by
  have hzero {x : Float} (hx : x.isNaN = false) (hne : ¬(x == 0) = true) : plain x ≠ "0" := fun h0 =>
    hne (plain_injective hx rfl (y := 0.0) h0)
  unfold tidy at h
  split at h
  next hx0 =>
    split at h
    next hy0 =>
      obtain ⟨s, hs⟩ := beq_zero_iff.1 hx0
      obtain ⟨t, ht⟩ := beq_zero_iff.1 hy0
      change x.toModel.unpack.beq y.toModel.unpack = true
      rw [hs, ht]
      rfl
    next hy0 => exact (hzero hy hy0 h.symm).elim
  next hx0 =>
    split at h
    next hy0 => exact (hzero hx hx0 h).elim
    next hy0 => exact plain_injective hx hy h

end Injective

end Scenography.Number
