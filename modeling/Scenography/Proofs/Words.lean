import Scenography.Proofs.Overflow

namespace Scenography

open Float.Model Float.Model.UnpackedFloat

namespace Binary64

variable {b : Binary64} {k : Nat}

theorem top_le (hm : b.mantissa < 2 ^ 53) (he : b.exponent ≤ k) : b.top ≤ (2 ^ 53 - 1) * 2 ^ k := by
  rw [top, Nat.shiftLeft_eq]
  exact Nat.mul_le_mul (Nat.le_pred_of_lt hm) (Nat.pow_le_pow_right Nat.zero_lt_two (by omega))

theorem le_top (hm : 2 ^ 52 ≤ b.mantissa) (he : k ≤ b.exponent) : 2 ^ 52 * 2 ^ k ≤ b.top := by
  rw [top, Nat.shiftLeft_eq]
  exact Nat.mul_le_mul hm (Nat.pow_le_pow_right Nat.zero_lt_two (by omega))

theorem bottom_of_le (he : k ≤ b.exponent) : b.bottom = 1 := by
  have hzero : (-b.exponent).toNat = 0 := by omega
  rw [bottom, hzero]
  rfl

/-- A rounding of magnitudes that leaves whole ones as they are and lifts none of the others above the magnitude's
numerator. -/
def Rounding (r : Binary64 → Int) : Prop :=
  ∀ b, ∃ n : Nat, r b = b.signed n ∧ n ≤ b.top ∧ (b.bottom = 1 → n = b.top)

theorem truncate_rounding : Rounding truncate := by
  intro b
  refine ⟨_, rfl, Nat.div_le_self _ _, fun h => ?_⟩
  rw [h, Nat.div_one]

theorem nearest_rounding : Rounding nearest := by
  intro b
  refine ⟨_, rfl, ?_, fun h => ?_⟩
  · have hpos := b.bottom_pos
    have hscale : b.top ≤ b.bottom * b.top := Nat.le_mul_of_pos_left _ hpos
    refine Nat.lt_succ_iff.1 (Nat.div_lt_of_lt_mul ?_)
    rw [Nat.mul_succ, Nat.mul_assoc]
    omega
  · rw [h]
    omega

end Binary64

namespace Number

open Binary64

section Rounding

variable {r : Binary64 → Int} {x z : Float}

theorem toInt_of_finite {s : Sign} {m : Nat} {e : Int} {h : 0 < m} (hx : x.toModel.unpack = .finite s m e h) :
    toInt r x = r ⟨isMinus s, m, e⟩ := by
  rw [toInt, ofFloat?_eq, hx, ofUnpacked?]

theorem toInt_of_zero {s : Sign} (hx : x.toModel.unpack = .zero s) : toInt r x = r ⟨isMinus s, 0, -1074⟩ := by
  rw [toInt, ofFloat?_eq, hx, ofUnpacked?]

theorem toInt_of_notANumber (hx : x.toModel.unpack = .notANumber) : toInt r x = 0 := by
  have hpos : ¬ 0 < x := fun h => by simpa [hx] using zero_lt_iff.1 h
  have hneg : ¬ x < 0 := fun h => by simpa [hx] using lt_zero_iff.1 h
  simp only [toInt, ofFloat?_eq, hx, ofUnpacked?, if_neg hpos, if_neg hneg]

theorem toInt_of_infinity {s : Sign} (hx : x.toModel.unpack = .infinity s) : toInt r x = s.apply UInt64.size := by
  have hpos : 0 < x ↔ _ := zero_lt_iff
  have hneg : x < 0 ↔ _ := lt_zero_iff
  cases s <;> simp [toInt, ofFloat?_eq, ofUnpacked?, hpos, hneg, hx, Sign.apply]

variable {k : Nat}

theorem natAbs_toInt_le (hr : Rounding r) (hx : AtMost k x.toModel.unpack) : (toInt r x).natAbs ≤ (2 ^ 53 - 1) * 2 ^ k := by
  have hsigned (b : Binary64) (n : Nat) : (b.signed n).natAbs = n := by
    unfold Binary64.signed
    split <;> simp
  cases hu : x.toModel.unpack with
  | infinity s => rw [hu] at hx; exact hx.elim
  | notANumber => rw [toInt_of_notANumber hu]; exact Nat.zero_le _
  | zero s =>
    obtain ⟨n, hn, hle, -⟩ := hr ⟨isMinus s, 0, -1074⟩
    rw [toInt_of_zero hu, hn, hsigned]
    exact hle.trans (top_le (Nat.two_pow_pos 53) (by dsimp only; omega))
  | finite s m e hm =>
    rw [hu] at hx
    obtain ⟨n, hn, hle, -⟩ := hr ⟨isMinus s, m, e⟩
    rw [toInt_of_finite hu, hn, hsigned]
    exact hle.trans (top_le hx.1 hx.2)

variable {s t : Sign}

theorem apply_apply (s : Sign) (n : Int) : s.apply (s.apply n) = n := by
  cases s
  · exact Int.neg_neg n
  · rfl

theorem apply_apply_of_ne (h : t ≠ s) (n : Int) : s.apply (t.apply n) = -n := by
  cases s <;> cases t
  case negative.negative => exact (h rfl).elim
  case positive.positive => exact (h rfl).elim
  all_goals rfl

theorem signed_isMinus (s : Sign) (m : Nat) (e : Int) (n : Nat) : (⟨isMinus s, m, e⟩ : Binary64).signed n = s.apply n := by
  cases s <;> rfl

theorem apply_le_natAbs (s : Sign) (i : Int) : s.apply i ≤ i.natAbs := by
  cases s <;> rw [Sign.apply] <;> omega

theorem le_toInt_of_beyond (hr : Rounding r) (hk : k ≤ 12) (h : Beyond s Binary64.unit k x.toModel.unpack) :
    ((2 ^ 52 * 2 ^ k : Nat) : Int) ≤ s.apply (toInt r x) := by
  rcases (beyond_normal_iff (by omega)).1 h with hx | ⟨m, e, hm, hx, hnormal, he⟩
  · rw [toInt_of_infinity hx, apply_apply]
    exact Int.ofNat_le.2 (Nat.mul_le_mul_left (2 ^ 52) (Nat.pow_le_pow_right Nat.zero_lt_two hk))
  · obtain ⟨n, hn, -, hwhole⟩ := hr ⟨isMinus s, m, e⟩
    rw [toInt_of_finite hx, hn, signed_isMinus, apply_apply, hwhole (bottom_of_le he)]
    exact Int.ofNat_le.2 (le_top hnormal he)

theorem toInt_le_of_not_beyond (hr : Rounding r) (h : ¬Beyond s Binary64.unit (k + 1 : Nat) x.toModel.unpack) :
    s.apply (toInt r x) ≤ (((2 ^ 53 - 1) * 2 ^ k : Nat) : Int) := by
  have hbound (hx : AtMost k x.toModel.unpack) : s.apply (toInt r x) ≤ (((2 ^ 53 - 1) * 2 ^ k : Nat) : Int) :=
    (apply_le_natAbs s _).trans (Int.ofNat_le.2 (natAbs_toInt_le hr hx))
  have hacross {t : Sign} (ht : t ≠ s) (n : Nat) : s.apply (t.apply n) ≤ (((2 ^ 53 - 1) * 2 ^ k : Nat) : Int) := by
    rw [apply_apply_of_ne ht]
    exact (Int.neg_nonpos_of_nonneg (Int.natCast_nonneg n)).trans (Int.natCast_nonneg _)
  rw [beyond_normal_iff (by omega)] at h
  cases hu : x.toModel.unpack with
  | infinity t =>
    rw [toInt_of_infinity hu]
    exact hacross (fun ht => h (.inl (ht ▸ hu))) _
  | notANumber =>
    rw [toInt_of_notANumber hu]
    exact (apply_le_natAbs s 0).trans (Int.natCast_nonneg _)
  | zero t => exact hbound (hu ▸ trivial)
  | finite t m e hm =>
    obtain ⟨hm53, hcanonical, -⟩ := unpack_finite hu
    by_cases ht : t = s
    · subst ht
      have he : e ≤ k := by
        by_contra hlt
        exact h (.inr ⟨m, e, hm, hu, by omega, by omega⟩)
      exact hbound (hu ▸ ⟨hm53, he⟩)
    · obtain ⟨n, hn, -⟩ := hr ⟨isMinus t, m, e⟩
      rw [toInt_of_finite hu, hn, signed_isMinus]
      exact hacross ht n

end Rounding

section Words

variable {x : Float}

theorem toInt64_of_le (h : 9223372036854775808.0 ≤ x) : (toInt64 x).toInt = 9223372036854775807 := by
  have hlarge : ((2 ^ 52 * 2 ^ 11 : Nat) : Int) ≤ toInt truncate x :=
    le_toInt_of_beyond truncate_rounding (by decide) ((unit_le_iff (f := (11 : Nat)) rfl).1 h)
  rw [toInt64, toInt_ofIntClamp]
  omega

theorem toInt64_of_not_le (h : ¬ 9223372036854775808.0 ≤ x) : (toInt64 x).toInt ≤ 9223372036854774784 := by
  have hsmall : toInt truncate x ≤ (((2 ^ 53 - 1) * 2 ^ 10 : Nat) : Int) :=
    toInt_le_of_not_beyond truncate_rounding (mt (unit_le_iff (f := (11 : Nat)) rfl).2 h)
  rw [toInt64, toInt_ofIntClamp]
  omega

theorem toInt64_of_le_neg (h : x ≤ -9223372036854775808.0) : (toInt64 x).toInt = -9223372036854775808 := by
  have hlarge : ((2 ^ 52 * 2 ^ 11 : Nat) : Int) ≤ -toInt truncate x :=
    le_toInt_of_beyond truncate_rounding (by decide) ((le_neg_unit_iff (f := (11 : Nat)) rfl).1 h)
  rw [toInt64, toInt_ofIntClamp]
  omega

theorem toInt64_of_not_le_neg (h : ¬ x ≤ -9223372036854775808.0) : -9223372036854774784 ≤ (toInt64 x).toInt := by
  have hsmall : -toInt truncate x ≤ (((2 ^ 53 - 1) * 2 ^ 10 : Nat) : Int) :=
    toInt_le_of_not_beyond truncate_rounding (mt (le_neg_unit_iff (f := (11 : Nat)) rfl).2 h)
  rw [toInt64, toInt_ofIntClamp]
  omega

theorem nearest_of_le (h : 18446744073709551616.0 ≤ x) : 18446744073709551616 ≤ toInt nearest x :=
  le_toInt_of_beyond nearest_rounding (by decide) ((unit_le_iff (f := (12 : Nat)) rfl).1 h)

theorem nearest_of_not_le (h : ¬ 18446744073709551616.0 ≤ x) : toInt nearest x ≤ 18446744073709549568 :=
  toInt_le_of_not_beyond nearest_rounding (mt (unit_le_iff (f := (12 : Nat)) rfl).2 h)

end Words

section Small

variable {x y : Float}

theorem abs_unpack_positive {spec : Format} (e : BitVec spec.exponentBits)
    (m : BitVec spec.mantissaBitsWithoutImplicit) :
    (UnpackedFloat.unpack spec (packComponents spec .positive e m)).abs =
      UnpackedFloat.unpack spec (packComponents spec .positive e m) := by
  have hsign : Sign.ofBitVec Sign.positive.toBitVec = .positive := rfl
  simp only [UnpackedFloat.unpack, unpackExponent_packComponents, unpackMantissa_packComponents,
    unpackSign_packComponents, hsign]
  split
  · split <;> rfl
  · split
    · split <;> rfl
    · rfl

theorem abs_unpack_pack_abs {spec : Format} (u : UnpackedFloat) :
    (UnpackedFloat.unpack spec (UnpackedFloat.pack spec u.abs)).abs =
      UnpackedFloat.unpack spec (UnpackedFloat.pack spec u.abs) := by
  cases u with
  | infinity s => exact abs_unpack_positive _ _
  | notANumber => exact abs_unpack_positive _ _
  | zero s => exact abs_unpack_positive _ _
  | finite s m e h =>
    have habs : (UnpackedFloat.finite s m e h).abs = .finite .positive m e h := rfl
    rw [habs]
    unfold UnpackedFloat.pack
    dsimp only
    split
    · exact abs_unpack_positive _ _
    · split <;> exact abs_unpack_positive _ _

theorem abs_unpack_abs (x : Float) : x.abs.toModel.unpack.abs = x.abs.toModel.unpack :=
  abs_unpack_pack_abs x.toModel.unpack

theorem abs_atMost_of_lt {n : Nat} {f : Int} {hn : 0 < n} (hy : y.toModel.unpack = .finite .positive n f hn)
    (h : x.abs < y) : AtMost f x.abs.toModel.unpack := by
  have hsign := abs_unpack_abs x
  rw [lt_iff, hy] at h
  cases hu : x.abs.toModel.unpack with
  | infinity s =>
    rw [hu] at h hsign
    cases s with
    | positive => simp [UnpackedFloat.lt, UnpackedFloat.compare] at h
    | negative => cases hsign
  | notANumber => simp [hu, UnpackedFloat.lt, UnpackedFloat.compare] at h
  | zero s => trivial
  | finite s m e hm =>
    rw [hu] at h hsign
    cases s with
    | negative => cases hsign
    | positive =>
      refine ⟨(unpack_finite hu).1, ?_⟩
      by_contra hlt
      simp [UnpackedFloat.lt, UnpackedFloat.compare, Int.compare_eq_gt.2 (Int.not_le.1 hlt)] at h

theorem natAbs_floor_le {k : Nat} (hk : k ≤ 53) (hx : AtMost (k - 53) x.toModel.unpack) :
    (toInt floor x).natAbs ≤ 2 ^ k := by
  cases hu : x.toModel.unpack with
  | infinity s => rw [hu] at hx; exact hx.elim
  | notANumber => rw [toInt_of_notANumber hu]; exact Nat.zero_le _
  | zero s => rw [toInt_of_zero hu]; cases s <;> exact Nat.zero_le _
  | finite s m e hm =>
    rw [hu] at hx
    obtain ⟨hm53, he⟩ := hx
    have htop : (⟨isMinus s, m, e⟩ : Binary64).top = m := by
      have hwhole : e.toNat = 0 := by omega
      rw [top, hwhole, Nat.shiftLeft_zero]
    have hpos := (⟨isMinus s, m, e⟩ : Binary64).bottom_pos
    have hle : m < 2 ^ k * (⟨isMinus s, m, e⟩ : Binary64).bottom := by
      rw [bottom, Nat.one_shiftLeft, ← Nat.pow_add]
      exact hm53.trans_le (Nat.pow_le_pow_right Nat.zero_lt_two (by dsimp only; omega))
    rw [toInt_of_finite hu, floor, htop]
    generalize (⟨isMinus s, m, e⟩ : Binary64).bottom = d at hpos hle
    split
    · rw [Int.natAbs_neg, Int.natAbs_natCast]
      refine Nat.lt_succ_iff.1 (Nat.div_lt_of_lt_mul ?_)
      rw [Nat.mul_succ, Nat.mul_comm d]
      omega
    · rw [Int.natAbs_natCast]
      exact (Nat.div_lt_of_lt_mul (by rwa [Nat.mul_comm])).le

end Small

end Number

end Scenography
