import Scenography.Proofs.DoubleOrder

namespace Scenography

open Float.Model Float.Model.UnpackedFloat

namespace Number

section Rounding

variable {s t : Sign} {m n : Nat} {e f k : Int}

/-- A finite value of 53 binary places, the last of which weighs no more than `2 ^ k`. -/
def AtMost (k : Int) : UnpackedFloat → Prop
  | .infinity _ => False
  | .notANumber => False
  | .zero _ => True
  | .finite _ m e _ => m < 2 ^ 53 ∧ e ≤ k

theorem mantissa_shiftRight (em : ExtendedMantissa) (n : Nat) : (em >>> n).mantissa = em.mantissa / 2 ^ n := by
  change (n.repeat ExtendedMantissa.shiftRightOne em).mantissa = _
  induction n with
  | zero => exact (Nat.div_one _).symm
  | succ n ih => rw [Nat.repeat, ExtendedMantissa.shiftRightOne, ih, Nat.pow_succ, Nat.div_div_eq_div_mul]

theorem roundBit_shiftRight (em : ExtendedMantissa) (n : Nat) :
    (em >>> (n + 1)).roundBit = (em.mantissa / 2 ^ n % 2 != 0) := by
  have h := mantissa_shiftRight em n
  change (n.repeat ExtendedMantissa.shiftRightOne em).mantissa = _ at h
  change ((n + 1).repeat ExtendedMantissa.shiftRightOne em).roundBit = _
  rw [Nat.repeat, ExtendedMantissa.shiftRightOne, h]

theorem mantissa_ofMantissaAndAccuracy (m : Nat) (a : Accuracy) :
    (ExtendedMantissa.ofMantissaAndAccuracy m a).mantissa = m := by
  cases a with
  | exact => rfl
  | inexact o => cases o <;> rfl

theorem roundedMantissa_le (em : ExtendedMantissa) : em.roundedMantissa ≤ em.mantissa + 1 := by
  obtain ⟨m, r, s⟩ := em
  have h := Nat.mod_lt m (Nat.zero_lt_two)
  cases r <;> cases s <;> simp only [ExtendedMantissa.roundedMantissa, ExtendedMantissa.accuracy, Accuracy.roundToNearestEven]
  all_goals omega

theorem roundedMantissa_eq {em : ExtendedMantissa} (h : em.roundBit = false) : em.roundedMantissa = em.mantissa := by
  obtain ⟨m, r, s⟩ := em
  cases h
  cases s <;> rfl

theorem log2_le_of_le {j : Nat} (h : m ≤ 2 ^ j) : m.log2 ≤ j := by
  by_cases hm : m = 0
  · rw [hm, Nat.log2_zero]
    exact Nat.zero_le j
  · have hlt : m < 2 ^ (j + 1) := by
      have := Nat.two_pow_pos j
      rw [Nat.pow_succ]
      omega
    exact Nat.lt_succ_iff.1 ((Nat.log2_lt hm).2 hlt)

theorem targetExponent_eq (i : Int) : Format.binary64.targetExponent i = max (i - 53) (-1074) := rfl

theorem atMost_dite (hm : m < 2 ^ 53) (he : e ≤ k) :
    AtMost k (if h : m = 0 then .zero s else .finite s m e (Nat.pos_of_ne_zero h)) := by
  split
  · trivial
  · exact ⟨hm, he⟩

/-- Only a carry that the first rounding leaves moves the last place again. -/
theorem roundWithAccuracy_atMost_of_first {a : Accuracy} {first : ExtendedMantissa × Int}
    (hfirst : shiftToTargetExponent .binary64 m e a = first) (hk : -1074 ≤ k) (he : first.2 ≤ k)
    (ht : totalExponent first.1.roundedMantissa first.2 ≤ k + 53) :
    AtMost k (roundWithAccuracy .binary64 s m e a) := by
  unfold roundWithAccuracy
  rw [hfirst]
  obtain ⟨n, hn⟩ : ∃ n, (max (totalExponent first.1.roundedMantissa first.2 - 53) (-1074) - first.2).toNat = n := ⟨_, rfl⟩
  refine atMost_dite ?_ ?_
  · rw [targetExponent_eq, hn, mantissa_shiftRight, mantissa_ofMantissaAndAccuracy]
    apply Nat.div_lt_of_lt_mul
    rw [← Nat.pow_add]
    refine Nat.lt_of_lt_of_le Nat.lt_log2_self (Nat.pow_le_pow_right Nat.zero_lt_two ?_)
    unfold totalExponent at hn
    omega
  · change first.2 +
      ((max (totalExponent first.1.roundedMantissa first.2 - 53) (-1074) - first.2).toNat : Int) ≤ k
    omega

theorem roundWithAccuracy_atMost {a : Accuracy} (hk : -1074 < k) (he : e < k) (ht : totalExponent m e < k + 53) :
    AtMost k (roundWithAccuracy .binary64 s m e a) := by
  obtain ⟨n, hn⟩ : ∃ n, (Format.binary64.targetExponent (totalExponent m e) - e).toNat = n := ⟨_, rfl⟩
  have hfirst : shiftToTargetExponent .binary64 m e a = (ExtendedMantissa.ofMantissaAndAccuracy m a >>> n, e + n) := by
    rw [← hn]
    rfl
  rw [targetExponent_eq] at hn
  obtain ⟨j, hj⟩ : ∃ j : Nat, (j : Int) = k + 52 - (e + n) := ⟨(k + 52 - (e + n)).toNat, by omega⟩
  have hm : m / 2 ^ n < 2 ^ j := by
    apply Nat.div_lt_of_lt_mul
    rw [← Nat.pow_add]
    refine Nat.lt_of_lt_of_le Nat.lt_log2_self (Nat.pow_le_pow_right Nat.zero_lt_two ?_)
    unfold totalExponent at ht
    omega
  have hrounded := roundedMantissa_le (ExtendedMantissa.ofMantissaAndAccuracy m a >>> n)
  rw [mantissa_shiftRight, mantissa_ofMantissaAndAccuracy] at hrounded
  have hlog := log2_le_of_le (hrounded.trans hm)
  refine roundWithAccuracy_atMost_of_first hfirst (by omega) (by dsimp only; omega) ?_
  unfold totalExponent
  dsimp only
  omega

theorem roundWithAccuracy_atMost_of_lt (he : e ≤ 970) (hm : m < (2 ^ 54 - 1) * 2 ^ (970 - e).toNat) :
    AtMost 971 (roundWithAccuracy .binary64 s m e .exact) := by
  by_cases ht : totalExponent m e ≤ 1023
  · exact roundWithAccuracy_atMost (by decide) (by omega) (by omega)
  · obtain ⟨n, hn⟩ : ∃ n : Nat, (n : Int) = 970 - e := ⟨(970 - e).toNat, by omega⟩
    rw [← hn, Int.toNat_natCast] at hm
    have hlt : m < 2 ^ (54 + n) := by
      rw [Nat.pow_add]
      exact hm.trans_le (Nat.mul_le_mul_right _ (Nat.sub_le _ _))
    have hlog : m.log2 = 53 + n := by
      unfold totalExponent at ht
      have hm0 : m ≠ 0 := by
        rintro rfl
        rw [Nat.log2_zero] at ht
        omega
      have := (Nat.log2_lt hm0).2 hlt
      omega
    have hfirst : shiftToTargetExponent .binary64 m e .exact =
        (ExtendedMantissa.ofMantissaAndAccuracy m .exact >>> (n + 1), 971) := by
      rw [shiftToTargetExponent, shiftToExponent, targetExponent_eq, totalExponent, hlog]
      have hshift : (max (((53 + n : Nat) : Int) + 1 + e - 53) (-1074) - e).toNat = n + 1 := by omega
      rw [hshift]
      refine Prod.ext rfl ?_
      dsimp only
      omega
    -- the half of a last place that is cut off is not there
    have hrounded : (ExtendedMantissa.ofMantissaAndAccuracy m .exact >>> (n + 1)).roundedMantissa < 2 ^ 53 := by
      have hhalves : m / 2 ^ n < 2 ^ 54 - 1 := Nat.div_lt_of_lt_mul (by rw [Nat.mul_comm]; exact hm)
      have hmantissa := mantissa_shiftRight (ExtendedMantissa.ofMantissaAndAccuracy m .exact) (n + 1)
      have hbit := roundBit_shiftRight (ExtendedMantissa.ofMantissaAndAccuracy m .exact) n
      rw [mantissa_ofMantissaAndAccuracy] at hmantissa hbit
      rw [Nat.pow_succ, ← Nat.div_div_eq_div_mul] at hmantissa
      by_cases heven : m / 2 ^ n % 2 = 0
      · rw [roundedMantissa_eq (hbit.trans (by simp [heven])), hmantissa]
        omega
      · have hle := roundedMantissa_le (ExtendedMantissa.ofMantissaAndAccuracy m .exact >>> (n + 1))
        omega
    refine roundWithAccuracy_atMost_of_first hfirst (by decide) (Int.le_refl _) ?_
    have hlog2 : (ExtendedMantissa.ofMantissaAndAccuracy m .exact >>> (n + 1)).roundedMantissa.log2 < 53 := by
      by_cases h0 : (ExtendedMantissa.ofMantissaAndAccuracy m .exact >>> (n + 1)).roundedMantissa = 0
      · rw [h0, Nat.log2_zero]
        decide
      · exact (Nat.log2_lt h0).2 hrounded
    unfold totalExponent
    dsimp only
    omega

theorem log2_shiftLeft (hm : m ≠ 0) (n : Nat) : (m <<< n).log2 = m.log2 + n := by
  rw [Nat.log2_eq_iff (by rw [Nat.shiftLeft_eq]; exact Nat.mul_ne_zero hm (Nat.two_pow_pos n).ne'), Nat.shiftLeft_eq,
    Nat.pow_add, Nat.add_right_comm, Nat.pow_add]
  have hpos : 0 < 2 ^ n := Nat.two_pow_pos n
  exact ⟨Nat.mul_le_mul_right _ (Nat.log2_self_le hm), Nat.mul_lt_mul_of_pos_right Nat.lt_log2_self hpos⟩

theorem round_atMost (hk : -1074 < k) (hm : m ≠ 0) (ht : totalExponent m e < k + 53) :
    AtMost k (UnpackedFloat.round .binary64 s m e) := by
  refine roundWithAccuracy_atMost hk ?_ ?_
  · rw [targetExponent_eq]
    omega
  · unfold totalExponent at ht ⊢
    rw [log2_shiftLeft hm]
    omega

theorem round_atMost_of_lt (he : e ≤ 970) (hlt : m < (2 ^ 54 - 1) * 2 ^ (970 - e).toNat) :
    AtMost 971 (UnpackedFloat.round .binary64 s m e) := by
  refine roundWithAccuracy_atMost_of_lt (by omega) ?_
  generalize (e - Format.binary64.targetExponent (totalExponent m e)).toNat = n
  have hn : (970 - (e - (n : Int))).toNat = (970 - e).toNat + n := by omega
  rw [Nat.shiftLeft_eq, hn, Nat.pow_add, ← Nat.mul_assoc]
  exact Nat.mul_lt_mul_of_pos_right hlt (Nat.two_pow_pos n)

theorem normalize_of_round {P : UnpackedFloat → Prop} {i : Int} (hzero : ∀ s, P (.zero s))
    (h : i.natAbs ≠ 0 → ∀ s, P (UnpackedFloat.round .binary64 s i.natAbs e)) :
    P (UnpackedFloat.normalize .binary64 i e s) := by
  unfold UnpackedFloat.normalize
  rcases Int.lt_trichotomy i 0 with hi | rfl | hi
  · have habs : (-i).toNat = i.natAbs := by omega
    rw [Int.compare_eq_lt.2 hi, habs]
    exact h (by omega) _
  · exact hzero s
  · have habs : i.toNat = i.natAbs := by omega
    rw [Int.compare_eq_gt.2 hi, habs]
    exact h (by omega) _

end Rounding

section Packing

theorem atMost_packedZero {s : Sign} {m : BitVec 52} {k : Int} (hk : -1074 ≤ k) :
    AtMost k (UnpackedFloat.unpack .binary64 (packComponents .binary64 s 0#11 m)) := by
  unfold UnpackedFloat.unpack
  simp only [unpackExponent_packComponents, unpackMantissa_packComponents]
  rw [if_neg (by decide), if_pos trivial]
  split
  · trivial
  · refine ⟨m.isLt.trans (by decide), ?_⟩
    change (0 - (((1023 : Nat) : Int) + ((52 : Nat) : Int)) + 1 : Int) ≤ k
    omega

theorem AtMost.unpack_pack {u : UnpackedFloat} {k : Int} (h : AtMost k u) (hlow : -1074 ≤ k) (hhigh : k ≤ 971) :
    AtMost k (UnpackedFloat.unpack .binary64 (UnpackedFloat.pack .binary64 u)) := by
  cases u with
  | infinity s => exact h.elim
  | notANumber => exact h.elim
  | zero s => exact atMost_packedZero hlow
  | finite s m e hm =>
    have he : e ≤ k := h.2
    unfold UnpackedFloat.pack
    dsimp only
    have hbiased : e + (Format.binary64.exponentBias : Int) + ((52 : Nat) : Int) = e + 1075 := by
      have hbias : (Format.binary64.exponentBias : Int) = 1023 := rfl
      omega
    rw [hbiased, if_neg (by omega)]
    split
    · obtain ⟨b, hb⟩ : ∃ b, (e + 1075).toNat = b := ⟨_, rfl⟩
      rw [hb]
      unfold UnpackedFloat.unpack
      simp only [unpackExponent_packComponents, unpackMantissa_packComponents]
      have hexponent : (BitVec.ofNat 11 b).toNat = b := by
        rw [BitVec.toNat_ofNat, Nat.mod_eq_of_lt (by omega)]
      rw [if_neg (by rw [← BitVec.toNat_inj, hexponent]; change b ≠ 2047; omega)]
      split
      next hlow' =>
        split
        · trivial
        · refine ⟨(BitVec.isLt _).trans (by decide), ?_⟩
          rw [hexponent]
          change ((b : Int) - (((1023 : Nat) : Int) + ((52 : Nat) : Int)) + 1 : Int) ≤ k
          have hb0 : b = 0 := by rw [← hexponent, hlow']; rfl
          omega
      next hlow' =>
        refine ⟨BitVec.isLt _, ?_⟩
        rw [hexponent]
        change ((b : Int) - (((1023 : Nat) : Int) + ((52 : Nat) : Int)) : Int) ≤ k
        omega
    · exact atMost_packedZero hlow

end Packing
section Arithmetic

variable {x y : Float} {j k : Int}

theorem AtMost.mono {u : UnpackedFloat} (h : AtMost j u) (hjk : j ≤ k) : AtMost k u := by
  cases u with
  | infinity s => exact h
  | notANumber => exact h
  | zero s => trivial
  | finite s m e hm => exact ⟨h.1, Int.le_trans h.2 hjk⟩

theorem AtMost.isFinite (h : AtMost k x.toModel.unpack) : x.isFinite = true := by
  change x.toModel.unpack.isFinite = true
  cases hu : x.toModel.unpack <;> rw [hu] at h <;> first | rfl | exact h.elim

theorem exponent_le_of_ofFloat? {b : Binary64} (h : Binary64.ofFloat? x = some b) : b.exponent ≤ 971 := by
  unfold Binary64.ofFloat? at h
  dsimp only at h
  split at h
  · cases h
  · split at h <;> cases h <;> dsimp only <;> omega

theorem unpack_finite {s : Sign} {m : Nat} {e : Int} {h : 0 < m} (hu : x.toModel.unpack = .finite s m e h) :
    m < 2 ^ 53 ∧ (2 ^ 52 ≤ m ∨ e = -1074) ∧ e ≤ 971 := by
  have hb : Binary64.ofFloat? x = some ⟨Binary64.isMinus s, m, e⟩ := by
    rw [Binary64.ofFloat?_eq, hu, Binary64.ofUnpacked?]
  obtain ⟨hm, hn⟩ := Binary64.ofFloat?_canonical hb
  exact ⟨hm, hn, exponent_le_of_ofFloat? hb⟩

theorem atMost_of_isFinite (h : x.isFinite = true) : AtMost 971 x.toModel.unpack := by
  have h' : x.toModel.unpack.isFinite = true := h
  cases hu : x.toModel.unpack with
  | infinity s => rw [hu] at h'; cases h'
  | notANumber => rw [hu] at h'; cases h'
  | zero s => trivial
  | finite s m e hm => exact ⟨(unpack_finite hu).1, (unpack_finite hu).2.2⟩

theorem natAbs_apply (s : Sign) (m : Nat) : (s.apply (m : Int)).natAbs = m := by
  cases s <;> simp [Sign.apply]

theorem shiftLeft_le {m : Nat} {e f : Int} (hm : m < 2 ^ 53) (he : e ≤ k) :
    m <<< (e - f).toNat ≤ (2 ^ 53 - 1) * 2 ^ (k - f).toNat := by
  rw [Nat.shiftLeft_eq]
  exact Nat.mul_le_mul (Nat.le_pred_of_lt hm) (Nat.pow_le_pow_right Nat.zero_lt_two (by omega))

theorem normalize_atMost_of_small {m n : Nat} {e f : Int} {i : Int} {s : Sign} (hm : m < 2 ^ 53) (hn : n < 2 ^ 53)
    (he : e ≤ 971) (hf : f ≤ 900)
    (hi : i.natAbs ≤ m <<< (e - min e f).toNat + n <<< (f - min e f).toNat) :
    AtMost 971 (UnpackedFloat.normalize .binary64 i (min e f) s) := by
  have hlarge := shiftLeft_le (f := min e f) hm he
  have hsmall := shiftLeft_le (f := min e f) hn hf
  refine normalize_of_round (fun _ => trivial) fun _ _ => round_atMost_of_lt (by omega) ?_
  obtain ⟨d, hd⟩ : ∃ d : Nat, (d : Int) = 900 - min e f := ⟨(900 - min e f).toNat, by omega⟩
  have h971 : (971 - min e f).toNat = d + 71 := by omega
  have h900 : (900 - min e f).toNat = d := by omega
  have h970 : (970 - min e f).toNat = d + 70 := by omega
  have hpos : 0 < 2 ^ d := Nat.two_pow_pos d
  rw [h971, Nat.pow_add] at hlarge
  rw [h900] at hsmall
  rw [h970, Nat.pow_add]
  omega

theorem normalize_atMost {m n : Nat} {e f : Int} {i : Int} {s : Sign} (hm : m < 2 ^ 53) (hn : n < 2 ^ 53)
    (he : e ≤ k) (hf : f ≤ k) (hj : k + 2 ≤ j) (hlow : -1074 < j)
    (hi : i.natAbs ≤ m <<< (e - min e f).toNat + n <<< (f - min e f).toNat) :
    AtMost j (UnpackedFloat.normalize .binary64 i (min e f) s) := by
  have hleft := shiftLeft_le (f := min e f) hm he
  have hright := shiftLeft_le (f := min e f) hn hf
  refine normalize_of_round (fun _ => trivial) fun h0 s => ?_
  have hround : totalExponent i.natAbs (min e f) < j + 53 := by
    obtain ⟨d, hd⟩ : ∃ d : Nat, (d : Int) = k - min e f := ⟨(k - min e f).toNat, by omega⟩
    have hkd : (k - min e f).toNat = d := by omega
    rw [hkd] at hleft hright
    have hlt : i.natAbs < 2 ^ (54 + d) := by
      have hpos : 0 < 2 ^ d := Nat.two_pow_pos d
      rw [Nat.pow_add]
      omega
    have hlog := (Nat.log2_lt h0).2 hlt
    unfold totalExponent
    omega
  exact round_atMost hlow h0 hround

theorem AtMost.neg {u : UnpackedFloat} (h : AtMost k u) : AtMost k u.neg := by
  cases u <;> exact h

theorem AtMost.toModel {u : UnpackedFloat} (h : AtMost k u) (hlow : -1074 ≤ k) (hhigh : k ≤ 971) :
    AtMost k (Float.ofModel (.pack u)).toModel.unpack :=
  h.unpack_pack hlow hhigh

theorem sub_eq_add_neg (u v : UnpackedFloat) : UnpackedFloat.sub .binary64 u v = UnpackedFloat.add .binary64 u v.neg := by
  cases u <;> cases v
  case finite.finite s m e h t n f k =>
    simp only [UnpackedFloat.sub, UnpackedFloat.add, UnpackedFloat.neg]
    cases t <;> simp [Sign.apply, Int.sub_eq_add_neg]
  case infinity.infinity s t => cases s <;> cases t <;> rfl
  case zero.zero s t => cases s <;> cases t <;> rfl
  all_goals rfl

theorem add_atMost_of_normalize {u v : UnpackedFloat} {i : Int} (hu : AtMost j u) (hv : AtMost k v) (hj : j ≤ i) (hk : k ≤ i)
    (hround : ∀ {m n : Nat} {e f : Int} {a : Int} {s : Sign}, m < 2 ^ 53 → n < 2 ^ 53 → e ≤ j → f ≤ k →
      a.natAbs ≤ m <<< (e - min e f).toNat + n <<< (f - min e f).toNat →
      AtMost i (UnpackedFloat.normalize .binary64 a (min e f) s)) :
    AtMost i (UnpackedFloat.add .binary64 u v) := by
  cases u with
  | infinity s => exact hu.elim
  | notANumber => exact hu.elim
  | zero s =>
    cases v with
    | infinity t => exact hv.elim
    | notANumber => exact hv.elim
    | zero t => cases s <;> cases t <;> trivial
    | finite t n f h => exact AtMost.mono hv hk
  | finite s m e h =>
    cases v with
    | infinity t => exact hv.elim
    | notANumber => exact hv.elim
    | zero t => exact AtMost.mono hu hj
    | finite t n f h =>
      refine hround hu.1 hv.1 hu.2 hv.2 ((Int.natAbs_add_le _ _).trans_eq ?_)
      rw [natAbs_apply, natAbs_apply]

theorem add_atMost {u v : UnpackedFloat} (hu : AtMost k u) (hv : AtMost k v) (hj : k + 2 ≤ j) (hlow : -1074 < j) :
    AtMost j (UnpackedFloat.add .binary64 u v) :=
  add_atMost_of_normalize hu hv (by omega) (by omega) fun hm hn he hf => normalize_atMost hm hn he hf hj hlow

theorem add_atMost_of_small {u v : UnpackedFloat} (hu : AtMost 971 u) (hv : AtMost 900 v) :
    AtMost 971 (UnpackedFloat.add .binary64 u v) :=
  add_atMost_of_normalize hu hv (by omega) (by omega) fun hm hn he hf => normalize_atMost_of_small hm hn he hf

theorem mul_atMost {i : Int} {u v : UnpackedFloat} (hu : AtMost j u) (hv : AtMost k v) (hi : j + k + 54 ≤ i)
    (hlow : -1074 < i) : AtMost i (UnpackedFloat.mul .binary64 u v) := by
  cases u with
  | infinity s => exact hu.elim
  | notANumber => exact hu.elim
  | zero s => cases v <;> first | exact hv.elim | trivial
  | finite s m e h =>
    cases v with
    | infinity t => exact hv.elim
    | notANumber => exact hv.elim
    | zero t => trivial
    | finite t n f h' =>
      have hproduct : m * n < 2 ^ 53 * 2 ^ 53 := Nat.mul_lt_mul'' hu.1 hv.1
      rw [← Nat.pow_add] at hproduct
      have hlog := (Nat.log2_lt (Nat.mul_pos h h').ne').2 hproduct
      have he := hu.2
      have hf := hv.2
      rw [UnpackedFloat.mul]
      refine roundWithAccuracy_atMost hlow (by omega) ?_
      unfold totalExponent
      omega

theorem beyond_normal_iff {s : Sign} {f : Int} (hf : -1074 < f) : Beyond s Binary64.unit f y.toModel.unpack ↔
    y.toModel.unpack = .infinity s ∨ ∃ m e h, y.toModel.unpack = .finite s m e h ∧ 2 ^ 52 ≤ m ∧ f ≤ e := by
  have hunit : Binary64.unit = 2 ^ 52 := rfl
  refine or_congr_right ⟨?_, ?_⟩
  · rintro ⟨m, e, h, hu, hbeyond⟩
    obtain ⟨-, hcanonical, -⟩ := unpack_finite hu
    exact ⟨m, e, h, hu, by omega, by omega⟩
  · rintro ⟨m, e, h, hu, hm, he⟩
    exact ⟨m, e, h, hu, by omega⟩

theorem two_le_iff : 2.0 ≤ y ↔ y.toModel.unpack = .infinity .positive ∨
    ∃ m e h, y.toModel.unpack = .finite .positive m e h ∧ m.log2 = 52 ∧ -51 ≤ e := by
  rw [unit_le_iff (f := -51) rfl, beyond_normal_iff (by decide)]
  refine or_congr_right ⟨?_, ?_⟩
  · rintro ⟨m, e, h, hu, hm, he⟩
    exact ⟨m, e, h, hu, (Nat.log2_eq_iff h.ne').2 ⟨hm, (unpack_finite hu).1⟩, he⟩
  · rintro ⟨m, e, h, hu, hlog, he⟩
    exact ⟨m, e, h, hu, ((Nat.log2_eq_iff h.ne').1 hlog).1, he⟩

theorem div_atMost (hk : -1074 < k) (hx : AtMost k x.toModel.unpack) (hy : 2.0 ≤ y) :
    AtMost k (UnpackedFloat.div .binary64 x.toModel.unpack y.toModel.unpack) := by
  rcases two_le_iff.1 hy with hy' | ⟨n, f, hn, hy', hlog, hf⟩ <;> rw [hy']
  · cases hu : x.toModel.unpack <;> rw [hu] at hx <;> first | exact hx.elim | trivial
  · cases hu : x.toModel.unpack with
    | infinity s => rw [hu] at hx; exact hx.elim
    | notANumber => rw [hu] at hx; exact hx.elim
    | zero s => trivial
    | finite s m e hm =>
      rw [hu] at hx
      obtain ⟨hm53, he⟩ := hx
      have hlogm : m.log2 < 53 := (Nat.log2_lt hm.ne').2 hm53
      obtain ⟨d, hd⟩ : ∃ d, min (e - f) (Format.binary64.targetExponent (totalExponent m e - totalExponent n f)) = d :=
        ⟨_, rfl⟩
      have hdlt : d < k := by
        rw [targetExponent_eq] at hd
        unfold totalExponent at hd
        omega
      obtain ⟨i, hi⟩ : ∃ i, (e - f - d).toNat = i := ⟨_, rfl⟩
      have hquotient : totalExponent (m <<< i / n) d < k + 53 := by
        have hlt : m <<< i / n < 2 ^ (m.log2 + 1 + i - 52) := by
          apply Nat.div_lt_of_lt_mul
          rw [Nat.shiftLeft_eq]
          have hnormal := ((Nat.log2_eq_iff hn.ne').1 hlog).1
          calc m * 2 ^ i < 2 ^ (m.log2 + 1) * 2 ^ i := Nat.mul_lt_mul_of_pos_right Nat.lt_log2_self (Nat.two_pow_pos i)
            _ = 2 ^ (m.log2 + 1 + i) := (Nat.pow_add _ _ _).symm
            _ ≤ 2 ^ (52 + (m.log2 + 1 + i - 52)) := Nat.pow_le_pow_right Nat.zero_lt_two (by omega)
            _ = 2 ^ 52 * 2 ^ (m.log2 + 1 + i - 52) := Nat.pow_add _ _ _
            _ ≤ n * 2 ^ (m.log2 + 1 + i - 52) := Nat.mul_le_mul_right _ hnormal
        unfold totalExponent
        by_cases h0 : m <<< i / n = 0
        · rw [h0, Nat.log2_zero]
          omega
        · have hlogq := (Nat.log2_lt h0).2 hlt
          omega
      have hcore : divCore .binary64 m e n f = (m <<< i / n, d, accuracyOfFraction (m <<< i % n) n) := by
        rw [← hi, ← hd]
        rfl
      unfold UnpackedFloat.div
      dsimp only
      rw [hcore]
      exact roundWithAccuracy_atMost hk hdlt hquotient

theorem isFinite_div (hx : x.isFinite = true) (hy : 2.0 ≤ y) : (x / y).isFinite = true :=
  ((div_atMost (by decide) (atMost_of_isFinite hx) hy).toModel (by decide) (by decide)).isFinite

theorem ofNat_atMost {n : Nat} (h : n < 2 ^ 64) : AtMost 12 (Float.ofNat n).toModel.unpack := by
  change AtMost 12 (Float.ofScientific n false 0).toModel.unpack
  unfold Float.ofScientific
  split
  next hn =>
    have hwhole : AtMost 1 n.toUInt64.toFloat.toModel.unpack := by
      refine AtMost.toModel (u := .ofNat .binary64 n.toUInt64.toNat) ?_ (by decide) (by decide)
      refine normalize_of_round (fun _ => trivial) fun h0 _ => ?_
      have hn64 : n.toUInt64.toNat = n := UInt64.toNat_ofNat_of_lt' h
      rw [Int.natAbs_natCast, hn64] at h0 ⊢
      refine round_atMost (by decide) h0 ?_
      have hlog := (Nat.log2_lt h0).2 hn.1
      unfold totalExponent
      omega
    have hone : AtMost (-52) (Float.ofBits 0x3ff0000000000000).toModel.unpack := ⟨by decide, by decide⟩
    have hproduct : AtMost 12 (UnpackedFloat.mul .binary64 n.toUInt64.toFloat.toModel.unpack
        (Float.ofBits 0x3ff0000000000000).toModel.unpack) := mul_atMost hwhole hone (by decide) (by decide)
    exact hproduct.toModel (by decide) (by decide)
  next =>
    have hscientific : AtMost 12 (UnpackedFloat.ofScientific .binary64 n 0) := by
      have hpower : (2 : Int) ^ Format.binary64.exponentBits = 2048 := rfl
      unfold UnpackedFloat.ofScientific
      split
      · trivial
      next h0 =>
        rw [hpower, if_neg (by omega), if_neg (by omega), if_pos (by omega)]
        have hbits : Format.binary64.mantissaBits = 53 := rfl
        have hlog := (Nat.log2_lt h0).2 h
        rw [UnpackedFloat.mul]
        refine roundWithAccuracy_atMost ?_ ?_ ?_
        · omega
        · rw [hbits]
          omega
        unfold totalExponent
        rw [Int.toNat_zero, Nat.pow_zero, Nat.mul_one, log2_shiftLeft h0]
        omega
    exact hscientific.toModel (by decide) (by decide)

theorem add_comm_unpacked (u v : UnpackedFloat) :
    UnpackedFloat.add .binary64 u v = UnpackedFloat.add .binary64 v u := by
  cases u <;> cases v
  case finite.finite s m e h t n f k => simp only [UnpackedFloat.add, Int.min_comm e f, Int.add_comm]
  case infinity.infinity s t => cases s <;> cases t <;> rfl
  case zero.zero s t => cases s <;> cases t <;> rfl
  all_goals rfl

theorem isFinite_add_left (hx : AtMost 900 x.toModel.unpack) (hy : y.isFinite = true) : (x + y).isFinite = true := by
  have hsum : AtMost 971 (UnpackedFloat.add .binary64 x.toModel.unpack y.toModel.unpack) :=
    add_comm_unpacked _ _ ▸ add_atMost_of_small (atMost_of_isFinite hy) hx
  exact (hsum.toModel (by decide) (by decide)).isFinite

theorem isFinite_sub (hx : x.isFinite = true) (hy : AtMost 900 y.toModel.unpack) : (x - y).isFinite = true := by
  have hdifference : AtMost 971 (UnpackedFloat.sub .binary64 x.toModel.unpack y.toModel.unpack) :=
    sub_eq_add_neg _ _ ▸ add_atMost_of_small (atMost_of_isFinite hx) hy.neg
  exact (hdifference.toModel (by decide) (by decide)).isFinite

theorem abs_atMost (hx : AtMost k x.toModel.unpack) (hlow : -1074 ≤ k) (hhigh : k ≤ 971) :
    AtMost k x.abs.toModel.unpack := by
  have habs : AtMost k x.toModel.unpack.abs := by
    generalize x.toModel.unpack = u at hx
    cases u <;> exact hx
  exact habs.toModel hlow hhigh

theorem isFinite_abs (hx : x.isFinite = true) : x.abs.isFinite = true :=
  (abs_atMost (atMost_of_isFinite hx) (by decide) (by decide)).isFinite

theorem isFinite_of_le_of_le {z : Float} (hx : x.isFinite = true) (hz : z.isFinite = true) (hxy : x ≤ y) (hyz : y ≤ z) :
    y.isFinite = true := by
  have hx' := atMost_of_isFinite hx
  have hz' := atMost_of_isFinite hz
  rw [le_iff] at hxy hyz
  change y.toModel.unpack.isFinite = true
  cases hu : y.toModel.unpack with
  | infinity s =>
    rw [hu] at hxy hyz
    cases s with
    | positive => cases hw : z.toModel.unpack <;> rw [hw] at hz' hyz <;> first | exact hz'.elim | cases hyz
    | negative =>
      cases hw : x.toModel.unpack with
      | infinity t => rw [hw] at hx'; exact hx'.elim
      | notANumber => rw [hw] at hx'; exact hx'.elim
      | zero t => rw [hw] at hxy; cases hxy
      | finite t m e h => rw [hw] at hxy; cases t <;> cases hxy
  | notANumber =>
    rw [hu] at hyz
    cases hyz
  | zero s => rfl
  | finite s m e h => rfl

theorem isFinite_of_abs_lt (hy : y.isFinite = true) (h : x.abs < y) : x.isFinite = true := by
  have hy' := atMost_of_isFinite hy
  have habs : x.abs = Float.ofModel (.pack x.toModel.unpack.abs) := rfl
  rw [lt_iff, habs] at h
  change x.toModel.unpack.isFinite = true
  cases hu : x.toModel.unpack with
  | infinity s =>
    rw [hu, UnpackedFloat.abs] at h
    have hpacked : (Float.ofModel (.pack (.infinity .positive))).toModel.unpack = .infinity .positive := rfl
    rw [hpacked] at h
    cases hw : y.toModel.unpack <;> rw [hw] at hy' h <;> first | exact hy'.elim | cases h
  | notANumber =>
    rw [hu] at h
    have hpacked : (Float.ofModel (.pack UnpackedFloat.notANumber.abs)).toModel.unpack = .notANumber := rfl
    rw [hpacked] at h
    cases h
  | zero s => rfl
  | finite s m e h => rfl

end Arithmetic

end Number
end Scenography
