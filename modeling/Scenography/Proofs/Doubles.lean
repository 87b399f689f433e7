import Mathlib
import Scenography.Number.Authored

namespace Scenography

open Float.Model Float.Model.UnpackedFloat

namespace Binary64

def isMinus : Sign → Bool
  | .positive => false
  | .negative => true

def ofUnpacked? : UnpackedFloat → Option Binary64
  | .infinity _ => none
  | .notANumber => none
  | .zero s => some ⟨isMinus s, 0, -1074⟩
  | .finite s m e _ => some ⟨isMinus s, m, e⟩

section Fields

variable (b : BitVec 64)

theorem isMinus_unpackSign :
    isMinus (.ofBitVec (@unpackSign Format.binary64 b)) = decide (signBit ≤ b.toNat) := by
  have hb : @unpackSign Format.binary64 b = BitVec.ofBool b.msb := by
    apply BitVec.eq_of_getLsbD_eq
    intro i hi
    obtain rfl : i = 0 := by omega
    simp [unpackSign, BitVec.msb_eq_getLsbD_last]
    rfl
  have hm : b.msb = decide (signBit ≤ b.toNat) := BitVec.msb_eq_decide b
  rw [hb, ← hm]
  cases b.msb <;> rfl

theorem toNat_unpackExponent : (@unpackExponent Format.binary64 b).toNat = b.toNat / unit % 0x800 := by
  simp [unpackExponent, BitVec.extractLsb, Nat.shiftRight_eq_div_pow, unit]

theorem toNat_unpackMantissa : (@unpackMantissa Format.binary64 b).toNat = b.toNat % unit := by
  simp [unpackMantissa, BitVec.extractLsb, unit]

end Fields

theorem toNat_append_one (m : BitVec 52) : (1#1 ++ m).toNat = unit + m.toNat := by
  rw [BitVec.toNat_append, ← Nat.shiftLeft_add_eq_or_of_lt m.isLt]
  rfl

theorem ofFloat?_eq (x : Float) : ofFloat? x = ofUnpacked? x.toModel.unpack := by
  have hu : x.toModel.unpack = UnpackedFloat.unpack Format.binary64 x.toBits.toBitVec := rfl
  have hs : isMinus (.ofBitVec (@unpackSign Format.binary64 x.toBits.toBitVec)) =
      decide (signBit ≤ x.toBits.toNat) := isMinus_unpackSign _
  have he : (@unpackExponent Format.binary64 x.toBits.toBitVec).toNat = x.toBits.toNat / unit % 0x800 :=
    toNat_unpackExponent _
  have hm : (@unpackMantissa Format.binary64 x.toBits.toBitVec).toNat = x.toBits.toNat % unit :=
    toNat_unpackMantissa _
  have htop : @unpackExponent Format.binary64 x.toBits.toBitVec = -1#_ ↔
      x.toBits.toNat / unit % 0x800 = 0x7ff := by
    rw [← BitVec.toNat_inj, he]
    rfl
  have hlow : @unpackExponent Format.binary64 x.toBits.toBitVec = 0#_ ↔ x.toBits.toNat / unit % 0x800 = 0 := by
    rw [← BitVec.toNat_inj, he]
    rfl
  have hzero : @unpackMantissa Format.binary64 x.toBits.toBitVec = 0#_ ↔ x.toBits.toNat % unit = 0 := by
    rw [← BitVec.toNat_inj, hm]
    rfl
  rw [hu, UnpackedFloat.unpack, ofFloat?]
  simp only [htop, hlow, hzero]
  split
  · split <;> rfl
  · split
    next hl =>
      split
      next hz => simp only [ofUnpacked?, hs, hz]
      next hz =>
        simp only [ofUnpacked?, hs, hm, he, hl]
        rfl
    next hl =>
      have hone : (1#1 ++ @unpackMantissa Format.binary64 x.toBits.toBitVec).toNat =
          unit + x.toBits.toNat % unit := (toNat_append_one _).trans (by rw [hm])
      simp only [ofUnpacked?, hs, he, hone]
      rfl

theorem ofFloat?_canonical {x : Float} {b : Binary64} (h : ofFloat? x = some b) :
    b.mantissa < 2 * unit ∧ (unit ≤ b.mantissa ∨ b.exponent = -1074) := by
  unfold ofFloat? at h
  have hu : 0 < unit := by decide
  have hf := Nat.mod_lt x.toBits.toNat hu
  simp only at h
  split at h
  · cases h
  · split at h <;> cases h
    · exact ⟨by dsimp only; omega, .inr rfl⟩
    · exact ⟨by dsimp only; omega, .inl (Nat.le_add_right _ _)⟩

theorem one_le_top_div_bottom {b : Binary64} (hm : b.mantissa < 2 * unit)
    (hn : unit ≤ b.mantissa ∨ b.exponent = -1074) :
    0 < b.top / b.bottom ↔ -52 < b.exponent ∨ (b.exponent = -52 ∧ unit ≤ b.mantissa) := by
  have hunit : unit = 2 ^ 52 := rfl
  rw [Nat.div_pos_iff, top, bottom, Nat.one_shiftLeft, Nat.shiftLeft_eq]
  by_cases he : b.exponent < 0
  · obtain ⟨k, hk⟩ : ∃ k : Nat, b.exponent = -k := ⟨b.exponent.natAbs, by omega⟩
    have htop : b.exponent.toNat = 0 := by omega
    have hbottom : (-b.exponent).toNat = k := by omega
    have hpos : 0 < 2 ^ k := Nat.two_pow_pos k
    rw [htop, hbottom, Nat.pow_zero, Nat.mul_one]
    rcases Nat.lt_or_ge 52 k with h52 | h52
    · have hp : 2 ^ 53 ≤ 2 ^ k := Nat.pow_le_pow_right (by decide) h52
      omega
    · have hp : 2 ^ k ≤ 2 ^ 52 := Nat.pow_le_pow_right (by decide) h52
      omega
  · have hbottom : (-b.exponent).toNat = 0 := by omega
    have hm' : 0 < b.mantissa * 2 ^ b.exponent.toNat := Nat.mul_pos (by omega) (Nat.two_pow_pos _)
    rw [hbottom]
    omega

end Binary64

namespace Number

open Binary64

theorem lt_iff {x y : Float} : x < y ↔ x.toModel.unpack.lt y.toModel.unpack = true :=
  decide_eq_true_iff

theorem le_iff {x y : Float} : x ≤ y ↔ x.toModel.unpack.le y.toModel.unpack = true :=
  decide_eq_true_iff

theorem unpack_zero : (0.0 : Float).toModel.unpack = .zero .positive := rfl

theorem unpack_one : (1.0 : Float).toModel.unpack = .finite .positive unit (-52) (by decide) := rfl

theorem unpack_neg_one : (-1.0 : Float).toModel.unpack = .finite .negative unit (-52) (by decide) := rfl

section Signs

variable {x : Float}

def side : UnpackedFloat → Option Ordering
  | .infinity .positive => some .gt
  | .infinity .negative => some .lt
  | .notANumber => none
  | .zero _ => some .eq
  | .finite .positive _ _ _ => some .gt
  | .finite .negative _ _ _ => some .lt

theorem compare_zero (u : UnpackedFloat) : u.compare (.zero .positive) = side u := by
  cases u with
  | infinity s => cases s <;> rfl
  | notANumber => rfl
  | zero s => rfl
  | finite s m e h => cases s <;> rfl

theorem zero_compare (u : UnpackedFloat) : (UnpackedFloat.zero .positive).compare u = (side u).map Ordering.swap := by
  cases u with
  | infinity s => cases s <;> rfl
  | notANumber => rfl
  | zero s => rfl
  | finite s m e h => cases s <;> rfl

theorem zero_lt_iff : 0.0 < x ↔ x.toModel.unpack = .infinity .positive ∨
    ∃ m e h, x.toModel.unpack = .finite .positive m e h := by
  rw [lt_iff, unpack_zero, UnpackedFloat.lt, zero_compare]
  cases x.toModel.unpack with
  | infinity s => cases s <;> simp [side]
  | notANumber => simp [side]
  | zero s => simp [side]
  | finite s m e h => cases s <;> simp [side, h]

theorem lt_zero_iff : x < 0.0 ↔ x.toModel.unpack = .infinity .negative ∨
    ∃ m e h, x.toModel.unpack = .finite .negative m e h := by
  rw [lt_iff, unpack_zero, UnpackedFloat.lt, compare_zero]
  cases x.toModel.unpack with
  | infinity s => cases s <;> simp [side]
  | notANumber => simp [side]
  | zero s => simp [side]
  | finite s m e h => cases s <;> simp [side, h]

theorem beq_zero_iff : (x == 0.0) = true ↔ ∃ s, x.toModel.unpack = .zero s := by
  change UnpackedFloat.beq x.toModel.unpack (0.0 : Float).toModel.unpack = true ↔ _
  rw [unpack_zero, UnpackedFloat.beq, compare_zero]
  cases x.toModel.unpack with
  | infinity s => cases s <;> simp [side]
  | notANumber => simp [side]
  | zero s => simp [side]
  | finite s m e h => cases s <;> simp [side]

theorem sign_cases (hx : x.isFinite = true) (hz : (x == 0.0) = false) :
    0.0 < x ∧ ¬x < 0.0 ∨ ¬0.0 < x ∧ x < 0.0 := by
  have hx' : x.toModel.unpack.isFinite = true := hx
  have hz' : ¬∃ s, x.toModel.unpack = .zero s := fun h => by simp [beq_zero_iff.2 h] at hz
  rw [zero_lt_iff, lt_zero_iff]
  cases hu : x.toModel.unpack with
  | infinity s => simp [hu, UnpackedFloat.isFinite] at hx'
  | notANumber => simp [hu, UnpackedFloat.isFinite] at hx'
  | zero s => exact (hz' ⟨s, hu⟩).elim
  | finite s m e h => cases s <;> simp [h]

def truncated : UnpackedFloat → Int
  | .infinity s => s.apply UInt64.size
  | .notANumber => 0
  | .zero _ => 0
  | .finite s m e _ => s.apply ((⟨isMinus s, m, e⟩ : Binary64).top / (⟨isMinus s, m, e⟩ : Binary64).bottom : Nat)

theorem toInt_truncate (x : Float) : toInt truncate x = truncated x.toModel.unpack := by
  have hpos : 0 < x ↔ _ := zero_lt_iff
  have hneg : x < 0 ↔ _ := lt_zero_iff
  unfold toInt
  rw [ofFloat?_eq]
  cases hu : x.toModel.unpack with
  | infinity s => cases s <;> simp [ofUnpacked?, hpos, hneg, hu, truncated, Sign.apply]
  | notANumber => simp [ofUnpacked?, hpos, hneg, hu, truncated]
  | zero s => cases s <;> simp [ofUnpacked?, truncate, signed, top, truncated]
  | finite s m e h => cases s <;> simp [ofUnpacked?, truncate, signed, truncated, isMinus, Sign.apply]

def Beyond (s : Sign) (m : Nat) (e : Int) (u : UnpackedFloat) : Prop :=
  u = .infinity s ∨ ∃ n f h, u = .finite s n f h ∧ (e < f ∨ e = f ∧ m ≤ n)

theorem compare_isLE {m n : Nat} {e f : Int} :
    ((compare e f).then (compare m n)).isLE = true ↔ e < f ∨ e = f ∧ m ≤ n := by
  rw [Ordering.isLE_then_iff_or, Int.compare_eq_lt, Int.compare_eq_eq, Nat.isLE_compare]

theorem finite_le_iff {m : Nat} {e : Int} {h : 0 < m} {u : UnpackedFloat} :
    (UnpackedFloat.finite .positive m e h).le u = true ↔ Beyond .positive m e u := by
  cases u with
  | infinity s =>
    cases s with
    | positive => exact iff_of_true rfl (.inl rfl)
    | negative => exact iff_of_false nofun (by simp [Beyond])
  | notANumber => exact iff_of_false nofun (by simp [Beyond])
  | zero s => exact iff_of_false nofun (by simp [Beyond])
  | finite s n f k =>
    cases s with
    | positive =>
      change ((compare e f).then (compare m n)).isLE = true ↔ _
      simp [Beyond, compare_isLE, k]
    | negative => exact iff_of_false nofun (by simp [Beyond])

theorem le_finite_iff {m : Nat} {e : Int} {h : 0 < m} {u : UnpackedFloat} :
    u.le (UnpackedFloat.finite .negative m e h) = true ↔ Beyond .negative m e u := by
  cases u with
  | infinity s =>
    cases s with
    | positive => exact iff_of_false nofun (by simp [Beyond])
    | negative => exact iff_of_true rfl (.inl rfl)
  | notANumber => exact iff_of_false nofun (by simp [Beyond])
  | zero s => exact iff_of_false nofun (by simp [Beyond])
  | finite s n f k =>
    cases s with
    | positive => exact iff_of_false nofun (by simp [Beyond])
    | negative =>
      change ((compare f e).then (compare n m)).swap.isLE = true ↔ _
      rw [Ordering.swap_then, Int.compare_swap, Nat.compare_swap, compare_isLE]
      simp [Beyond, k]

theorem unit_le_iff {f : Int} {z : Float} (hz : z.toModel.unpack = .finite .positive unit f (by decide)) :
    z ≤ x ↔ Beyond .positive unit f x.toModel.unpack := by
  rw [le_iff, hz, finite_le_iff]

theorem le_neg_unit_iff {f : Int} {z : Float} (hz : z.toModel.unpack = .finite .negative unit f (by decide)) :
    x ≤ z ↔ Beyond .negative unit f x.toModel.unpack := by
  rw [le_iff, hz, le_finite_iff]

theorem truncated_finite {s : Sign} {m : Nat} {e : Int} {h : 0 < m} (hu : x.toModel.unpack = .finite s m e h) :
    ∃ q : Nat, toInt truncate x = s.apply q ∧ (0 < q ↔ -52 < e ∨ (e = -52 ∧ unit ≤ m)) := by
  have hb : ofFloat? x = some ⟨isMinus s, m, e⟩ := by rw [ofFloat?_eq, hu, ofUnpacked?]
  obtain ⟨hm, hn⟩ := ofFloat?_canonical hb
  exact ⟨_, by rw [toInt_truncate, hu, truncated], one_le_top_div_bottom hm hn⟩

theorem beyond_unit_iff {s : Sign} : Beyond s unit (-52) x.toModel.unpack ↔ 0 < s.apply (toInt truncate x) := by
  cases hu : x.toModel.unpack with
  | infinity t => cases s <;> cases t <;> simp [Beyond, toInt_truncate, hu, truncated, Sign.apply]
  | notANumber => cases s <;> simp [Beyond, toInt_truncate, hu, truncated, Sign.apply]
  | zero t => cases s <;> simp [Beyond, toInt_truncate, hu, truncated, Sign.apply]
  | finite t m e h =>
    obtain ⟨q, hq, hone⟩ := truncated_finite hu
    rw [hq]
    cases s <;> cases t <;> simp [Beyond, Sign.apply, h] <;> omega

theorem one_le_iff : 1.0 ≤ x ↔ 0 < toInt truncate x :=
  (unit_le_iff unpack_one).trans beyond_unit_iff

theorem le_neg_one_iff : x ≤ -1.0 ↔ toInt truncate x < 0 :=
  ((le_neg_unit_iff unpack_neg_one).trans beyond_unit_iff).trans Int.neg_pos

theorem zero_lt_of_one_le (h : 1.0 ≤ x) : 0.0 < x := by
  rw [zero_lt_iff]
  exact ((unit_le_iff unpack_one).1 h).imp_right fun ⟨m, e, hm, hu, _⟩ => ⟨m, e, hm, hu⟩

theorem lt_zero_of_le_neg_one (h : x ≤ -1.0) : x < 0.0 := by
  rw [lt_zero_iff]
  exact ((le_neg_unit_iff unpack_neg_one).1 h).imp_right fun ⟨m, e, hm, hu, _⟩ => ⟨m, e, hm, hu⟩

theorem toInt_ofIntClamp (i : Int) :
    (Int64.ofIntClamp i).toInt = max (-9223372036854775808) (min 9223372036854775807 i) := by
  have hmax : Int64.maxValue.toInt = 9223372036854775807 := by decide
  have hmin : Int64.minValue.toInt = -9223372036854775808 := by decide
  unfold Int64.ofIntClamp
  split
  · split
    · rw [Int64.toInt_ofIntLE]
      omega
    · omega
  · omega

theorem toInt64_pos : 0 < toInt64 x ↔ 1.0 ≤ x := by
  rw [Int64.lt_iff_toInt_lt, toInt64, toInt_ofIntClamp, Int64.toInt_zero, one_le_iff]
  omega

theorem toInt64_neg : toInt64 x < 0 ↔ x ≤ -1.0 := by
  rw [Int64.lt_iff_toInt_lt, toInt64, toInt_ofIntClamp, Int64.toInt_zero, le_neg_one_iff]
  omega

end Signs

end Number

theorem Authored.isFinite_value (a : Authored) : a.value.isFinite = true := by
  unfold value value?
  cases h : (Number.float? (Text.trim a.raw)).filter Float.isFinite with
  | none => rfl
  | some x => exact (Option.filter_eq_some_iff.1 h).2

end Scenography
