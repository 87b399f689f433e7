import Mathlib.Data.Prod.Lex
import Mathlib.Order.Compare
import Scenography.Proofs.Doubles

namespace Scenography

open Float.Model Float.Model.UnpackedFloat

namespace Number

section Order

def rank : UnpackedFloat → Int ×ₗ Int ×ₗ Int
  | .infinity _ => toLex (0, toLex (0, 0))
  | .notANumber => toLex (0, toLex (0, 0))
  | .zero _ => toLex (0, toLex (0, 0))
  | .finite .positive m e _ => toLex (1, toLex (e, (m : Int)))
  | .finite .negative m e _ => toLex (-1, toLex (-e, -(m : Int)))

theorem compare_cast (m n : Nat) : compare (m : Int) n = compare m n := by
  rw [← cmp_eq_compare, ← cmp_eq_compare]
  exact Nat.strictMono_cast.cmp_map_eq m n

theorem compare_neg (i j : Int) : compare (-i) (-j) = compare j i := by
  have hneg : StrictAnti fun i : Int => -i := fun _ _ => Int.neg_lt_neg
  rw [← cmp_eq_compare, ← cmp_eq_compare]
  exact hneg.cmp_map_eq i j

theorem compare_toLex {α β : Type} [Ord α] [Ord β] (a c : α) (b d : β) :
    compare (toLex (a, b)) (toLex (c, d)) = (compare a c).then (compare b d) := by
  rw [Prod.Lex.compare_def]
  rfl

theorem compare_eq_rank {u v : UnpackedFloat} (hu : u.isFinite = true) (hv : v.isFinite = true) :
    u.compare v = some (compare (rank u) (rank v)) := by
  cases u with
  | infinity s => cases hu
  | notANumber => cases hu
  | zero s =>
    cases v with
    | infinity t => cases hv
    | notANumber => cases hv
    | zero t => simp [UnpackedFloat.compare, rank]
    | finite t n f k =>
      cases t <;> rw [rank, rank, compare_toLex] <;> rfl
  | finite s m e h =>
    cases v with
    | infinity t => cases hv
    | notANumber => cases hv
    | zero t => cases s <;> rw [rank, rank, compare_toLex] <;> rfl
    | finite t n f k =>
      cases s <;> cases t
      case negative.negative =>
        simp only [UnpackedFloat.compare, rank, compare_toLex, compare_neg, compare_cast, Ordering.swap_then,
          Int.compare_swap, Nat.compare_swap]
        rfl
      case positive.positive =>
        simp only [UnpackedFloat.compare, rank, compare_toLex, compare_cast]
        rfl
      all_goals
        rw [rank, rank, compare_toLex]
        rfl

variable {x y : Float}

theorem lt_iff_rank (hx : x.isFinite = true) (hy : y.isFinite = true) :
    x < y ↔ rank x.toModel.unpack < rank y.toModel.unpack := by
  rw [lt_iff, UnpackedFloat.lt, compare_eq_rank hx hy, ← compare_lt_iff_lt]
  simp

theorem le_iff_rank (hx : x.isFinite = true) (hy : y.isFinite = true) :
    x ≤ y ↔ rank x.toModel.unpack ≤ rank y.toModel.unpack := by
  rw [le_iff, UnpackedFloat.le, compare_eq_rank hx hy, ← compare_le_iff_le]
  simp [Ordering.isLE_iff_ne_gt]

theorem beq_iff_rank (hx : x.isFinite = true) (hy : y.isFinite = true) :
    (x == y) = true ↔ rank x.toModel.unpack = rank y.toModel.unpack := by
  change x.toModel.unpack.beq y.toModel.unpack = true ↔ _
  rw [UnpackedFloat.beq, compare_eq_rank hx hy, beq_iff_eq, Option.some.injEq, compare_eq_iff_eq]

end Order

section Distance

variable {spec : Format}

theorem abs_round (s t : Sign) (m : Nat) (e : Int) :
    (UnpackedFloat.round spec s m e).abs = (UnpackedFloat.round spec t m e).abs := by
  unfold UnpackedFloat.round roundWithAccuracy
  dsimp only
  split <;> rfl

theorem abs_normalize_neg (i e : Int) (s : Sign) :
    (UnpackedFloat.normalize spec (-i) e s).abs = (UnpackedFloat.normalize spec i e s).abs := by
  unfold UnpackedFloat.normalize
  rcases Int.lt_trichotomy i 0 with hi | rfl | hi
  · rw [Int.compare_eq_gt.2 (by omega : 0 < -i), Int.compare_eq_lt.2 hi]
    exact abs_round _ _ _ _
  · rfl
  · rw [Int.compare_eq_lt.2 (by omega : -i < 0), Int.compare_eq_gt.2 hi]
    dsimp only
    rw [Int.neg_neg]
    exact abs_round _ _ _ _

theorem abs_sub_unpacked (u v : UnpackedFloat) :
    (UnpackedFloat.sub spec u v).abs = (UnpackedFloat.sub spec v u).abs := by
  cases u with
  | notANumber => cases v <;> rfl
  | infinity s =>
    cases v with
    | infinity t => cases s <;> cases t <;> rfl
    | notANumber => rfl
    | zero t => rfl
    | finite t n f k => rfl
  | zero s =>
    cases v with
    | infinity t => rfl
    | notANumber => rfl
    | zero t => cases s <;> cases t <;> rfl
    | finite t n f k => rfl
  | finite s m e h =>
    cases v with
    | infinity t => rfl
    | notANumber => rfl
    | zero t => rfl
    | finite t n f k =>
      simp only [UnpackedFloat.sub]
      rw [Int.min_comm f e, ← abs_normalize_neg, Int.neg_sub]

theorem abs_unpack_packComponents (s t : Sign) (e : BitVec spec.exponentBits)
    (m : BitVec spec.mantissaBitsWithoutImplicit) :
    (UnpackedFloat.unpack spec (packComponents spec s e m)).abs =
      (UnpackedFloat.unpack spec (packComponents spec t e m)).abs := by
  simp only [UnpackedFloat.unpack, unpackExponent_packComponents, unpackMantissa_packComponents]
  split
  · split <;> rfl
  · split
    · split <;> rfl
    · rfl

theorem abs_unpack_pack {u v : UnpackedFloat} (h : u.abs = v.abs) :
    (UnpackedFloat.unpack spec (UnpackedFloat.pack spec u)).abs =
      (UnpackedFloat.unpack spec (UnpackedFloat.pack spec v)).abs := by
  cases u <;> cases v <;> cases h
  case notANumber.notANumber => rfl
  case infinity.infinity s t => exact abs_unpack_packComponents _ _ _ _
  case zero.zero s t => exact abs_unpack_packComponents _ _ _ _
  case finite.finite s m e k t =>
    unfold UnpackedFloat.pack
    dsimp only
    split
    · exact abs_unpack_packComponents _ _ _ _
    · split <;> exact abs_unpack_packComponents _ _ _ _

theorem abs_sub_comm (x y : Float) : (x - y).abs = (y - x).abs := by
  have h : (UnpackedFloat.sub .binary64 x.toModel.unpack y.toModel.unpack).abs =
      (UnpackedFloat.sub .binary64 y.toModel.unpack x.toModel.unpack).abs := abs_sub_unpacked _ _
  exact congrArg (fun u => Float.ofModel (.pack u)) (abs_unpack_pack h)

theorem abs_sub_of_rank_eq {u v : UnpackedFloat} (hu : u.isFinite = true) (hv : v.isFinite = true)
    (h : rank u = rank v) : (UnpackedFloat.sub spec u v).abs = .zero .positive := by
  cases u with
  | infinity s => cases hu
  | notANumber => cases hu
  | zero s =>
    cases v with
    | infinity t => cases hv
    | notANumber => cases hv
    | zero t => cases s <;> cases t <;> rfl
    | finite t n f k => cases t <;> simp [rank] at h
  | finite s m e h =>
    cases v with
    | infinity t => cases hv
    | notANumber => cases hv
    | zero t => cases s <;> simp [rank] at h
    | finite t n f k =>
      obtain ⟨rfl, rfl, rfl⟩ : s = t ∧ e = f ∧ m = n := by
        cases s <;> cases t
        case negative.negative => simpa [rank] using h
        case positive.positive => simpa [rank] using h
        all_goals simp [rank] at h
      simp only [UnpackedFloat.sub, Int.sub_self]
      rfl

theorem abs_sub_of_beq {x y : Float} (hx : x.isFinite = true) (hy : y.isFinite = true) (h : (x == y) = true) :
    (x - y).abs = 0.0 := by
  have hsub : (UnpackedFloat.sub .binary64 x.toModel.unpack y.toModel.unpack).abs =
      (UnpackedFloat.zero .positive).abs := abs_sub_of_rank_eq hx hy ((beq_iff_rank hx hy).1 h)
  exact congrArg (fun u => Float.ofModel (.pack u)) (abs_unpack_pack hsub)

end Distance

end Number
end Scenography
