import Scenography.Number.Shortest
import Scenography.Proofs.Doubles

namespace Scenography

namespace Binary64

structure Canonical (b : Binary64) : Prop where
  small : b.mantissa < 2 * unit
  normal : unit ≤ b.mantissa ∨ b.exponent = -1074
  bounded : -1074 ≤ b.exponent

theorem canonical_of_ofFloat? {x : Float} {b : Binary64} (h : ofFloat? x = some b) : b.Canonical := by
  obtain ⟨hsmall, hnormal⟩ := ofFloat?_canonical h
  refine ⟨hsmall, hnormal, ?_⟩
  unfold ofFloat? at h
  dsimp only at h
  split at h
  · cases h
  · split at h <;> cases h
    · exact le_rfl
    · dsimp only
      omega

theorem zpow_mul_pow_toNat {x : ℚ} (hx : x ≠ 0) (i : Int) : x ^ i * x ^ (-i).toNat = x ^ i.toNat := by
  rw [← zpow_natCast, ← zpow_natCast, ← zpow_add₀ hx]
  congr 1
  omega

theorem top_div_bottom (b : Binary64) : (b.top : ℚ) / b.bottom = b.mantissa * 2 ^ b.exponent := by
  have hpow := zpow_mul_pow_toNat (two_ne_zero (α := ℚ)) b.exponent
  have hbottom : (2 : ℚ) ^ (-b.exponent).toNat ≠ 0 := pow_ne_zero _ two_ne_zero
  rw [top, bottom, Nat.shiftLeft_eq, Nat.shiftLeft_eq]
  push_cast
  rw [one_mul, ← hpow, ← mul_assoc, mul_div_assoc, div_self hbottom, mul_one]

end Binary64

def Decimal.value (d : Decimal) : ℚ :=
  d.coefficient * 10 ^ d.exponent

theorem Decimal.value_strip (fuel : Nat) (d : Decimal) : (strip fuel d).value = d.value := by
  induction fuel generalizing d with
  | zero => rfl
  | succ fuel ih =>
    rw [strip]
    split
    next h =>
      have hten : (10 : ℚ) ≠ 0 := by norm_num
      have hdiv : (d.coefficient : ℚ) = ((d.coefficient / 10 : ℕ) : ℚ) * 10 := by
        exact_mod_cast (Nat.div_mul_cancel (Nat.dvd_of_mod_eq_zero h.2)).symm
      rw [ih, value, value, hdiv, zpow_add_one₀ hten, mul_assoc, mul_comm (10 ^ _)]
    next => rfl

namespace Shortest

open Binary64 Decimal

variable {b b' : Binary64} {x : ℚ}

/-- The reals that round to a double; the ends do so for an even mantissa. -/
structure RoundsTo (b : Binary64) (x : ℚ) : Prop where
  low : (4 * b.mantissa - below b) * (2 : ℚ) ^ (b.exponent - 2) ≤ x
  high : x ≤ (4 * b.mantissa + 2) * (2 : ℚ) ^ (b.exponent - 2)
  inside : b.mantissa % 2 = 1 →
    (4 * b.mantissa - below b) * (2 : ℚ) ^ (b.exponent - 2) < x ∧
      x < (4 * b.mantissa + 2) * (2 : ℚ) ^ (b.exponent - 2)

theorem below_cases (b : Binary64) :
    below b = 1 ∧ b.mantissa = unit ∧ -1074 < b.exponent ∨ below b = 2 ∧ ¬(b.mantissa = unit ∧ -1074 < b.exponent) := by
  unfold below
  split
  next h => exact .inl ⟨rfl, h⟩
  next h => exact .inr ⟨rfl, h⟩

theorem below_le (hm : b.mantissa ≠ 0) : below b ≤ 4 * b.mantissa := by
  rcases below_cases b with ⟨h, -⟩ | ⟨h, -⟩ <;> omega

theorem gridAt_scale (b : Binary64) (place : Int) :
    ∃ k : ℚ, 0 < k ∧ ((gridAt b place).unit : ℚ) = 2 ^ (b.exponent - 2) * k ∧
      ((gridAt b place).step : ℚ) = 10 ^ place * k := by
  have htwo := zpow_mul_pow_toNat (two_ne_zero (α := ℚ)) (b.exponent - 2)
  have hten := zpow_mul_pow_toNat (by norm_num : (10 : ℚ) ≠ 0) place
  have hunit : (gridAt b place).unit = 10 ^ (-place).toNat * 2 ^ (b.exponent - 2).toNat := Nat.shiftLeft_eq _ _
  have hstep : (gridAt b place).step = 10 ^ place.toNat * 2 ^ (-(b.exponent - 2)).toNat := Nat.shiftLeft_eq _ _
  refine ⟨2 ^ (-(b.exponent - 2)).toNat * 10 ^ (-place).toNat, by positivity, ?_, ?_⟩
  · rw [hunit, ← mul_assoc, htwo, mul_comm]
    push_cast
    rfl
  · rw [hstep, mul_left_comm, hten, mul_comm]
    push_cast
    rfl

theorem roundsTo_of_holds (hm : b.mantissa ≠ 0) {place : Int} {c : Nat} (h : holds b (gridAt b place) c = true) :
    RoundsTo b (c * 10 ^ place) := by
  obtain ⟨k, hk, hunit, hstep⟩ := gridAt_scale b place
  have hpoint : ((c * (gridAt b place).step : ℕ) : ℚ) = c * 10 ^ place * k := by
    rw [Nat.cast_mul, hstep, mul_assoc]
  have hlow : (((4 * b.mantissa - below b) * (gridAt b place).unit : ℕ) : ℚ) =
      (4 * b.mantissa - below b) * 2 ^ (b.exponent - 2) * k := by
    rw [Nat.cast_mul, hunit, Nat.cast_sub (below_le hm), mul_assoc]
    push_cast
    rfl
  have hhigh : (((4 * b.mantissa + 2) * (gridAt b place).unit : ℕ) : ℚ) =
      (4 * b.mantissa + 2) * 2 ^ (b.exponent - 2) * k := by
    rw [Nat.cast_mul, hunit, mul_assoc]
    push_cast
    rfl
  have hle (i j : ℕ) {p q : ℚ} (hi : (i : ℚ) = p * k) (hj : (j : ℚ) = q * k) : i ≤ j ↔ p ≤ q := by
    rw [← Nat.cast_le (α := ℚ), hi, hj, mul_le_mul_iff_left₀ hk]
  have hlt (i j : ℕ) {p q : ℚ} (hi : (i : ℚ) = p * k) (hj : (j : ℚ) = q * k) : i < j ↔ p < q := by
    rw [← Nat.cast_lt (α := ℚ), hi, hj, mul_lt_mul_iff_left₀ hk]
  unfold holds at h
  dsimp only at h
  split at h
  next heven =>
    rw [Bool.and_eq_true, decide_eq_true_eq, decide_eq_true_eq, hle _ _ hlow hpoint, hle _ _ hpoint hhigh] at h
    exact ⟨h.1, h.2, fun hodd => by omega⟩
  next =>
    rw [Bool.and_eq_true, decide_eq_true_eq, decide_eq_true_eq, hlt _ _ hlow hpoint, hlt _ _ hpoint hhigh] at h
    exact ⟨h.1.le, h.2.le, fun _ => h⟩

section Separation

theorem not_roundsTo_of_lt_mantissa (he : b.exponent = b'.exponent) (hm : b.mantissa < b'.mantissa)
    (h : RoundsTo b x) : ¬RoundsTo b' x := by
  intro h'
  have hu : (0 : ℚ) < 2 ^ (b'.exponent - 2) := by positivity
  have hle : (b.mantissa : ℚ) + 1 ≤ b'.mantissa := by exact_mod_cast hm
  have hbelow : (below b' : ℚ) ≤ 2 := by
    rcases below_cases b' with ⟨h, -⟩ | ⟨h, -⟩ <;> rw [h] <;> norm_num
  have hhigh := h.high
  have hlow := h'.low
  rw [he] at hhigh
  by_cases hnext : b'.mantissa = b.mantissa + 1
  · -- The ends touch, and one of the two neighbours is odd.
    have hends : (4 * (b.mantissa : ℚ) + 2) * 2 ^ (b'.exponent - 2) ≤
        (4 * b'.mantissa - below b') * 2 ^ (b'.exponent - 2) := by
      gcongr
      linarith
    rcases Nat.mod_two_eq_zero_or_one b.mantissa with heven | hodd
    · have := (h'.inside (by omega)).1
      linarith
    · have := (h.inside hodd).2
      rw [he] at this
      linarith
  · have hgap : (b.mantissa : ℚ) + 2 ≤ b'.mantissa := by
      exact_mod_cast (by omega : b.mantissa + 2 ≤ b'.mantissa)
    have hends : (4 * (b.mantissa : ℚ) + 2) * 2 ^ (b'.exponent - 2) <
        (4 * b'.mantissa - below b') * 2 ^ (b'.exponent - 2) := by
      gcongr
      linarith
    linarith

theorem not_roundsTo_of_lt_exponent (hb : b.Canonical) (hb' : b'.Canonical) (he : b.exponent < b'.exponent)
    (h : RoundsTo b x) : ¬RoundsTo b' x := by
  intro h'
  have hunit : unit = 2 ^ 52 := rfl
  have hu : (0 : ℚ) < 2 ^ (b.exponent - 2) := by positivity
  have hdouble : 2 * (2 : ℚ) ^ (b.exponent - 2) ≤ 2 ^ (b'.exponent - 2) := by
    rw [← zpow_one_add₀ two_ne_zero]
    exact zpow_le_zpow_right₀ one_le_two (by omega)
  have hnormal : unit ≤ b'.mantissa := hb'.normal.resolve_right (by have := hb.bounded; omega)
  have hsmall : (b.mantissa : ℚ) + 1 ≤ 2 ^ 53 := by
    exact_mod_cast (by have := hb.small; omega : b.mantissa + 1 ≤ 2 ^ 53)
  have hhigh := h.high
  have hlow := h'.low
  rcases below_cases b' with ⟨hbelow, hm', -⟩ | ⟨hbelow, hm'⟩
  · -- At a power of two the lower end is the upper end of the greatest mantissa before it, which is odd.
    rw [hbelow, hm'] at hlow
    have hend : (2 ^ 55 - 2) * (2 : ℚ) ^ (b.exponent - 2) ≤ (4 * unit - (1 : ℕ)) * 2 ^ (b'.exponent - 2) := by
      calc (2 ^ 55 - 2) * (2 : ℚ) ^ (b.exponent - 2)
          = (4 * unit - (1 : ℕ)) * (2 * 2 ^ (b.exponent - 2)) := by
            rw [hunit]
            push_cast
            ring
        _ ≤ (4 * unit - (1 : ℕ)) * 2 ^ (b'.exponent - 2) := by
            gcongr
            rw [hunit]
            norm_num
    by_cases hlast : b.mantissa + 1 = 2 ^ 53
    · have hodd := (h.inside (by omega)).2
      have hmantissa : (b.mantissa : ℚ) = 2 ^ 53 - 1 := by
        have : (b.mantissa : ℚ) + 1 = 2 ^ 53 := by exact_mod_cast hlast
        linarith
      rw [hmantissa] at hodd
      have hsame : (4 * (2 ^ 53 - 1) + 2 : ℚ) = 2 ^ 55 - 2 := by norm_num
      rw [hsame] at hodd
      linarith
    · have hless : (b.mantissa : ℚ) + 2 ≤ 2 ^ 53 := by
        exact_mod_cast (by have := hb.small; omega : b.mantissa + 2 ≤ 2 ^ 53)
      have hbefore : (4 * (b.mantissa : ℚ) + 2) * 2 ^ (b.exponent - 2) < (2 ^ 55 - 2) * 2 ^ (b.exponent - 2) := by
        gcongr
        linarith
      linarith
  · have hmore : (2 : ℚ) ^ 52 + 1 ≤ b'.mantissa := by
      have hne : b'.mantissa ≠ unit := fun heq => hm' ⟨heq, by have := hb.bounded; omega⟩
      exact_mod_cast (by omega : 2 ^ 52 + 1 ≤ b'.mantissa)
    have hends : (4 * (b.mantissa : ℚ) + 2) * 2 ^ (b.exponent - 2) <
        (4 * b'.mantissa - below b') * 2 ^ (b'.exponent - 2) := by
      calc (4 * (b.mantissa : ℚ) + 2) * 2 ^ (b.exponent - 2)
          < (4 * b'.mantissa - below b') * (2 * 2 ^ (b.exponent - 2)) := by
            rw [hbelow, mul_comm 2, ← mul_assoc, mul_right_comm]
            gcongr
            push_cast
            linarith
        _ ≤ (4 * b'.mantissa - below b') * 2 ^ (b'.exponent - 2) := by
            gcongr
            rw [hbelow]
            push_cast
            linarith
    linarith

theorem RoundsTo.unique (hb : b.Canonical) (hb' : b'.Canonical) (h : RoundsTo b x) (h' : RoundsTo b' x) :
    b.mantissa = b'.mantissa ∧ b.exponent = b'.exponent := by
  have hexponent : b.exponent = b'.exponent := by
    rcases Int.lt_trichotomy b.exponent b'.exponent with hlt | heq | hgt
    · exact (not_roundsTo_of_lt_exponent hb hb' hlt h h').elim
    · exact heq
    · exact (not_roundsTo_of_lt_exponent hb' hb hgt h' h).elim
  refine ⟨?_, hexponent⟩
  rcases Nat.lt_trichotomy b.mantissa b'.mantissa with hlt | heq | hgt
  · exact (not_roundsTo_of_lt_mantissa hexponent hlt h h').elim
  · exact heq
  · exact (not_roundsTo_of_lt_mantissa hexponent.symm hgt h' h).elim

end Separation

section Search

theorem holds_of_neighbour? {g : Grid} {c : Nat} (h : neighbour? b g = some c) : holds b g c = true := by
  unfold neighbour? at h
  dsimp only at h
  split at h
  next hboth =>
    rw [Bool.and_eq_true] at hboth
    obtain rfl := Option.some.inj h
    split
    · exact hboth.1
    · exact hboth.2
  next =>
    split at h
    next hlower => exact Option.some.inj h ▸ hlower
    next =>
      split at h
      next hupper => exact Option.some.inj h ▸ hupper
      next => cases h

theorem neighbour?_isSome {g : Grid} {c : Nat} (hc : c = 4 * b.mantissa * g.unit / g.step)
    (h : holds b g c = true ∨ holds b g (c + 1) = true) : (neighbour? b g).isSome = true := by
  subst hc
  unfold neighbour?
  dsimp only
  split
  · rfl
  · split
    · rfl
    · split
      · rfl
      next hlower hupper => exact (h.elim hlower hupper).elim

theorem holds_of_inside {g : Grid} {c : Nat} (hlow : (4 * b.mantissa - below b) * g.unit < c * g.step)
    (hhigh : c * g.step < (4 * b.mantissa + 2) * g.unit) : holds b g c = true := by
  unfold holds
  dsimp only
  split <;> simp [hlow, hhigh, hlow.le, hhigh.le]

theorem neighbour?_isSome_of_fine (hb : b.Canonical) (hm : b.mantissa ≠ 0) {g : Grid} (hunit : 0 < g.unit)
    (hfine : g.step * 10 ^ 16 ≤ 4 * b.mantissa * g.unit) (hstep : 0 < g.step) : (neighbour? b g).isSome = true := by
  have hsmall : b.mantissa < 2 ^ 53 := hb.small
  have hsplit := Nat.div_add_mod (4 * b.mantissa * g.unit) g.step
  have hrest := Nat.mod_lt (4 * b.mantissa * g.unit) hstep
  obtain ⟨c, hc⟩ : ∃ c, c = 4 * b.mantissa * g.unit / g.step := ⟨_, rfl⟩
  obtain ⟨r, hr⟩ : ∃ r, r = 4 * b.mantissa * g.unit % g.step := ⟨_, rfl⟩
  rw [← hc, ← hr, Nat.mul_comm] at hsplit
  rw [← hr] at hrest
  have hnext : (c + 1) * g.step = c * g.step + g.step := Nat.succ_mul _ _
  have hhigh : (4 * b.mantissa + 2) * g.unit = 4 * b.mantissa * g.unit + 2 * g.unit := Nat.add_mul _ _ _
  have habove : 0 < 2 * g.unit := Nat.mul_pos Nat.two_pos hunit
  have hlow : (4 * b.mantissa - below b) * g.unit = 4 * b.mantissa * g.unit - below b * g.unit := Nat.sub_mul _ _ _
  have hbound : 4 * b.mantissa * g.unit ≤ 4 * 2 ^ 53 * g.unit := Nat.mul_le_mul_right _ (by omega)
  have hleast : below b * g.unit ≤ 4 * b.mantissa * g.unit := Nat.mul_le_mul_right _ (below_le hm)
  apply neighbour?_isSome hc
  by_cases hnear : r < below b * g.unit
  · left
    apply holds_of_inside
    · omega
    · omega
  · right
    have hfar : c * g.step + g.step < 4 * b.mantissa * g.unit + 2 * g.unit := by
      rcases below_cases b with ⟨hbelow, hmantissa, -⟩ | ⟨hbelow, -⟩
      · have hvalue : 4 * b.mantissa * g.unit = 4 * 2 ^ 52 * g.unit := by rw [hmantissa]; rfl
        rw [hbelow] at hnear
        omega
      · rw [hbelow] at hnear
        omega
    apply holds_of_inside
    · omega
    · omega

theorem digitCount_le_iff {n k : Nat} (hk : 0 < k) : digitCount n ≤ k ↔ n < 10 ^ k :=
  Nat.length_toDigits_le_iff (by decide) hk

theorem lt_pow_digitCount (n : Nat) : n < 10 ^ digitCount n :=
  (digitCount_le_iff Nat.length_toDigits_pos).1 le_rfl

theorem pow_digitCount_le {n : Nat} (hn : n ≠ 0) : 10 ^ (digitCount n - 1) ≤ n := by
  by_contra hlt
  rcases Nat.eq_zero_or_pos (digitCount n - 1) with hzero | hpos
  · rw [hzero] at hlt
    omega
  · have := (digitCount_le_iff hpos).2 (not_le.1 hlt)
    omega

theorem top_pos (hm : b.mantissa ≠ 0) : 0 < b.top := by
  rw [top, Nat.shiftLeft_eq]
  exact Nat.mul_pos (Nat.pos_of_ne_zero hm) (Nat.two_pow_pos _)

theorem pow_magnitude_le (hm : b.mantissa ≠ 0) : (10 : ℚ) ^ (magnitude b - 1) ≤ b.mantissa * 2 ^ b.exponent := by
  have htop := top_pos hm
  have hbottom := b.bottom_pos
  rw [← top_div_bottom, le_div_iff₀ (by exact_mod_cast hbottom), magnitude]
  split
  next h =>
    have hquotient : b.top / b.bottom ≠ 0 := (Nat.div_pos h hbottom).ne'
    have hcount : 0 < digitCount (b.top / b.bottom) := Nat.length_toDigits_pos
    have hpow : (digitCount (b.top / b.bottom) : Int) - 1 = (digitCount (b.top / b.bottom) - 1 : ℕ) := by omega
    rw [hpow, zpow_natCast]
    exact_mod_cast (Nat.mul_le_mul_right _ (pow_digitCount_le hquotient)).trans (Nat.div_mul_le_self _ _)
  next h =>
    obtain ⟨q, hq⟩ : ∃ q, q = (b.bottom + b.top - 1) / b.top - 1 := ⟨_, rfl⟩
    have hpow : 1 - (digitCount q : Int) - 1 = -(digitCount q : ℕ) := by omega
    rw [← hq, hpow, zpow_neg, zpow_natCast, inv_mul_le_iff₀ (by positivity)]
    have hceil := Nat.lt_div_mul_add (a := b.bottom + b.top - 1) htop
    have hone : 0 < (b.bottom + b.top - 1) / b.top := Nat.div_pos (by omega) htop
    have hlt := lt_pow_digitCount q
    have hle : b.bottom ≤ (q + 1) * b.top := by
      rw [hq, Nat.sub_add_cancel hone]
      omega
    exact_mod_cast hle.trans (Nat.mul_le_mul_right _ hlt)

theorem gridAt_fine (hm : b.mantissa ≠ 0) :
    (gridAt b (magnitude b - 17)).step * 10 ^ 16 ≤ 4 * b.mantissa * (gridAt b (magnitude b - 17)).unit := by
  obtain ⟨k, hk, hunit, hstep⟩ := gridAt_scale b (magnitude b - 17)
  have hten : (10 : ℚ) ^ (magnitude b - 17) * 10 ^ 16 = 10 ^ (magnitude b - 1) := by
    rw [← zpow_natCast, ← zpow_add₀ (by norm_num)]
    congr 1
    push_cast
    ring
  have htwo : 4 * (2 : ℚ) ^ (b.exponent - 2) = 2 ^ b.exponent := by
    rw [zpow_sub₀ two_ne_zero]
    norm_num
    ring
  rw [← Nat.cast_le (α := ℚ)]
  push_cast
  rw [hunit, hstep]
  calc (10 : ℚ) ^ (magnitude b - 17) * k * 10 ^ 16
      = 10 ^ (magnitude b - 1) * k := by rw [mul_right_comm, hten]
    _ ≤ b.mantissa * 2 ^ b.exponent * k := by
        gcongr
        exact pow_magnitude_le hm
    _ = 4 * b.mantissa * (2 ^ (b.exponent - 2) * k) := by
        rw [← htwo]
        ring

theorem gridAt_unit_pos (b : Binary64) (place : Int) : 0 < (gridAt b place).unit := by
  obtain ⟨k, hk, hunit, -⟩ := gridAt_scale b place
  have : (0 : ℚ) < (gridAt b place).unit := by
    rw [hunit]
    positivity
  exact_mod_cast this

theorem gridAt_step_pos (b : Binary64) (place : Int) : 0 < (gridAt b place).step := by
  obtain ⟨k, hk, -, hstep⟩ := gridAt_scale b place
  have : (0 : ℚ) < (gridAt b place).step := by
    rw [hstep]
    positivity
  exact_mod_cast this

theorem search_roundsTo (hb : b.Canonical) (hm : b.mantissa ≠ 0) {fuel n : Nat} (hn : n ≤ 17) (hfuel : 17 < n + fuel) :
    RoundsTo b (search b (magnitude b) fuel n).value := by
  induction fuel generalizing n with
  | zero => omega
  | succ fuel ih =>
    rw [search]
    cases hc : neighbour? b (gridAt b (magnitude b - n)) with
    | some c => exact roundsTo_of_holds hm (holds_of_neighbour? hc)
    | none =>
      have hne : n ≠ 17 := by
        rintro rfl
        have hsome := neighbour?_isSome_of_fine hb hm (gridAt_unit_pos b _) (gridAt_fine hm) (gridAt_step_pos b _)
        rw [Nat.cast_ofNat] at hc
        rw [hc] at hsome
        cases hsome
      exact ih (by omega) (by omega)

theorem decimal_roundsTo (hb : b.Canonical) (hm : b.mantissa ≠ 0) : RoundsTo b (decimal b).value := by
  rw [decimal, if_neg hm, value_strip]
  exact search_roundsTo hb hm (by decide) (by decide)

end Search

end Shortest

end Scenography
