import Mathlib.Algebra.Order.Field.Power
import Mathlib.Data.Rat.Cast.Order
import Mathlib.Tactic.Linarith
import Mathlib.Tactic.NormNum
import Mathlib.Tactic.Ring
import Switchboard.Decimal.Binary64

/-!
# What rounds to a floating point number

A positive number lies within half of the way from a floating point number to one of its neighbours.
The bounds of what rounds to a number are counted in quarters of a unit of its last digit, as below
a power of two the way to the next number is only half as long.  The bounds themselves belong to the
number whose mantissa is even.

So nothing rounds to two numbers.  As a fraction is rounded to a number that it rounds to, it is
rounded to every number that it rounds to.

Main results:

- Definition {lit}`Binary64.RoundsTo`: a number rounds to a mantissa at an exponent.
- Theorem {lit}`Binary64.RoundsTo.unique`: nothing rounds to two numbers.
- Theorem {lit}`Binary64.exists_ofFraction_eq`: a fraction is rounded to what it rounds to.
- Theorem {lit}`Binary64.ofDecimal_of_roundsTo`: a decimal number that rounds to a finite number is
  rounded to it.
- Theorem {lit}`Binary64.ofDecimal_wellFormed`: what decimal numbers are rounded to.
-/

namespace Switchboard

/-! ## Division -/

/-- A rounded quotient is off by at most a half, and by a half only if it is even. -/
theorem roundDiv_bounds (num : Nat) {den : Nat} (h : 0 < den) :
    2 * num ≤ (2 * roundDiv num den + 1) * den ∧
      2 * roundDiv num den * den ≤ 2 * num + den ∧
      (roundDiv num den % 2 = 1 → 2 * num ≠ (2 * roundDiv num den + 1) * den ∧
        2 * roundDiv num den * den ≠ 2 * num + den) := by
  have hmod : num % den < den := Nat.mod_lt num h
  have hnum : num / den * den + num % den = num := Nat.div_add_mod' num den
  have hodd (q : Nat) : (2 * q + 1) * den = 2 * (q * den) + den := by ring
  have heven (q : Nat) : 2 * q * den = 2 * (q * den) := by ring
  have hnext : (num / den + 1) * den = num / den * den + den := by ring
  rw [hodd, heven]
  unfold roundDiv
  dsimp only
  split
  · generalize num / den * den = whole at *
    omega
  · rw [hnext]
    generalize num / den * den = whole at *
    omega

/-- A rounded quotient is within a half of the quotient, and nearer than that if it is odd. -/
theorem roundDiv_near (num : Nat) {den : Nat} (h : 0 < den) :
    (roundDiv num den : ℚ) - 1 / 2 ≤ (num : ℚ) / den ∧
      (num : ℚ) / den ≤ roundDiv num den + 1 / 2 ∧
      (roundDiv num den % 2 = 1 → (roundDiv num den : ℚ) - 1 / 2 ≠ (num : ℚ) / den ∧
        (num : ℚ) / den ≠ roundDiv num den + 1 / 2) := by
  obtain ⟨habove, hbelow, hodd⟩ := roundDiv_bounds num h
  generalize roundDiv num den = q at *
  have hpos : (0 : ℚ) < den := by exact_mod_cast h
  have hnum : (num : ℚ) / den * den = num := div_mul_cancel₀ _ hpos.ne'
  refine ⟨?_, ?_, fun hq => ⟨fun heq => (hodd hq).2 ?_, fun heq => (hodd hq).1 ?_⟩⟩
  · rw [le_div_iff₀ hpos]
    have : (2 * q * den : ℚ) ≤ 2 * num + den := by exact_mod_cast hbelow
    linarith
  · rw [div_le_iff₀ hpos]
    have : (2 * num : ℚ) ≤ (2 * q + 1) * den := by exact_mod_cast habove
    linarith
  · have : (2 * q * den : ℚ) = 2 * num + den := by
      rw [← hnum, ← heq]
      ring
    exact_mod_cast this
  · have : (2 * num : ℚ) = (2 * q + 1) * den := by
      rw [← hnum, heq]
      ring
    exact_mod_cast this

namespace Binary64

/-! ## Scaling -/

/-- A power with a whole exponent as a fraction of natural numbers. -/
theorem zpow_eq_div (base : Nat) (h : base ≠ 0) (k : Int) :
    (base : ℚ) ^ k = ((base ^ k.toNat : Nat) : ℚ) / ((base ^ (-k).toNat : Nat) : ℚ) := by
  have hbase : (base : ℚ) ≠ 0 := Nat.cast_ne_zero.mpr h
  have hsplit : k = (k.toNat : Int) - ((-k).toNat : Int) := by omega
  conv_lhs => rw [hsplit]
  rw [zpow_sub₀ hbase, zpow_natCast, zpow_natCast, Nat.cast_pow, Nat.cast_pow]

theorem scale_den_pos (num : Nat) {den : Nat} (h : 0 < den) (exponent : Int) :
    0 < (scale num den exponent).2 := by
  unfold scale
  split
  · exact Nat.mul_pos h (Nat.pow_pos (by decide))
  · exact h

/-- Scaling divides by a power of two. -/
theorem scale_eq (num : Nat) {den : Nat} (h : 0 < den) (exponent : Int) :
    ((scale num den exponent).1 : ℚ) / (scale num den exponent).2 =
      (num : ℚ) / den * 2 ^ (-exponent) := by
  have hden : (den : ℚ) ≠ 0 := by positivity
  have hpow := zpow_eq_div 2 (by decide) (-exponent)
  unfold scale
  split
  · rename_i hpos
    have hzero : (-exponent).toNat = 0 := by omega
    rw [neg_neg, hzero] at hpow
    norm_num at hpow ⊢
    rw [hpow]
    ring
  · rename_i hneg
    have hzero : exponent.toNat = 0 := by omega
    rw [neg_neg, hzero] at hpow
    norm_num at hpow ⊢
    rw [hpow]
    ring

/-- The size of a fraction is known up to a factor of two from those of its parts. -/
theorem fraction_log2_bounds {num den : Nat} (hnum : 0 < num) (hden : 0 < den) :
    (2 : ℚ) ^ ((num.log2 : Int) - den.log2 - 1) < (num : ℚ) / den ∧
      (num : ℚ) / den < (2 : ℚ) ^ ((num.log2 : Int) - den.log2 + 1) := by
  have htwo : (2 : ℚ) ≠ 0 := by norm_num
  have hposden : (0 : ℚ) < den := by exact_mod_cast hden
  have hnumLow : ((2 : ℚ) ^ (num.log2 : Int)) ≤ num := by
    rw [zpow_natCast]
    exact_mod_cast Nat.log2_self_le hnum.ne'
  have hnumHigh : (num : ℚ) < 2 ^ ((num.log2 : Int) + 1) := by
    exact_mod_cast Nat.lt_log2_self (n := num)
  have hdenLow : ((2 : ℚ) ^ (den.log2 : Int)) ≤ den := by
    rw [zpow_natCast]
    exact_mod_cast Nat.log2_self_le hden.ne'
  have hdenHigh : (den : ℚ) < 2 ^ ((den.log2 : Int) + 1) := by
    exact_mod_cast Nat.lt_log2_self (n := den)
  constructor
  · rw [lt_div_iff₀ hposden]
    calc (2 : ℚ) ^ ((num.log2 : Int) - den.log2 - 1) * den
        < 2 ^ ((num.log2 : Int) - den.log2 - 1) * 2 ^ ((den.log2 : Int) + 1) := by gcongr
      _ = 2 ^ (num.log2 : Int) := by
          rw [← zpow_add₀ htwo]
          congr 1
          ring
      _ ≤ num := hnumLow
  · rw [div_lt_iff₀ hposden]
    calc (num : ℚ) < 2 ^ ((num.log2 : Int) + 1) := hnumHigh
      _ = 2 ^ ((num.log2 : Int) - den.log2 + 1) * 2 ^ (den.log2 : Int) := by
          rw [← zpow_add₀ htwo]
          congr 1
          ring
      _ ≤ 2 ^ ((num.log2 : Int) - den.log2 + 1) * den := by gcongr

/-- The exponent that is tried first leaves 52 or 53 binary digits before the point. -/
theorem scaled_estimate_bounds {num den : Nat} (hnum : 0 < num) (hden : 0 < den) {estimate : Int}
    (h : (num.log2 : Int) - den.log2 - 52 = estimate) :
    (2 : ℚ) ^ 51 < (num : ℚ) / den * 2 ^ (-estimate) ∧
      (num : ℚ) / den * 2 ^ (-estimate) < 2 ^ 53 := by
  have htwo : (2 : ℚ) ≠ 0 := by norm_num
  obtain ⟨hlow, hhigh⟩ := fraction_log2_bounds hnum hden
  constructor
  · calc (2 : ℚ) ^ 51 = 2 ^ ((num.log2 : Int) - den.log2 - 1) * 2 ^ (-estimate) := by
          rw [← zpow_add₀ htwo, ← h, ← zpow_natCast]
          congr 1
          push_cast
          ring
      _ < (num : ℚ) / den * 2 ^ (-estimate) := by gcongr
  · calc (num : ℚ) / den * 2 ^ (-estimate)
        < 2 ^ ((num.log2 : Int) - den.log2 + 1) * 2 ^ (-estimate) := by gcongr
      _ = 2 ^ 53 := by
          rw [← zpow_add₀ htwo, ← h, ← zpow_natCast]
          congr 1
          push_cast
          ring

/-- Whether a scaled fraction is too short is told by its whole part. -/
theorem scaled_lt_iff (num : Nat) {den : Nat} (hden : 0 < den) (exponent : Int) :
    (scale num den exponent).1 / (scale num den exponent).2 < Nat.pow 2 52 ↔
      (num : ℚ) / den * 2 ^ (-exponent) < 2 ^ 52 := by
  have hpos := scale_den_pos num hden exponent
  rw [← scale_eq num hden exponent, Nat.div_lt_iff_lt_mul hpos, div_lt_iff₀ (by positivity)]
  exact_mod_cast Iff.rfl

/-- At the exponent of a fraction, a mantissa has at most 53 binary digits, and no fewer unless the
exponent is the smallest. -/
theorem exponentOf_bounds {num den : Nat} (hnum : 0 < num) (hden : 0 < den) :
    minExponent ≤ exponentOf num den ∧
      (num : ℚ) / den * 2 ^ (-exponentOf num den) < 2 ^ 53 ∧
      ((2 : ℚ) ^ 52 ≤ (num : ℚ) / den * 2 ^ (-exponentOf num den) ∨
        exponentOf num den = minExponent) := by
  unfold exponentOf
  dsimp only
  generalize hestimate : (num.log2 : Int) - den.log2 - 52 = estimate
  obtain ⟨hlow, hhigh⟩ := scaled_estimate_bounds hnum hden hestimate
  generalize hfull : (if (scale num den estimate).1 / (scale num den estimate).2 < Nat.pow 2 52
    then estimate - 1 else estimate) = full
  have hbounds : (2 : ℚ) ^ 52 ≤ (num : ℚ) / den * 2 ^ (-full) ∧
      (num : ℚ) / den * 2 ^ (-full) < 2 ^ 53 := by
    split at hfull
    · rename_i hshort
      have hstep : (num : ℚ) / den * 2 ^ (-(estimate - 1)) =
          2 * ((num : ℚ) / den * 2 ^ (-estimate)) := by
        rw [show -(estimate - 1) = -estimate + 1 by ring, zpow_add_one₀ (by norm_num)]
        ring
      have hlt := (scaled_lt_iff num hden estimate).mp hshort
      rw [← hfull, hstep]
      constructor <;> linarith
    · rename_i hlong
      rw [← hfull]
      exact ⟨not_lt.mp fun hlt => hlong ((scaled_lt_iff num hden estimate).mpr hlt), hhigh⟩
  refine ⟨le_max_left _ _, ?_, ?_⟩
  · calc (num : ℚ) / den * 2 ^ (-max minExponent full)
        ≤ (num : ℚ) / den * 2 ^ (-full) := by
          have hpow : (2 : ℚ) ^ (-max minExponent full) ≤ 2 ^ (-full) :=
            zpow_le_zpow_right₀ (by norm_num) (neg_le_neg (le_max_right _ _))
          exact mul_le_mul_of_nonneg_left hpow (div_nonneg num.cast_nonneg den.cast_nonneg)
      _ < 2 ^ 53 := hbounds.2
  · rcases le_total minExponent full with hle | hle
    · rw [max_eq_right hle]
      exact .inl hbounds.1
    · exact .inr (max_eq_left hle)

/-! ## What rounds to a number -/

/-- A mantissa and an exponent as rounding leaves them: of 53 binary digits, or of fewer at the
smallest exponent. -/
structure Normal (mantissa : Nat) (exponent : Int) : Prop where
  lt : mantissa < 2 ^ 53
  le : minExponent ≤ exponent
  full : 2 ^ 52 ≤ mantissa ∨ exponent = minExponent

/-- The lower bound of what rounds to a mantissa, in quarters of a unit. -/
def lowQuarters (mantissa : Nat) (exponent : Int) : Nat :=
  if mantissa = 2 ^ 52 ∧ minExponent < exponent then 4 * mantissa - 1 else 4 * mantissa - 2

/-- A number in quarters of a unit. -/
def quarters (exponent : Int) (x : ℚ) : ℚ :=
  x * 2 ^ (2 - exponent)

/-- A number lies within what rounds to a mantissa at an exponent, to which the bounds belong only
if the mantissa is even. -/
structure RoundsTo (mantissa : Nat) (exponent : Int) (x : ℚ) : Prop where
  low : (lowQuarters mantissa exponent : ℚ) ≤ quarters exponent x
  high : quarters exponent x ≤ 4 * mantissa + 2
  odd : mantissa % 2 = 1 → (lowQuarters mantissa exponent : ℚ) ≠ quarters exponent x ∧
    quarters exponent x ≠ 4 * mantissa + 2

theorem lowQuarters_bounds (mantissa : Nat) (exponent : Int) :
    4 * mantissa - 2 ≤ lowQuarters mantissa exponent ∧
      lowQuarters mantissa exponent ≤ 4 * mantissa := by
  unfold lowQuarters
  split <;> omega

theorem quarters_of_le {e f : Int} (h : e ≤ f) (x : ℚ) :
    quarters e x = quarters f x * 2 ^ (f - e).toNat := by
  unfold quarters
  rw [mul_assoc, ← zpow_natCast, ← zpow_add₀ (by norm_num)]
  congr 2
  omega

namespace RoundsTo

variable {m n : Nat} {e f : Int} {x : ℚ}

/-- At one exponent, what rounds to a mantissa does not round to a greater one. -/
theorem not_lt_mantissa (h : RoundsTo m e x) (h' : RoundsTo n e x) : ¬ m < n := by
  intro hlt
  have hbound := (lowQuarters_bounds n e).1
  have hle : ((4 * n - 2 : Nat) : ℚ) ≤ quarters e x := le_trans (by exact_mod_cast hbound) h'.low
  have hchain : 4 * n - 2 ≤ 4 * m + 2 := by
    exact_mod_cast hle.trans h.high
  -- Only neighbours can meet, in the bound between them, and one of the two is odd.
  obtain rfl : n = m + 1 := by omega
  have hmeet : quarters e x = 4 * m + 2 := by
    refine le_antisymm h.high ?_
    rw [show 4 * (m + 1) - 2 = 4 * m + 2 by omega] at hle
    exact_mod_cast hle
  rcases Nat.mod_two_eq_zero_or_one m with heven | hodd
  · refine (h'.odd (by omega)).1 (le_antisymm h'.low ?_)
    rw [hmeet]
    exact_mod_cast (show 4 * m + 2 ≤ lowQuarters (m + 1) e by omega)
  · exact (h.odd hodd).2 hmeet

/-- What rounds to a mantissa does not round to one at a greater exponent. -/
theorem not_lt_exponent (h : RoundsTo m e x) (h' : RoundsTo n f x) (hm : Normal m e)
    (hn : Normal n f) : ¬ e < f := by
  intro hlt
  have hfull : 2 ^ 52 ≤ n := hn.full.resolve_right fun heq => by
    have := hm.le
    omega
  have hlow : 2 ^ 54 - 1 ≤ lowQuarters n f := by
    have hmin : minExponent < f := lt_of_le_of_lt hm.le hlt
    unfold lowQuarters
    split
    · omega
    · rename_i hne
      have : n ≠ 2 ^ 52 := fun heq => hne ⟨heq, hmin⟩
      omega
  have hbelow : ((2 ^ 54 - 1 : Nat) : ℚ) ≤ quarters f x := le_trans (by exact_mod_cast hlow) h'.low
  have hpow : (2 : ℚ) ≤ 2 ^ (f - e).toNat := by
    calc (2 : ℚ) = 2 ^ 1 := (pow_one 2).symm
      _ ≤ 2 ^ (f - e).toNat := pow_le_pow_right₀ (by norm_num) (by omega)
  have hdouble : ((2 ^ 55 - 2 : Nat) : ℚ) ≤ quarters e x := by
    rw [quarters_of_le hlt.le]
    norm_num at hbelow ⊢
    nlinarith
  -- The two can only meet where the greatest mantissa ends, which is odd.
  have hmax : 2 ^ 55 - 2 ≤ 4 * m + 2 := by
    exact_mod_cast hdouble.trans h.high
  have hlast : m = 2 ^ 53 - 1 := by
    have := hm.lt
    omega
  subst hlast
  refine (h.odd (by decide)).2 (le_antisymm h.high ?_)
  norm_num at hdouble ⊢
  exact hdouble

/-- Nothing rounds to two numbers. -/
theorem unique (h : RoundsTo m e x) (h' : RoundsTo n f x) (hm : Normal m e) (hn : Normal n f) :
    m = n ∧ e = f := by
  rcases lt_trichotomy e f with hlt | rfl | hlt
  · exact absurd hlt (h.not_lt_exponent h' hm hn)
  · rcases lt_trichotomy m n with hlt | rfl | hlt
    · exact absurd hlt (h.not_lt_mantissa h')
    · exact ⟨rfl, rfl⟩
    · exact absurd hlt (h'.not_lt_mantissa h)
  · exact absurd hlt (h'.not_lt_exponent h hn hm)

end RoundsTo

/-! ## Rounding -/

/-- The number with a mantissa and an exponent, or infinity if the exponent is too large. -/
def capped (negative : Bool) (mantissa : Nat) (exponent : Int) : Binary64 :=
  if exponent ≤ maxExponent then finite negative mantissa exponent else infinite negative

/-- A mantissa within a half of a number is what the number rounds to, unless it is too long. -/
theorem roundsTo_of_near {q : Nat} {e : Int} {x : ℚ}
    (hfull : (2 : ℚ) ^ 52 ≤ x * 2 ^ (-e) ∨ e = minExponent)
    (hbelow : (q : ℚ) - 1 / 2 ≤ x * 2 ^ (-e)) (habove : x * 2 ^ (-e) ≤ q + 1 / 2)
    (hodd : q % 2 = 1 → (q : ℚ) - 1 / 2 ≠ x * 2 ^ (-e) ∧ x * 2 ^ (-e) ≠ q + 1 / 2)
    (hx : 0 ≤ x) : RoundsTo q e x := by
  have hscaled : 0 ≤ x * 2 ^ (-e) := mul_nonneg hx (by positivity)
  have hquarters : quarters e x = 4 * (x * 2 ^ (-e)) := by
    rw [quarters, sub_eq_add_neg, zpow_add₀ (by norm_num)]
    norm_num
    ring
  have hlow : (lowQuarters q e : ℚ) ≤ quarters e x := by
    rw [hquarters]
    unfold lowQuarters
    split
    · rename_i hcase
      have := hfull.resolve_right hcase.2.ne'
      rw [hcase.1]
      norm_num at this ⊢
      linarith
    · rcases Nat.eq_zero_or_pos q with rfl | hpos
      · simpa using hscaled
      · rw [Nat.cast_sub (by omega)]
        push_cast
        linarith
  refine ⟨hlow, ?_, fun hq => ?_⟩
  · rw [hquarters]
    linarith
  · have hlow' : lowQuarters q e = 4 * q - 2 := by
      unfold lowQuarters
      rw [if_neg (by omega)]
    have hcast : ((4 * q - 2 : Nat) : ℚ) = 4 * q - 2 := by
      rw [Nat.cast_sub (by omega)]
      push_cast
      ring
    rw [hlow', hcast, hquarters]
    exact ⟨fun heq => (hodd hq).1 (by linarith), fun heq => (hodd hq).2 (by linarith)⟩

/-- A mantissa that rounding made too long by one digit stands for half of it at the next
exponent. -/
theorem roundsTo_carry {e : Int} {x : ℚ} (hmin : minExponent ≤ e)
    (hbelow : (2 : ℚ) ^ 53 - 1 / 2 ≤ x * 2 ^ (-e)) (habove : x * 2 ^ (-e) < 2 ^ 53) :
    RoundsTo (2 ^ 52) (e + 1) x := by
  have hquarters : quarters (e + 1) x = 2 * (x * 2 ^ (-e)) := by
    rw [quarters, show (2 : Int) - (e + 1) = -e + 1 by ring, zpow_add_one₀ (by norm_num)]
    ring
  have hlow : lowQuarters (2 ^ 52) (e + 1) = 2 ^ 54 - 1 := by
    rw [lowQuarters, if_pos ⟨rfl, by omega⟩]
    rfl
  refine ⟨?_, ?_, fun hodd => absurd hodd (by decide)⟩
  · rw [hlow, hquarters]
    norm_num at hbelow ⊢
    linarith
  · rw [hquarters]
    norm_num at habove ⊢
    linarith

/-- A fraction is rounded to what it rounds to. -/
theorem exists_ofFraction_eq (negative : Bool) {num den : Nat} (hnum : 0 < num) (hden : 0 < den) :
    ∃ mantissa exponent, Normal mantissa exponent ∧
      RoundsTo mantissa exponent ((num : ℚ) / den) ∧
      ofFraction negative num den = capped negative mantissa exponent := by
  obtain ⟨hmin, hhigh, hfull⟩ := exponentOf_bounds hnum hden
  unfold ofFraction
  rw [if_neg hnum.ne']
  dsimp only
  generalize exponentOf num den = e at *
  obtain ⟨hbelow, habove, hodd⟩ := roundDiv_near (scale num den e).1 (scale_den_pos num hden e)
  rw [scale_eq num hden e] at hbelow habove hodd
  generalize roundDiv (scale num den e).1 (scale num den e).2 = q at *
  have hq : q ≤ 2 ^ 53 := by
    have hlt : (q : ℚ) < (2 ^ 53 + 1 : Nat) := by
      push_cast
      linarith
    exact Nat.lt_succ_iff.mp (by exact_mod_cast hlt)
  rcases hq.lt_or_eq with hlt | rfl
  · refine ⟨q, e, ⟨hlt, hmin, hfull.imp_left fun hle => ?_⟩, ?_, if_neg hlt.ne⟩
    · have hle' : ((2 ^ 52 : Nat) : ℚ) < (q + 1 : Nat) := by
        push_cast
        linarith
      exact Nat.lt_succ_iff.mp (by exact_mod_cast hle')
    · exact roundsTo_of_near hfull hbelow habove hodd
        (div_nonneg (Nat.cast_nonneg num) (Nat.cast_nonneg den))
  · refine ⟨2 ^ 52, e + 1, ⟨by decide, by omega, .inl le_rfl⟩, ?_, if_pos rfl⟩
    exact roundsTo_carry hmin (by exact_mod_cast hbelow) hhigh

/-- What rounds to a finite number is rounded to it. -/
theorem ofFraction_of_roundsTo (negative : Bool) {num den m : Nat} {e : Int} (hnum : 0 < num)
    (hden : 0 < den) (hm : Normal m e) (he : e ≤ maxExponent)
    (h : RoundsTo m e ((num : ℚ) / den)) : ofFraction negative num den = finite negative m e := by
  obtain ⟨n, f, hn, hround, heq⟩ := exists_ofFraction_eq negative hnum hden
  obtain ⟨rfl, rfl⟩ := h.unique hround hm hn
  rw [heq]
  exact if_pos he

/-! ## The numbers that rounding gives -/

/-- A number as rounding gives it. -/
def WellFormed : Binary64 → Prop
  | finite _ mantissa exponent => Normal mantissa exponent ∧ exponent ≤ maxExponent
  | infinite _ => True
  | notANumber => True

theorem normal_zero : Normal 0 minExponent :=
  ⟨by decide, le_rfl, .inr rfl⟩

theorem ofFraction_wellFormed (negative : Bool) (num : Nat) {den : Nat} (hden : 0 < den) :
    (ofFraction negative num den).WellFormed := by
  rcases Nat.eq_zero_or_pos num with rfl | hnum
  · exact ⟨normal_zero, by decide⟩
  · obtain ⟨m, e, hm, -, heq⟩ := exists_ofFraction_eq negative hnum hden
    rw [heq, capped]
    split
    · rename_i he
      exact ⟨hm, he⟩
    · exact trivial

theorem ofDecimal_wellFormed (negative : Bool) (digits : Nat) (power : Int) :
    (ofDecimal negative digits power).WellFormed := by
  unfold ofDecimal
  dsimp only
  split
  · exact ⟨normal_zero, by decide⟩
  · split
    · exact trivial
    · split
      · exact ⟨normal_zero, by decide⟩
      · split
        · exact ofFraction_wellFormed negative _ (by decide)
        · exact ofFraction_wellFormed negative digits (Nat.pow_pos (by decide))

/-! ## Decimal numbers -/

/-- What rounds to a finite number other than zero is not too small and not too large. -/
theorem RoundsTo.bounds {m : Nat} {e : Int} {x : ℚ} (h : RoundsTo m e x) (hm : Normal m e)
    (he : e ≤ maxExponent) (hpos : 0 < m) :
    (2 : ℚ) ^ (-1075 : Int) ≤ x ∧ x ≤ (2 : ℚ) ^ (1024 : Int) := by
  have htwo : (2 : ℚ) ≠ 0 := by norm_num
  have hx : x = quarters e x * 2 ^ (e - 2) := by
    rw [quarters, mul_assoc, ← zpow_add₀ htwo, show 2 - e + (e - 2) = 0 by ring, zpow_zero, mul_one]
  constructor
  · have hlow : (2 : ℚ) ≤ quarters e x := by
      refine le_trans ?_ h.low
      have := (lowQuarters_bounds m e).1
      exact_mod_cast (show 2 ≤ lowQuarters m e by omega)
    calc (2 : ℚ) ^ (-1075 : Int) = 2 * 2 ^ (-1076 : Int) := by
          rw [← zpow_one_add₀ htwo]
          rfl
      _ ≤ quarters e x * 2 ^ (e - 2) := by
          have hmin : (-1074 : Int) ≤ e := hm.le
          gcongr
          · norm_num
          · omega
      _ = x := hx.symm
  · have hhigh : quarters e x ≤ 2 ^ (55 : Int) := by
      refine le_trans h.high ?_
      have := hm.lt
      exact_mod_cast (show 4 * m + 2 ≤ 2 ^ 55 by omega)
    calc x = quarters e x * 2 ^ (e - 2) := hx
      _ ≤ 2 ^ (55 : Int) * 2 ^ (969 : Int) := by
          have hmax : e ≤ 971 := he
          gcongr
          · norm_num
          · omega
      _ = (2 : ℚ) ^ (1024 : Int) := by
          rw [← zpow_add₀ htwo]
          rfl

/-- A number has as many digits as tell between which powers of ten it lies. -/
theorem pow_length_toDigits_bounds {digits : Nat} (h : 0 < digits) :
    10 ^ ((Nat.toDigits 10 digits).length - 1) ≤ digits ∧
      digits < 10 ^ (Nat.toDigits 10 digits).length := by
  have hlength : 0 < (Nat.toDigits 10 digits).length := Nat.length_toDigits_pos
  refine ⟨?_, (Nat.length_toDigits_le_iff (by decide) hlength).mp le_rfl⟩
  by_contra hlt
  rcases Nat.eq_zero_or_pos ((Nat.toDigits 10 digits).length - 1) with hone | hmore
  · rw [hone] at hlt
    omega
  · have := (Nat.length_toDigits_le_iff (by decide) hmore).mpr (not_le.mp hlt)
    omega

/-- The size of a decimal number is known from the number of its digits. -/
theorem decimal_bounds {digits : Nat} (h : 0 < digits) (power : Int) :
    (10 : ℚ) ^ (power + (Nat.toDigits 10 digits).length - 1) ≤ digits * 10 ^ power ∧
      (digits : ℚ) * 10 ^ power < 10 ^ (power + (Nat.toDigits 10 digits).length) := by
  have hten : (10 : ℚ) ≠ 0 := by norm_num
  obtain ⟨hlow, hhigh⟩ := pow_length_toDigits_bounds h
  have hlength : 0 < (Nat.toDigits 10 digits).length := Nat.length_toDigits_pos
  generalize (Nat.toDigits 10 digits).length = size at *
  constructor
  · calc (10 : ℚ) ^ (power + size - 1) = ((10 ^ (size - 1) : Nat) : ℚ) * 10 ^ power := by
          rw [Nat.cast_pow, Nat.cast_ofNat, ← zpow_natCast, ← zpow_add₀ hten]
          congr 1
          omega
      _ ≤ digits * 10 ^ power := by gcongr
  · calc (digits : ℚ) * 10 ^ power < ((10 ^ size : Nat) : ℚ) * 10 ^ power := by gcongr
      _ = 10 ^ (power + size) := by
          rw [Nat.cast_pow, Nat.cast_ofNat, ← zpow_natCast, ← zpow_add₀ hten, add_comm]

theorem two_zpow_lt_ten_zpow : (2 : ℚ) ^ (1075 : Int) < 10 ^ (325 : Int) := by
  have hpow : (2 : ℚ) ^ (43 : Int) < 10 ^ (13 : Int) := by norm_num
  calc (2 : ℚ) ^ (1075 : Int) = (2 ^ (43 : Int)) ^ (25 : Int) := zpow_mul 2 43 25
    _ < (10 ^ (13 : Int)) ^ (25 : Int) := zpow_lt_zpow_left₀ (by decide) (by positivity) hpow
    _ = 10 ^ (325 : Int) := (zpow_mul 10 13 25).symm

/-- A decimal number that rounds to a finite number is rounded to it. -/
theorem ofDecimal_of_roundsTo (negative : Bool) {digits m : Nat} {power e : Int}
    (hdigits : 0 < digits) (hm : Normal m e) (he : e ≤ maxExponent) (hpos : 0 < m)
    (h : RoundsTo m e (digits * 10 ^ power)) :
    ofDecimal negative digits power = finite negative m e := by
  obtain ⟨hsmall, hlarge⟩ := h.bounds hm he hpos
  obtain ⟨hlow, hhigh⟩ := decimal_bounds hdigits power
  have hten : (1 : ℚ) ≤ 10 := by norm_num
  unfold ofDecimal
  dsimp only
  generalize ((Nat.toDigits 10 digits).length : Int) = size at *
  have hnotLarge : ¬ power + size > 400 := by
    intro hgt
    have hbeyond : (2 : ℚ) ^ (1024 : Int) < 10 ^ (400 : Int) :=
      ((zpow_le_zpow_right₀ (by norm_num) (by decide)).trans_lt two_zpow_lt_ten_zpow).trans_le
        (zpow_le_zpow_right₀ hten (by decide))
    have hpow : (10 : ℚ) ^ (400 : Int) ≤ 10 ^ (power + size - 1) :=
      zpow_le_zpow_right₀ hten (by omega)
    exact absurd (hpow.trans (hlow.trans hlarge)) (not_le.mpr hbeyond)
  have hnotSmall : ¬ power + size < -400 := by
    intro hlt
    have hbeyond : (10 : ℚ) ^ (-401 : Int) ≤ 2 ^ (-1075 : Int) := by
      rw [zpow_neg, zpow_neg]
      gcongr
      exact two_zpow_lt_ten_zpow.le.trans (zpow_le_zpow_right₀ hten (by decide))
    have hpow : (10 : ℚ) ^ (power + size) ≤ 10 ^ (-401 : Int) :=
      zpow_le_zpow_right₀ hten (by omega)
    exact absurd (hsmall.trans_lt (hhigh.trans_le hpow)) (not_lt.mpr hbeyond)
  have hpower := zpow_eq_div 10 (by decide) power
  rw [Nat.cast_ofNat] at hpower
  rw [if_neg hdigits.ne', if_neg hnotLarge, if_neg hnotSmall]
  split
  · refine ofFraction_of_roundsTo negative (Nat.mul_pos hdigits (Nat.pow_pos (by decide)))
      Nat.one_pos hm he ?_
    rw [hpower, show (-power).toNat = 0 by omega] at h
    simpa using h
  · refine ofFraction_of_roundsTo negative hdigits (Nat.pow_pos (by decide)) hm he ?_
    rw [hpower, show power.toNat = 0 by omega] at h
    simpa [div_eq_mul_inv] using h

end Binary64
end Switchboard
