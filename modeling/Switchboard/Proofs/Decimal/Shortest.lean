import Switchboard.Proofs.Decimal.Rounding

/-!
# The shortest decimal number

The shortest decimal number is looked for on grids that get ten times finer with every step.  Of
each grid only the two points around a number are tried.  A grid whose unit is less than half of the
way to the next number has a point beyond the number that rounds to it, and the search goes on for
long enough to come to such a grid.  So it always finds a decimal number that rounds to the number.

Main results:

- Theorem {lit}`Binary64.interval_holds_iff`: the points that are tried are held against what rounds
  to the number.
- Theorem {lit}`Binary64.roundsTo_shortest`: the shortest decimal number rounds to the number.
- Theorem {lit}`Binary64.ofDecimal_of_eq_shortest`: it is rounded to the number again.
-/

namespace Switchboard
namespace Binary64

variable {m : Nat} {e : Int}

/-! ## Points of a grid -/

/-- A fraction in quarters of a unit as a fraction of natural numbers. -/
theorem quarters_fraction (num den : Nat) (e : Int) :
    quarters e ((num : ℚ) / den) =
      ((num * 2 ^ (2 - e).toNat : Nat) : ℚ) / ((2 ^ (e - 2).toNat * den : Nat) : ℚ) := by
  have hpow := zpow_eq_div 2 (by decide) (2 - e)
  rw [Nat.cast_ofNat, neg_sub] at hpow
  rw [quarters, hpow, div_mul_div_comm]
  push_cast
  ring

section
variable (num : Nat) {den : Nat} (hden : 0 < den) (bound : Nat) (e : Int)
include hden

/-- A fraction in quarters of a unit is compared with a natural number without a division. -/
theorem natCast_le_quarters_iff :
    (bound : ℚ) ≤ quarters e ((num : ℚ) / den) ↔
      bound * 2 ^ (e - 2).toNat * den ≤ num * 2 ^ (2 - e).toNat := by
  have hpos : 0 < 2 ^ (e - 2).toNat * den := Nat.mul_pos (Nat.pow_pos (by decide)) hden
  rw [quarters_fraction, le_div_iff₀ (by exact_mod_cast hpos), mul_assoc]
  exact_mod_cast Iff.rfl

theorem quarters_le_natCast_iff :
    quarters e ((num : ℚ) / den) ≤ bound ↔
      num * 2 ^ (2 - e).toNat ≤ bound * 2 ^ (e - 2).toNat * den := by
  have hpos : 0 < 2 ^ (e - 2).toNat * den := Nat.mul_pos (Nat.pow_pos (by decide)) hden
  rw [quarters_fraction, div_le_iff₀ (by exact_mod_cast hpos), mul_assoc]
  exact_mod_cast Iff.rfl

end

/-- The points within the interval of a number are those that round to it. -/
theorem interval_holds_iff (unitNum : Nat) {unitDen : Nat} (hden : 0 < unitDen) (count : Nat) :
    (interval m e).holds unitNum unitDen count = true ↔
      RoundsTo m e (((count * unitNum : Nat) : ℚ) / unitDen) := by
  have hlow := natCast_le_quarters_iff (count * unitNum) hden (lowQuarters m e) e
  have hhigh := quarters_le_natCast_iff (count * unitNum) hden (4 * m + 2) e
  have hlow' := (quarters_le_natCast_iff (count * unitNum) hden (lowQuarters m e) e).not
  have hhigh' := (natCast_le_quarters_iff (count * unitNum) hden (4 * m + 2) e).not
  rw [not_le, not_le] at hlow' hhigh'
  have hcast : ((4 * m + 2 : Nat) : ℚ) = 4 * m + 2 := by norm_num
  rw [hcast] at hhigh hhigh'
  generalize hx : ((count * unitNum : Nat) : ℚ) / unitDen = x at *
  rcases Nat.mod_two_eq_zero_or_one m with heven | hodd
  · have hholds : (interval m e).holds unitNum unitDen count = true ↔
        lowQuarters m e * 2 ^ (e - 2).toNat * unitDen ≤ count * unitNum * 2 ^ (2 - e).toNat ∧
          count * unitNum * 2 ^ (2 - e).toNat ≤ (4 * m + 2) * 2 ^ (e - 2).toNat * unitDen := by
      simp [Interval.holds, interval, lowQuarters, heven]
    rw [hholds, ← hlow, ← hhigh]
    exact ⟨fun h => ⟨h.1, h.2, fun hodd => by omega⟩, fun h => ⟨h.low, h.high⟩⟩
  · have hholds : (interval m e).holds unitNum unitDen count = true ↔
        lowQuarters m e * 2 ^ (e - 2).toNat * unitDen < count * unitNum * 2 ^ (2 - e).toNat ∧
          count * unitNum * 2 ^ (2 - e).toNat < (4 * m + 2) * 2 ^ (e - 2).toNat * unitDen := by
      simp [Interval.holds, interval, lowQuarters, hodd]
    rw [hholds, ← hlow', ← hhigh']
    refine ⟨fun h => ⟨h.1.le, h.2.le, fun _ => ⟨h.1.ne, h.2.ne⟩⟩, fun h => ?_⟩
    exact ⟨h.low.lt_of_ne (h.odd hodd).1, h.high.lt_of_ne (h.odd hodd).2⟩

/-- The nearest point of a grid is one that rounds to the number. -/
theorem Interval.holds_of_nearest {i : Interval} {unitNum unitDen count : Nat}
    (h : i.nearest unitNum unitDen = some count) : i.holds unitNum unitDen count = true := by
  unfold nearest at h
  dsimp only at h
  split at h
  · rename_i hbelow habove
    split at h
    · cases h
      exact hbelow
    · cases h
      exact habove
  · rename_i hbelow habove
    cases h
    exact hbelow
  · rename_i hbelow habove
    cases h
    exact habove
  · cases h

theorem roundsTo_of_between {x : ℚ} (hlow : 4 * m < quarters e x)
    (hhigh : quarters e x < 4 * m + 2) : RoundsTo m e x := by
  have hbound : (lowQuarters m e : ℚ) ≤ 4 * m := by
    exact_mod_cast (lowQuarters_bounds m e).2
  have hlow' := hbound.trans_lt hlow
  exact ⟨hlow'.le, hhigh.le, fun _ => ⟨hlow'.ne, hhigh.ne⟩⟩

/-- On a grid whose unit is smaller than half of the way to the next number, the first point beyond
a number rounds to the number. -/
theorem holds_next_point {unitNum unitDen : Nat} (hnum : 0 < unitNum) (hden : 0 < unitDen)
    (hunit : quarters e ((unitNum : ℚ) / unitDen) < 2) :
    (interval m e).holds unitNum unitDen
      ((interval m e).value * unitDen / (unitNum * (interval m e).denominator) + 1) = true := by
  have hsmall : unitNum * 2 ^ (2 - e).toNat < 2 * 2 ^ (e - 2).toNat * unitDen := by
    have hnot := (natCast_le_quarters_iff unitNum hden 2 e).not.mp (not_le.mpr hunit)
    exact not_le.mp hnot
  have hpos : 0 < unitNum * 2 ^ (2 - e).toNat := Nat.mul_pos hnum (Nat.pow_pos (by decide))
  have hvalue : (interval m e).value = 4 * m * 2 ^ (e - 2).toNat := rfl
  have hdown : (interval m e).denominator = 2 ^ (2 - e).toNat := rfl
  rw [interval_holds_iff unitNum hden, hvalue, hdown]
  have hbeyond := Nat.lt_div_mul_add hpos (a := 4 * m * 2 ^ (e - 2).toNat * unitDen)
  have hwithin := Nat.div_mul_le_self (4 * m * 2 ^ (e - 2).toNat * unitDen)
    (unitNum * 2 ^ (2 - e).toNat)
  generalize 4 * m * 2 ^ (e - 2).toNat * unitDen / (unitNum * 2 ^ (2 - e).toNat) = below at *
  have hpoint : (below + 1) * unitNum * 2 ^ (2 - e).toNat =
      below * (unitNum * 2 ^ (2 - e).toNat) + unitNum * 2 ^ (2 - e).toNat := by ring
  refine roundsTo_of_between ?_ ?_
  · have hlt := (quarters_le_natCast_iff ((below + 1) * unitNum) hden (4 * m) e).not
    rw [not_le, hpoint] at hlt
    exact_mod_cast hlt.mpr (not_le.mpr hbeyond)
  · have hlt := (natCast_le_quarters_iff ((below + 1) * unitNum) hden (4 * m + 2) e).not
    have hnext : (4 * m + 2) * 2 ^ (e - 2).toNat * unitDen =
        4 * m * 2 ^ (e - 2).toNat * unitDen + 2 * 2 ^ (e - 2).toNat * unitDen := by ring
    rw [not_le, hpoint, hnext] at hlt
    exact_mod_cast hlt.mpr (by omega)

/-- A grid that is fine enough has a nearest point. -/
theorem isSome_nearest {unitNum unitDen : Nat} (hnum : 0 < unitNum) (hden : 0 < unitDen)
    (hunit : quarters e ((unitNum : ℚ) / unitDen) < 2) :
    ((interval m e).nearest unitNum unitDen).isSome = true := by
  unfold Interval.nearest
  dsimp only
  rw [holds_next_point hnum hden hunit]
  generalize (interval m e).holds unitNum unitDen _ = below
  cases below <;> rfl

/-! ## The search -/

/-- The power of ten is the fraction that stands for it. -/
theorem tenPower_eq (power : Int) :
    ((tenPower power).1 : ℚ) / (tenPower power).2 = 10 ^ power := by
  have hpow := zpow_eq_div 10 (by decide) power
  rw [Nat.cast_ofNat] at hpow
  rw [hpow]
  rfl

theorem tenPower_pos (power : Int) : 0 < (tenPower power).1 ∧ 0 < (tenPower power).2 :=
  ⟨Nat.pow_pos (by decide), Nat.pow_pos (by decide)⟩

/-- A search that comes past a grid with a nearest point ends at such a grid. -/
theorem nearest_searchGrid {i : Interval} {grids : Nat} {power target : Int}
    (hlow : power - grids < target) (hhigh : target ≤ power)
    (h : (i.nearest (tenPower target).1 (tenPower target).2).isSome = true) :
    i.nearest (tenPower (searchGrid i grids power).2).1
        (tenPower (searchGrid i grids power).2).2 =
      some (searchGrid i grids power).1 := by
  induction grids generalizing power with
  | zero => omega
  | succ grids ih =>
    rw [searchGrid]
    split
    · rename_i digits hdigits
      exact hdigits
    · rename_i hnone
      have hne : target ≠ power := by
        rintro rfl
        rw [hnone] at h
        cases h
      exact ih (by push_cast at hlow; omega) (by omega)

/-- The shortest decimal number rounds to the number. -/
theorem roundsTo_shortest (hm : Normal m e) :
    RoundsTo m e ((shortest m e).1 * 10 ^ (shortest m e).2) := by
  have htwo : (2 : ℚ) ≠ 0 := by norm_num
  have hfine : quarters e (((tenPower (-325)).1 : ℚ) / (tenPower (-325)).2) < 2 := by
    rw [tenPower_eq]
    calc quarters e ((10 : ℚ) ^ (-325 : Int))
        ≤ 10 ^ (-325 : Int) * 2 ^ (1076 : Int) := by
          have hmin : (-1074 : Int) ≤ e := hm.le
          unfold quarters
          gcongr
          · norm_num
          · omega
      _ < 10 ^ (-325 : Int) * (2 * 10 ^ (325 : Int)) := by
          rw [show (1076 : Int) = 1 + 1075 from rfl, zpow_one_add₀ htwo]
          gcongr
          exact two_zpow_lt_ten_zpow
      _ = 2 := by
          rw [mul_left_comm, ← zpow_add₀ (by norm_num), neg_add_cancel, zpow_zero, mul_one]
  have hsome : ((interval m e).nearest (tenPower (-325)).1 (tenPower (-325)).2).isSome = true :=
    isSome_nearest (tenPower_pos _).1 (tenPower_pos _).2 hfine
  have hnearest : (interval m e).nearest (tenPower (shortest m e).2).1
      (tenPower (shortest m e).2).2 = some (shortest m e).1 :=
    nearest_searchGrid (by decide) (by decide) hsome
  have hholds := (interval_holds_iff _ (tenPower_pos _).2 _).mp
    (Interval.holds_of_nearest hnearest)
  rw [Nat.cast_mul, mul_div_assoc, tenPower_eq] at hholds
  exact hholds

/-- The shortest decimal number of a number other than zero is rounded to the number. -/
theorem ofDecimal_of_eq_shortest (negative : Bool) {digits : Nat} {power : Int} (hm : Normal m e)
    (he : e ≤ maxExponent) (hpos : 0 < m)
    (h : (digits : ℚ) * 10 ^ power = (shortest m e).1 * 10 ^ (shortest m e).2) :
    ofDecimal negative digits power = finite negative m e := by
  have hround := roundsTo_shortest hm
  rw [← h] at hround
  have hdigits : digits ≠ 0 := by
    rintro rfl
    have hlow : (0 : ℚ) < (0 : Nat) * 10 ^ power :=
      (zpow_pos (by norm_num) _).trans_le (hround.bounds hm he hpos).1
    rw [Nat.cast_zero, zero_mul] at hlow
    exact lt_irrefl 0 hlow
  exact ofDecimal_of_roundsTo negative (Nat.pos_of_ne_zero hdigits) hm he hpos hround

end Binary64
end Switchboard
