import DocQuery.Decimal.Binary64
import Mathlib.Algebra.Group.Nat.Defs

namespace DocQuery.Binary64

variable {m n num den shift : Nat}

theorem unitsOfCode_add (h : binade ≤ m) (h' : m ≤ 2 * binade) :
    unitsOfCode (shift * binade + m) = m <<< shift := by
  have hb : binade = 0x10000000000000 := rfl
  rw [unitsOfCode, if_neg (by omega)]
  by_cases hm : m = 2 * binade
  · have hd : (shift * binade + m) / binade = shift + 2 := by rw [hm, hb]; omega
    have hr : (shift * binade + m) % binade = 0 := by rw [hm, hb]; omega
    rw [hd, hr, hm, Nat.add_zero, Nat.shiftLeft_eq, Nat.shiftLeft_eq]
    change binade * 2 ^ (shift + 1) = 2 * binade * 2 ^ shift
    rw [Nat.pow_succ, Nat.mul_comm 2 binade, Nat.mul_assoc, Nat.mul_comm 2]
  · have hlt : m < 2 * binade := Nat.lt_of_le_of_ne h' hm
    have hd : (shift * binade + m) / binade = shift + 1 := by rw [hb] at h hlt ⊢; omega
    have hr : (shift * binade + m) % binade = m - binade := by rw [hb] at h hlt ⊢; omega
    rw [hd, hr, Nat.add_sub_cancel, Nat.add_sub_of_le h]

theorem roundedQuotient_of_dvd (h : den ∣ num) (hden : 0 < den) :
    roundedQuotient num den = num / den := by
  have hr : num % den = 0 := Nat.mod_eq_zero_of_dvd h
  simp only [roundedQuotient, hr]
  rw [if_neg (by omega)]

theorem div_le_roundedQuotient (num den : Nat) :
    num / den ≤ roundedQuotient num den ∧ roundedQuotient num den ≤ num / den + 1 := by
  simp only [roundedQuotient]
  split
  · exact ⟨Nat.le_succ _, Nat.le_refl _⟩
  · exact ⟨Nat.le_refl _, Nat.le_succ _⟩

theorem div_two_pow_bounds (h : 2 * binade ≤ num) :
    binade ≤ num / 2 ^ (num.log2 - 52) ∧ num / 2 ^ (num.log2 - 52) < 2 * binade := by
  have h0 : num ≠ 0 := by
    rintro rfl
    simp [binade] at h
  have hl : 53 ≤ num.log2 := (Nat.le_log2 h0).mpr h
  have hlow := Nat.log2_self_le h0
  have hhigh : num < 2 ^ (num.log2 + 1) := Nat.lt_log2_self
  constructor
  · rw [Nat.le_div_iff_mul_le (Nat.two_pow_pos _)]
    calc binade * 2 ^ (num.log2 - 52)
      _ = 2 ^ 52 * 2 ^ (num.log2 - 52) := rfl
      _ = 2 ^ num.log2 := by rw [← Nat.pow_add]; congr 1; omega
      _ ≤ num := hlow
  · rw [Nat.div_lt_iff_lt_mul (Nat.two_pow_pos _)]
    calc num < 2 ^ (num.log2 + 1) := hhigh
      _ = 2 ^ 53 * 2 ^ (num.log2 - 52) := by rw [← Nat.pow_add]; congr 1; omega
      _ = 2 * binade * 2 ^ (num.log2 - 52) := rfl

theorem nearestCode_eq (h : 2 * binade ≤ num) :
    nearestCode num 1 = (num.log2 - 52) * binade + roundedQuotient num (2 ^ (num.log2 - 52)) := by
  rw [nearestCode, Nat.div_one, if_neg (by omega), Nat.one_shiftLeft]

theorem unitsOfCode_nearestCode (h : 2 * binade ≤ num) :
    unitsOfCode (nearestCode num 1) =
      roundedQuotient num (2 ^ (num.log2 - 52)) <<< (num.log2 - 52) := by
  obtain ⟨hlow, hhigh⟩ := div_two_pow_bounds h
  obtain ⟨hle, hlt⟩ := div_le_roundedQuotient num (2 ^ (num.log2 - 52))
  rw [nearestCode_eq h, unitsOfCode_add (by omega) (by omega)]

theorem unitsOfCode_nearestCode_of_dvd (h : 2 * binade ≤ num) (hd : 2 ^ (num.log2 - 52) ∣ num) :
    unitsOfCode (nearestCode num 1) = num := by
  rw [unitsOfCode_nearestCode h, roundedQuotient_of_dvd hd (Nat.two_pow_pos _), Nat.shiftLeft_eq,
    Nat.div_mul_cancel hd]

/-- One is a power of two of units. How many they are does not matter here. -/
theorem exists_unitsInOne : ∃ e, 53 ≤ e ∧ e ≤ 1074 ∧ unitsInOne = 2 ^ e := by
  have h (e : Nat) : 1 <<< e = 2 ^ e := Nat.one_shiftLeft e
  exact ⟨1074, by decide, by decide, h 1074⟩

theorem units_le_of_one_le (h : 1 ≤ n) : 2 * binade ≤ n * unitsInOne := by
  obtain ⟨e, he, -, hu⟩ := exists_unitsInOne
  rw [hu]
  calc 2 * binade
    _ = 2 ^ 53 := rfl
    _ ≤ 2 ^ e := Nat.pow_le_pow_right (by decide) he
    _ ≤ n * 2 ^ e := Nat.le_mul_of_pos_left _ h

theorem units_ne_zero (h : 1 ≤ n) : n * unitsInOne ≠ 0 := by
  have hle := units_le_of_one_le h
  have hb : 0 < 2 * binade := by decide
  omega

/-- The integers up to the first that needs more than fifty-three bits are exact. -/
theorem unitsOfCode_nearestCode_ofNat (h : n ≤ 2 ^ 53) :
    unitsOfCode (nearestCode (n * unitsInOne) 1) = n * unitsInOne := by
  rcases Nat.eq_zero_or_pos n with rfl | hn
  · rw [Nat.zero_mul]
    decide
  · have h0 := units_ne_zero hn
    apply unitsOfCode_nearestCode_of_dvd (units_le_of_one_le hn)
    obtain ⟨e, he, -, hu⟩ := exists_unitsInOne
    rw [hu] at h0 ⊢
    by_cases hm : n = 2 ^ 53
    · rw [hm, ← Nat.pow_add, Nat.log2_two_pow]
      exact Nat.pow_dvd_pow 2 (Nat.sub_le _ _)
    · have hlt : n * 2 ^ e < 2 ^ 53 * 2 ^ e :=
        Nat.mul_lt_mul_of_pos_right (Nat.lt_of_le_of_ne h hm) (Nat.two_pow_pos _)
      rw [← Nat.pow_add, ← Nat.log2_lt h0] at hlt
      have hle : (n * 2 ^ e).log2 - 52 ≤ e := by omega
      exact Nat.dvd_trans (Nat.pow_dvd_pow 2 hle) (Nat.dvd_mul_left _ n)

theorem nearestCode_lt (h : n < 2 ^ 64) : nearestCode (n * unitsInOne) 1 < 0x7FF0000000000000 := by
  rcases Nat.eq_zero_or_pos n with rfl | hn
  · rw [Nat.zero_mul]
    decide
  · have h0 := units_ne_zero hn
    have hb := units_le_of_one_le hn
    obtain ⟨-, hhigh⟩ := div_two_pow_bounds hb
    obtain ⟨-, hlt⟩ := div_le_roundedQuotient (n * unitsInOne) (2 ^ ((n * unitsInOne).log2 - 52))
    have hl : (n * unitsInOne).log2 < 1138 := by
      obtain ⟨e, -, he, hu⟩ := exists_unitsInOne
      rw [hu] at h0 ⊢
      have hlt : n * 2 ^ e < 2 ^ 64 * 2 ^ e := Nat.mul_lt_mul_of_pos_right h (Nat.two_pow_pos _)
      rw [← Nat.pow_add, ← Nat.log2_lt h0] at hlt
      omega
    have hshift : ((n * unitsInOne).log2 - 52) * binade ≤ 1085 * binade :=
      Nat.mul_le_mul_right _ (by omega)
    have hc : binade = 0x10000000000000 := rfl
    rw [nearestCode_eq hb]
    omega

variable {k : Int}

theorem ofInt_eq (h : k.natAbs < 2 ^ 64) :
    ofInt k = ⟨decide (k < 0), nearestCode (k.natAbs * unitsInOne) 1, nearestCode_lt h⟩ := by
  rw [ofInt, ofUnits?, dif_pos (nearestCode_lt h)]
  rfl

end DocQuery.Binary64
