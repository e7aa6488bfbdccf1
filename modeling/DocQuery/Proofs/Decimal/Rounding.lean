import DocQuery.Proofs.Decimal.Integers
import Mathlib.Algebra.Order.Group.Unbundled.Int

namespace DocQuery.Binary64

variable {m n : Nat}

/-- How far two neighbours among the numbers of fifty-three bits are apart where they are as large
as `n`. -/
def spacing (n : Nat) : Nat := 2 ^ (n.log2 - 52)

/-- The number of fifty-three bits that is nearest to `n`, a tie going to the even neighbour. -/
def rounded (n : Nat) : Nat := roundedQuotient n (spacing n) * spacing n

theorem rounded_eq_self (h : n ≤ 2 ^ 53) : rounded n = n := by
  rcases Nat.lt_or_eq_of_le h with h | rfl
  · have hlog : n.log2 ≤ 52 := by
      rcases Nat.eq_zero_or_pos n with rfl | hn
      · decide
      · exact Nat.le_of_lt_succ ((Nat.log2_lt (Nat.ne_of_gt hn)).mpr h)
    have hspacing : spacing n = 1 := by rw [spacing, Nat.sub_eq_zero_of_le hlog, Nat.pow_zero]
    rw [rounded, hspacing, roundedQuotient_of_dvd (Nat.one_dvd n) Nat.one_pos, Nat.div_one,
      Nat.mul_one]
  · decide

theorem le_rounded (h : 2 ^ 53 ≤ n) : 2 ^ 53 ≤ rounded n := by
  have hlog : 53 ≤ n.log2 := (Nat.le_log2 (by omega)).mpr h
  have hlow : binade ≤ n / spacing n := (div_two_pow_bounds h).1
  calc 2 ^ 53 = binade * 2 ^ 1 := rfl
    _ ≤ binade * 2 ^ (n.log2 - 52) :=
      Nat.mul_le_mul_left _ (Nat.pow_le_pow_right (by decide) (by omega))
    _ ≤ rounded n :=
      Nat.mul_le_mul_right _ (Nat.le_trans hlow (div_le_roundedQuotient n (spacing n)).1)

theorem roundedQuotient_mul_right (num den : Nat) {k : Nat} (hc : 0 < k) :
    roundedQuotient (num * k) (den * k) = roundedQuotient num den := by
  have hlt (a b : Nat) : a * k < b * k ↔ a < b := Nat.mul_lt_mul_right hc
  have heq (a b : Nat) : a * k = b * k ↔ a = b := Nat.mul_left_inj (Nat.ne_of_gt hc)
  simp only [roundedQuotient, Nat.mul_div_mul_right _ _ hc, Nat.mul_mod_mul_right, ← Nat.mul_assoc,
    hlt, heq]

theorem log2_mul_two_pow (h : n ≠ 0) (e : Nat) : (n * 2 ^ e).log2 = n.log2 + e := by
  have h0 : n * 2 ^ e ≠ 0 := Nat.mul_ne_zero h (Nat.ne_of_gt (Nat.two_pow_pos e))
  refine (Nat.log2_eq_iff h0).mpr ⟨?_, ?_⟩
  · rw [Nat.pow_add]
    exact Nat.mul_le_mul_right _ (Nat.log2_self_le h)
  · rw [Nat.add_right_comm, Nat.pow_add]
    exact Nat.mul_lt_mul_of_pos_right Nat.lt_log2_self (Nat.two_pow_pos e)

theorem unitsOfCode_nearestCode_eq (n : Nat) :
    unitsOfCode (nearestCode (n * unitsInOne) 1) = rounded n * unitsInOne := by
  by_cases h : n < 2 ^ 53
  · rw [unitsOfCode_nearestCode_ofNat (Nat.le_of_lt h), rounded_eq_self (Nat.le_of_lt h)]
  · have hn : 1 ≤ n := by omega
    have hlog : 53 ≤ n.log2 := (Nat.le_log2 (by omega)).mpr (Nat.le_of_not_lt h)
    rw [unitsOfCode_nearestCode (units_le_of_one_le hn), rounded, spacing, Nat.shiftLeft_eq]
    obtain ⟨e, -, -, hu⟩ := exists_unitsInOne
    have hshift : (n * 2 ^ e).log2 - 52 = n.log2 - 52 + e := by
      rw [log2_mul_two_pow (by omega)]
      omega
    rw [hu, hshift, Nat.pow_add, roundedQuotient_mul_right _ _ (Nat.two_pow_pos e), Nat.mul_assoc]

theorem unitsOfCode_of_le {c : Nat} (h : binade ≤ c) :
    unitsOfCode c = (binade + c % binade) * 2 ^ (c / binade - 1) := by
  rw [unitsOfCode, if_neg (Nat.not_lt.mpr h), Nat.shiftLeft_eq]

theorem log2_unitsOfCode {c : Nat} (h : binade ≤ c) :
    (unitsOfCode c).log2 = c / binade + 51 := by
  have hb : binade = 2 ^ 52 := rfl
  have hmod : c % binade < binade := Nat.mod_lt _ (by decide)
  have hdiv : 1 ≤ c / binade := (Nat.one_le_div_iff (by decide)).mpr h
  have hlog : (binade + c % binade).log2 = 52 := (Nat.log2_eq_iff (by omega)).mpr (by omega)
  rw [unitsOfCode_of_le h, log2_mul_two_pow (by omega), hlog]
  omega

theorem unitsOfCode_lt_iff (c : Nat) : unitsOfCode c < binade ↔ c < binade := by
  constructor
  · intro h
    by_contra hc
    have hle := Nat.le_mul_of_pos_right (binade + c % binade) (Nat.two_pow_pos (c / binade - 1))
    rw [unitsOfCode_of_le (Nat.not_lt.mp hc)] at h
    omega
  · intro h
    rw [unitsOfCode, if_pos h]
    exact h

theorem unitsOfCode_inj {c d : Nat} (h : unitsOfCode c = unitsOfCode d) : c = d := by
  have hlt := unitsOfCode_lt_iff c
  rw [h, unitsOfCode_lt_iff d] at hlt
  by_cases hc : c < binade
  · rwa [unitsOfCode, unitsOfCode, if_pos hc, if_pos (hlt.mpr hc)] at h
  · have hbc := Nat.not_lt.mp hc
    have hbd := Nat.not_lt.mp (mt hlt.mp hc)
    have hdiv : c / binade = d / binade := by
      have hlog := log2_unitsOfCode hbc
      rw [h, log2_unitsOfCode hbd] at hlog
      exact (Nat.add_right_cancel hlog).symm
    rw [unitsOfCode_of_le hbc, unitsOfCode_of_le hbd, hdiv] at h
    have hmod := Nat.add_left_cancel (Nat.eq_of_mul_eq_mul_right (Nat.two_pow_pos _) h)
    rw [← Nat.div_add_mod c binade, ← Nat.div_add_mod d binade, hdiv, hmod]

theorem nearestCode_eq_iff : nearestCode (m * unitsInOne) 1 = nearestCode (n * unitsInOne) 1 ↔
    rounded m = rounded n := by
  constructor
  · intro h
    have hunits := congrArg unitsOfCode h
    rw [unitsOfCode_nearestCode_eq, unitsOfCode_nearestCode_eq] at hunits
    exact Nat.eq_of_mul_eq_mul_right (by decide) hunits
  · intro h
    refine unitsOfCode_inj ?_
    rw [unitsOfCode_nearestCode_eq, unitsOfCode_nearestCode_eq, h]

variable {j k : Int}

def roundedInt (k : Int) : Int := k.sign * rounded k.natAbs

theorem rounded_eq_zero_iff : rounded n = 0 ↔ n = 0 := by
  constructor
  · intro h
    by_cases hn : n < 2 ^ 53
    · rwa [rounded_eq_self (Nat.le_of_lt hn)] at h
    · have hle := le_rounded (Nat.le_of_not_lt hn)
      omega
  · rintro rfl
    decide

theorem natAbs_roundedInt (k : Int) : (roundedInt k).natAbs = rounded k.natAbs := by
  rw [roundedInt, Int.natAbs_mul, Int.natAbs_natCast]
  by_cases hk : k = 0
  · rw [hk]
    rfl
  · rw [Int.natAbs_sign_of_ne_zero hk, Nat.one_mul]

theorem sign_roundedInt (k : Int) : (roundedInt k).sign = k.sign := by
  rw [roundedInt, Int.sign_mul, Int.sign_sign]
  by_cases hk : k = 0
  · rw [hk, Int.sign_zero, Int.zero_mul]
  · have hpos : 0 < rounded k.natAbs :=
      Nat.pos_of_ne_zero fun h => hk (Int.natAbs_eq_zero.mp (rounded_eq_zero_iff.mp h))
    rw [Int.sign_eq_one_of_pos (Int.natCast_pos.mpr hpos), Int.mul_one]

theorem roundedInt_eq_iff :
    roundedInt j = roundedInt k ↔ rounded j.natAbs = rounded k.natAbs ∧ j.sign = k.sign := by
  constructor
  · intro h
    rw [← natAbs_roundedInt, ← natAbs_roundedInt, ← sign_roundedInt j, ← sign_roundedInt k, h]
    exact ⟨rfl, rfl⟩
  · rintro ⟨habs, hsign⟩
    rw [roundedInt, roundedInt, habs, hsign]

/-- Two integers have one value exactly if they are the same when they are rounded. -/
theorem same_ofInt_iff_roundedInt (hj : j.natAbs < 2 ^ 64) (hk : k.natAbs < 2 ^ 64) :
    (ofInt j).same (ofInt k) = true ↔ roundedInt j = roundedInt k := by
  have hzero (n : Nat) : nearestCode (n * unitsInOne) 1 = 0 ↔ n = 0 := by
    have h0 : nearestCode (0 * unitsInOne) 1 = 0 := by decide
    have h := nearestCode_eq_iff (m := n) (n := 0)
    rwa [h0, rounded_eq_self (n := 0) (by decide), rounded_eq_zero_iff] at h
  rw [ofInt_eq hj, ofInt_eq hk, roundedInt_eq_iff]
  simp only [same, isZero, Bool.and_eq_true, Bool.or_eq_true, beq_iff_eq, nearestCode_eq_iff, hzero,
    decide_eq_decide]
  refine and_congr_right fun habs => ?_
  have hboth : j = 0 ↔ k = 0 := by
    rw [← Int.natAbs_eq_zero, ← rounded_eq_zero_iff, habs, rounded_eq_zero_iff, Int.natAbs_eq_zero]
  have hcases (i : Int) : i < 0 ∧ i.sign = -1 ∨ i = 0 ∧ i.sign = 0 ∨ 0 < i ∧ i.sign = 1 := by
    rcases Int.lt_trichotomy i 0 with h | h | h
    · exact Or.inl ⟨h, Int.sign_eq_neg_one_of_neg h⟩
    · exact Or.inr (Or.inl ⟨h, Int.sign_eq_zero_iff_zero.mpr h⟩)
    · exact Or.inr (Or.inr ⟨h, Int.sign_eq_one_of_pos h⟩)
  have hj := hcases j
  have hk := hcases k
  omega

theorem roundedInt_eq_iff_of_lt (h : j.natAbs < 2 ^ 53 ∨ k.natAbs < 2 ^ 53) :
    roundedInt j = roundedInt k ↔ j = k := by
  have hsmall {m n : Nat} (hm : m < 2 ^ 53) (hmn : rounded m = rounded n) : m = n := by
    rw [rounded_eq_self (Nat.le_of_lt hm)] at hmn
    by_cases hn : n < 2 ^ 53
    · rwa [rounded_eq_self (Nat.le_of_lt hn)] at hmn
    · have hle := le_rounded (Nat.le_of_not_lt hn)
      omega
  constructor
  · intro he
    obtain ⟨habs, hsign⟩ := roundedInt_eq_iff.mp he
    have hj : j.natAbs = k.natAbs := by
      rcases h with h | h
      · exact hsmall h habs
      · exact (hsmall h habs.symm).symm
    rw [← Int.sign_mul_natAbs j, ← Int.sign_mul_natAbs k, hsign, hj]
  · rintro rfl
    rfl

theorem roundedInt_eq_self (h : k.natAbs ≤ 2 ^ 53) : roundedInt k = k := by
  rw [roundedInt, rounded_eq_self h, Int.sign_mul_natAbs]

theorem same_ofInt_iff (hj : j.natAbs < 2 ^ 64) (hk : k.natAbs < 2 ^ 53) :
    (ofInt j).same (ofInt k) = true ↔ j = k :=
  (same_ofInt_iff_roundedInt hj (Nat.lt_trans hk (by decide))).trans (roundedInt_eq_iff_of_lt (Or.inr hk))

theorem same_ofInt_ofInt_iff (hj : j.natAbs ≤ 2 ^ 53) (hk : k.natAbs ≤ 2 ^ 53) :
    (ofInt j).same (ofInt k) = true ↔ j = k := by
  have hbound {i : Int} (hi : i.natAbs ≤ 2 ^ 53) : i.natAbs < 2 ^ 64 :=
    Nat.lt_of_le_of_lt hi (by decide)
  rw [same_ofInt_iff_roundedInt (hbound hj) (hbound hk), roundedInt_eq_self hj, roundedInt_eq_self hk]

end DocQuery.Binary64
