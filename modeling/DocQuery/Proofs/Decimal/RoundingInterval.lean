import DocQuery.Decimal.Shortest
import DocQuery.Proofs.Decimal.Rounding
import Mathlib.Algebra.Order.Field.Power
import Mathlib.Tactic.Positivity
import Mathlib.Tactic.Ring

namespace DocQuery

namespace Binary64

theorem exists_code {c : Nat} (h : binade ≤ c) :
    ∃ shift m, c = shift * binade + m ∧ binade ≤ m ∧ m < 2 * binade := by
  have hb : binade = 0x10000000000000 := rfl
  refine ⟨c / binade - 1, binade + c % binade, ?_, ?_, ?_⟩
  · rw [hb] at h ⊢
    omega
  · exact Nat.le_add_right _ _
  · have hmod : c % binade < binade := Nat.mod_lt c (by decide)
    omega

theorem unitsOfCode_lt_succ (c : Nat) : unitsOfCode c < unitsOfCode (c + 1) := by
  by_cases h : c < binade
  · have hlt : unitsOfCode c < binade := (unitsOfCode_lt_iff c).mpr h
    by_cases hs : c + 1 < binade
    · rw [unitsOfCode, unitsOfCode, if_pos h, if_pos hs]
      exact Nat.lt_succ_self c
    · exact Nat.lt_of_lt_of_le hlt (Nat.not_lt.mp (mt (unitsOfCode_lt_iff (c + 1)).mp hs))
  · obtain ⟨shift, m, rfl, hm, hm'⟩ := exists_code (Nat.not_lt.mp h)
    rw [Nat.add_assoc, unitsOfCode_add hm (Nat.le_of_lt hm'),
      unitsOfCode_add (Nat.le_succ_of_le hm) hm', Nat.shiftLeft_eq, Nat.shiftLeft_eq]
    exact Nat.mul_lt_mul_of_pos_right (Nat.lt_succ_self m) (Nat.two_pow_pos shift)

theorem unitsOfCode_strictMono : StrictMono unitsOfCode :=
  strictMono_nat_of_lt_succ unitsOfCode_lt_succ

end Binary64

namespace Decimal

open Binary64

def Scientific.value (s : Scientific) : ℚ := s.digits * 10 ^ s.exponent

namespace RoundingInterval

variable {r : RoundingInterval} {x : ℚ} {c d : Nat}

/-- The real `x` rounds to the value. -/
structure Contains (r : RoundingInterval) (x : ℚ) : Prop where
  lower_le : (r.lower : ℚ) ≤ x * (2 * unitsInOne : Nat)
  le_upper : x * (2 * unitsInOne : Nat) ≤ r.upper
  inside : r.closed = false →
    (r.lower : ℚ) ≠ x * (2 * unitsInOne : Nat) ∧ x * (2 * unitsInOne : Nat) ≠ r.upper

theorem ten_zpow_mul (e : Int) :
    (10 : ℚ) ^ e * ((if e < 0 then Nat.pow 10 e.natAbs else 1 : Nat) : ℚ) =
      ((if e < 0 then 1 else Nat.pow 10 e.natAbs : Nat) : ℚ) := by
  have hpow : ((Nat.pow 10 e.natAbs : Nat) : ℚ) = 10 ^ (e.natAbs : Int) := by
    rw [zpow_natCast]
    exact_mod_cast rfl
  split
  · have he : (e.natAbs : Int) = -e := by omega
    rw [hpow, he, ← zpow_add₀ (by decide), add_neg_cancel, zpow_zero, Nat.cast_one]
  · have he : (e.natAbs : Int) = e := by omega
    rw [hpow, he, Nat.cast_one, mul_one]

theorem has_iff {scale point : Nat} (hscale : 0 < scale)
    (hx : x * (2 * unitsInOne : Nat) * scale = (point : ℚ)) :
    r.has scale point = true ↔ r.Contains x := by
  have hpos : (0 : ℚ) < scale := Nat.cast_pos.mpr hscale
  have hle (n : Nat) : n * scale ≤ point ↔ (n : ℚ) ≤ x * (2 * unitsInOne : Nat) := by
    rw [← mul_le_mul_iff_of_pos_right hpos, hx]
    exact_mod_cast Iff.rfl
  have hge (n : Nat) : point ≤ n * scale ↔ x * (2 * unitsInOne : Nat) ≤ n := by
    rw [← mul_le_mul_iff_of_pos_right hpos, hx]
    exact_mod_cast Iff.rfl
  have hlt (n : Nat) : n * scale < point ↔
      (n : ℚ) ≤ x * (2 * unitsInOne : Nat) ∧ (n : ℚ) ≠ x * (2 * unitsInOne : Nat) := by
    rw [← not_le, hge, not_le, lt_iff_le_and_ne]
  have hgt (n : Nat) : point < n * scale ↔
      x * (2 * unitsInOne : Nat) ≤ n ∧ x * (2 * unitsInOne : Nat) ≠ n := by
    rw [← not_le, hle, not_le, lt_iff_le_and_ne]
  rw [has]
  cases hc : r.closed with
  | true =>
      rw [if_pos rfl, decide_eq_true_iff, hle, hge]
      exact ⟨fun h => ⟨h.1, h.2, by simp [hc]⟩, fun h => ⟨h.lower_le, h.le_upper⟩⟩
  | false =>
      rw [if_neg Bool.false_ne_true, decide_eq_true_iff, hlt, hgt]
      exact ⟨fun h => ⟨h.1.1, h.2.1, fun _ => ⟨h.1.2, h.2.2⟩⟩,
        fun h => ⟨⟨h.lower_le, (h.inside hc).1⟩, ⟨h.le_upper, (h.inside hc).2⟩⟩⟩

theorem contains_of_onGrid? {e : Int} {k : Nat} (h : r.onGrid? e = some k) :
    r.Contains (k * 10 ^ e) := by
  have hgrid (n : Nat) : r.has (if e < 0 then Nat.pow 10 e.natAbs else 1)
      (n * ((if e < 0 then 1 else Nat.pow 10 e.natAbs) * (2 * unitsInOne))) = true ↔
        r.Contains (n * 10 ^ e) := by
    apply has_iff
    · split
      · exact Nat.pow_pos (by decide)
      · exact Nat.one_pos
    · rw [Nat.cast_mul n, Nat.cast_mul _ (2 * unitsInOne), ← ten_zpow_mul e]
      ring
  unfold onGrid? at h
  extract_lets scale step below rest at h
  split at h
  · cases h
  · rename_i hbelow _
    rw [← Option.some.inj h]
    exact (hgrid below).mp hbelow
  · rename_i _ habove
    rw [← Option.some.inj h]
    exact (hgrid (below + 1)).mp habove
  · rename_i hbelow habove
    split at h
    · rw [← Option.some.inj h]
      exact (hgrid (below + 1)).mp habove
    · rw [← Option.some.inj h]
      exact (hgrid below).mp hbelow

theorem contains_coarsest (hfine : (r.onGrid? (-324)).isSome) (n : Nat) :
    r.Contains (r.coarsest n).value := by
  induction n with
  | zero =>
      obtain ⟨k, hk⟩ := Option.isSome_iff_exists.mp hfine
      have h := contains_of_onGrid? hk
      rw [coarsest, hk]
      exact h
  | succ n ih =>
      rw [coarsest]
      split
      · rename_i k hk
        exact contains_of_onGrid? hk
      · exact ih

theorem ofCode_bounds (h : c ≠ 0) :
    (ofCode c).lower < (ofCode c).value ∧ (ofCode c).value < (ofCode c).upper := by
  have hlower := unitsOfCode_strictMono (Nat.sub_one_lt h)
  have hupper := unitsOfCode_lt_succ c
  simp only [ofCode]
  omega

theorem has_below (hlower : r.lower < r.value) (hupper : r.value < r.upper) {scale step : Nat}
    (hpos : 0 < step) (hstep : step ≤ scale) :
    r.has scale (r.value * scale / step * step) = true := by
  have hdiv : r.value * scale / step * step ≤ r.value * scale := Nat.div_mul_le_self _ _
  have hrest : r.value * scale < r.value * scale / step * step + step := Nat.lt_div_mul_add hpos
  have hbelow : r.lower * scale + scale ≤ r.value * scale := by
    rw [← Nat.succ_mul]
    exact Nat.mul_le_mul_right scale hlower
  have habove : r.value * scale < r.upper * scale :=
    Nat.mul_lt_mul_of_pos_right hupper (Nat.lt_of_lt_of_le hpos hstep)
  rw [has]
  split
  · rw [decide_eq_true_iff]
    omega
  · rw [decide_eq_true_iff]
    omega

theorem onGrid?_isSome (hlower : r.lower < r.value) (hupper : r.value < r.upper) {e : Int}
    (he : e < 0) (hfine : 1 * (2 * unitsInOne) ≤ Nat.pow 10 e.natAbs) : (r.onGrid? e).isSome := by
  have hpos : 0 < 1 * (2 * unitsInOne) := by decide
  have hhas := has_below hlower hupper hpos hfine
  simp only [onGrid?, if_pos he, hhas]
  split
  · rename_i hf _
    cases hf
  · rfl
  · rfl
  · split <;> rfl

/-- No real rounds to the values of two codes. An end that two intervals share belongs to the one
of the even code. -/
theorem eq_of_contains_ofCode (hc : (ofCode c).Contains x) (hd : (ofCode d).Contains x) : c = d := by
  by_contra hne
  wlog hlt : c < d generalizing c d
  · exact this hd hc (Ne.symm hne) (by omega)
  have hmono := unitsOfCode_strictMono.monotone
  have hleft : unitsOfCode c ≤ unitsOfCode (d - 1) := hmono (by omega)
  have hright : unitsOfCode (c + 1) ≤ unitsOfCode d := hmono hlt
  have hends : ((ofCode d).lower : ℚ) ≤ (ofCode c).upper := hd.lower_le.trans hc.le_upper
  have hshared : (ofCode c).upper = (ofCode d).lower := by
    have hle : (ofCode d).lower ≤ (ofCode c).upper := by exact_mod_cast hends
    simp only [ofCode] at hle ⊢
    omega
  have hnext : c = d - 1 := by
    apply unitsOfCode_inj
    simp only [ofCode] at hshared
    omega
  have hend : x * (2 * unitsInOne : Nat) = (ofCode c).upper :=
    le_antisymm hc.le_upper (by rw [hshared]; exact hd.lower_le)
  -- neighbours share an end, which only the even one of them has
  have hclosed : (ofCode c).closed = true := by
    by_contra h
    exact (hc.inside (Bool.eq_false_iff.mpr h)).2 hend
  have hclosed' : (ofCode d).closed = true := by
    by_contra h
    exact (hd.inside (Bool.eq_false_iff.mpr h)).1 (by rw [hend, hshared])
  simp only [ofCode, beq_iff_eq] at hclosed hclosed'
  omega

theorem pos_of_contains_ofCode (h : c ≠ 0) (hx : (ofCode c).Contains x) : 0 < x := by
  have hunits : 0 < unitsOfCode c := Nat.zero_lt_of_lt (unitsOfCode_strictMono (Nat.pos_of_ne_zero h))
  have hlower : 0 < (ofCode c).lower := Nat.add_pos_right _ hunits
  have hpos : (0 : ℚ) < x * (2 * unitsInOne : Nat) :=
    lt_of_lt_of_le (Nat.cast_pos.mpr hlower) hx.lower_le
  exact pos_of_mul_pos_left hpos (Nat.cast_nonneg _)

theorem contains_shortest (h : c ≠ 0) : (ofCode c).Contains (shortest c).value := by
  obtain ⟨hlower, hupper⟩ := ofCode_bounds h
  apply contains_coarsest
  exact onGrid?_isSome hlower hupper (by decide) (by decide +kernel)

end RoundingInterval

end Decimal

end DocQuery
