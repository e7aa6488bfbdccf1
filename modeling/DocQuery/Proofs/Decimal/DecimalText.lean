import DocQuery.Json.Text
import DocQuery.Proofs.Decimal.RoundingInterval
import DocQuery.Text.Natural
import Mathlib.Tactic.FieldSimp

namespace DocQuery

namespace Text

theorem natOfDigits_append (cs ds : List Char) :
    natOfDigits (cs ++ ds) = natOfDigits cs * 10 ^ ds.length + natOfDigits ds := by
  induction ds using List.reverseRecOn with
  | nil => simp [natOfDigits]
  | append_singleton ds d ih =>
      have hlast (es : List Char) : natOfDigits (es ++ [d]) = natOfDigits es * 10 + digitValue d := by
        rw [natOfDigits, List.foldl_append]
        rfl
      rw [← List.append_assoc, hlast, hlast, ih, List.length_append, List.length_singleton, Nat.pow_succ]
      ring

theorem natOfDigits_replicate_zero (n : Nat) : natOfDigits (List.replicate n '0') = 0 := by
  induction n with
  | zero => rfl
  | succ n ih =>
      rw [List.replicate_succ', natOfDigits_append, ih]
      rfl

end Text

namespace Decimal

open Text (natOfDigits natOfDigits_append natOfDigits_replicate_zero natOfDigits_toDigits)

/-- A decimal as it is written: digits, behind a period some more of them, behind an `e` a power of
ten. -/
structure Parts where
  whole : List Char
  fraction : Option (List Char)
  power : Option Int

namespace Parts

def pointText : Option (List Char) → List Char
  | some ds => '.' :: ds
  | none => []

def powerText : Option Int → List Char
  | some n => 'e' :: (if n < 0 then '-' else '+') :: Nat.toDigits 10 n.natAbs
  | none => []

def text (p : Parts) : List Char :=
  p.whole ++ (pointText p.fraction ++ powerText p.power)

def digits (p : Parts) : List Char := p.whole ++ p.fraction.getD []

def value (p : Parts) : ℚ :=
  natOfDigits p.digits * 10 ^ (p.power.getD 0 - ((p.fraction.getD []).length : Int))

structure Valid (p : Parts) : Prop where
  digits : ∀ d ∈ p.digits, d.isDigit = true
  whole : p.whole ≠ []
  marked : p.fraction ≠ none ∨ p.power ≠ none

end Parts

def readPower : List Char → Int
  | 'e' :: '-' :: ds => -(natOfDigits ds : Int)
  | 'e' :: _ :: ds => natOfDigits ds
  | _ => 0

/-- The value of a decimal, by its text. -/
def readDecimal (cs : List Char) : ℚ :=
  let mantissa := cs.takeWhile (· != 'e')
  let whole := mantissa.takeWhile (· != '.')
  let fraction := (mantissa.dropWhile (· != '.')).tail
  natOfDigits (whole ++ fraction) * 10 ^ (readPower (cs.dropWhile (· != 'e')) - (fraction.length : Int))

theorem readPower_powerText (power : Option Int) : readPower (Parts.powerText power) = power.getD 0 := by
  cases power with
  | none => rfl
  | some n =>
      rw [Parts.powerText]
      by_cases h : n < 0
      · rw [if_pos h, readPower, natOfDigits_toDigits, Option.getD_some]
        omega
      · rw [if_neg h, readPower, natOfDigits_toDigits, Option.getD_some]
        · omega
        · decide

theorem bne_of_isDigit {d c : Char} (hd : d.isDigit = true) (hc : c.isDigit = false) :
    (d != c) = true := by
  apply bne_iff_ne.mpr
  rintro rfl
  rw [hd] at hc
  cases hc

theorem Parts.Valid.readDecimal_text {p : Parts} (h : p.Valid) : readDecimal p.text = p.value := by
  obtain ⟨whole, fraction, power⟩ := p
  have hwhole : ∀ d ∈ whole, (d != '.') = true := fun d hd =>
    bne_of_isDigit (h.digits d (List.mem_append_left _ hd)) rfl
  have hmantissa : ∀ c ∈ whole ++ pointText fraction, (c != 'e') = true := by
    intro c hc
    rcases List.mem_append.mp hc with hc | hc
    · exact bne_of_isDigit (h.digits c (List.mem_append_left _ hc)) rfl
    · cases fraction with
      | none => cases hc
      | some ds =>
          rcases List.mem_cons.mp hc with rfl | hc
          · rfl
          · exact bne_of_isDigit (h.digits c (List.mem_append_right _ hc)) rfl
  have hpower : (powerText power).takeWhile (· != 'e') = [] ∧
      (powerText power).dropWhile (· != 'e') = powerText power := by
    cases power <;> exact ⟨rfl, rfl⟩
  have hpoint : (pointText fraction).takeWhile (· != '.') = [] ∧
      (pointText fraction).dropWhile (· != '.') = pointText fraction := by
    cases fraction <;> exact ⟨rfl, rfl⟩
  have htail : (pointText fraction).tail = fraction.getD [] := by
    cases fraction <;> rfl
  rw [readDecimal, text, ← List.append_assoc, List.takeWhile_append_of_pos hmantissa,
    List.dropWhile_append_of_pos hmantissa, hpower.1, hpower.2, List.append_nil,
    List.takeWhile_append_of_pos hwhole, List.dropWhile_append_of_pos hwhole, hpoint.1, hpoint.2,
    List.append_nil, htail, readPower_powerText]
  rfl

section Layouts

variable {ds : List Char}

theorem isDigit_of_mem_replicate {n : Nat} {d : Char} (h : d ∈ List.replicate n '0') :
    d.isDigit = true := by
  rw [List.eq_of_mem_replicate h]
  rfl

theorem Parts.round (hds : ∀ d ∈ ds, d.isDigit = true) (hne : ds ≠ []) (n : Nat) :
    let p : Parts := ⟨ds ++ List.replicate n '0', some ['0'], none⟩
    p.Valid ∧ p.value = natOfDigits ds * 10 ^ (n : Int) := by
  refine ⟨⟨?_, ?_, Or.inl (by simp)⟩, ?_⟩
  · intro d hd
    simp only [digits, Option.getD_some, List.mem_append, List.mem_singleton] at hd
    rcases hd with (hd | hd) | rfl
    · exact hds d hd
    · exact isDigit_of_mem_replicate hd
    · rfl
  · exact List.append_ne_nil_of_left_ne_nil hne _
  · have hzero : natOfDigits ['0'] = 0 := rfl
    simp only [value, digits, Option.getD_some, Option.getD_none, natOfDigits_append,
      natOfDigits_replicate_zero, hzero, List.length_replicate, List.length_singleton, Nat.add_zero]
    push_cast
    rw [zpow_natCast, mul_assoc, mul_assoc, zpow_neg_one]
    field_simp

theorem Parts.pointed (hds : ∀ d ∈ ds, d.isDigit = true) (hne : ds ≠ []) (n : Nat) :
    let p : Parts := ⟨ds.take (n + 1), some (ds.drop (n + 1)), none⟩
    p.Valid ∧ p.value = natOfDigits ds * 10 ^ (-((ds.length - (n + 1) : Nat) : Int)) := by
  refine ⟨⟨?_, ?_, Or.inl (by simp)⟩, ?_⟩
  · simpa only [digits, Option.getD_some, List.take_append_drop] using hds
  · simpa using hne
  · simp only [value, digits, Option.getD_some, Option.getD_none, List.take_append_drop,
      List.length_drop, zero_sub]

theorem Parts.small (hds : ∀ d ∈ ds, d.isDigit = true) (n : Nat) :
    let p : Parts := ⟨['0'], some (List.replicate n '0' ++ ds), none⟩
    p.Valid ∧ p.value = natOfDigits ds * 10 ^ (-((n + ds.length : Nat) : Int)) := by
  refine ⟨⟨?_, by simp, Or.inl (by simp)⟩, ?_⟩
  · intro d hd
    simp only [digits, Option.getD_some, List.mem_append, List.mem_singleton] at hd
    rcases hd with rfl | hd | hd
    · rfl
    · exact isDigit_of_mem_replicate hd
    · exact hds d hd
  · have hzero : natOfDigits ['0'] = 0 := rfl
    simp only [value, digits, Option.getD_some, Option.getD_none, natOfDigits_append,
      natOfDigits_replicate_zero, hzero, List.length_append, List.length_replicate, zero_sub,
      Nat.zero_mul, Nat.zero_add]

theorem Parts.scientific (hds : ∀ d ∈ ds, d.isDigit = true) (hne : ds ≠ []) (n : Int) :
    let p : Parts := ⟨ds.take 1, if ds.length ≤ 1 then none else some (ds.drop 1), some n⟩
    p.Valid ∧ p.value = natOfDigits ds * 10 ^ (n - ((ds.length - 1 : Nat) : Int)) := by
  have hdigits : ds.take 1 ++ (if ds.length ≤ 1 then none else some (ds.drop 1)).getD [] = ds := by
    split
    · rename_i h
      rw [Option.getD_none, List.append_nil, List.take_of_length_le h]
    · rw [Option.getD_some, List.take_append_drop]
  have hlength : ((if ds.length ≤ 1 then none else some (ds.drop 1)).getD []).length =
      ds.length - 1 := by
    split
    · rw [Option.getD_none, List.length_nil]
      omega
    · rw [Option.getD_some, List.length_drop]
  refine ⟨⟨?_, ?_, Or.inr (by simp)⟩, ?_⟩
  · simpa only [digits, hdigits] using hds
  · simpa using hne
  · simp only [value, digits, hdigits, hlength, Option.getD_some]

end Layouts

namespace Parts.Valid

variable {p : Parts}

theorem exists_head (h : p.Valid) : ∃ d ds, p.text = d :: ds ∧ d.isDigit = true := by
  obtain ⟨d, ds, hd⟩ := List.exists_cons_of_ne_nil h.whole
  refine ⟨d, ds ++ (pointText p.fraction ++ powerText p.power), ?_, ?_⟩
  · rw [text, hd]
    rfl
  · apply h.digits
    rw [Parts.digits, hd]
    exact List.mem_append_left _ List.mem_cons_self

theorem marked_text (h : p.Valid) : '.' ∈ p.text ∨ 'e' ∈ p.text := by
  obtain ⟨whole, fraction, power⟩ := p
  rcases h.marked with hf | hp
  · obtain ⟨ds, rfl⟩ := Option.ne_none_iff_exists'.mp hf
    exact Or.inl (List.mem_append_right _ (List.mem_append_left _ List.mem_cons_self))
  · obtain ⟨n, rfl⟩ := Option.ne_none_iff_exists'.mp hp
    exact Or.inr (List.mem_append_right _ (List.mem_append_right _ List.mem_cons_self))

theorem mem_text (h : p.Valid) {c : Char} (hc : c ∈ p.text) :
    c.isDigit = true ∨ c ∈ ['.', 'e', '-', '+'] := by
  obtain ⟨whole, fraction, power⟩ := p
  rw [text, List.mem_append, List.mem_append] at hc
  rcases hc with hc | hc | hc
  · exact Or.inl (h.digits c (List.mem_append_left _ hc))
  · cases fraction with
    | none => cases hc
    | some ds =>
        rcases List.mem_cons.mp hc with rfl | hc
        · exact Or.inr (by decide)
        · exact Or.inl (h.digits c (List.mem_append_right _ hc))
  · cases power with
    | none => cases hc
    | some n =>
        rcases List.mem_cons.mp hc with rfl | hc
        · exact Or.inr (by decide)
        · rcases List.mem_cons.mp hc with rfl | hc
          · refine Or.inr ?_
            split <;> decide
          · exact Or.inl (Nat.isDigit_of_mem_toDigits (by decide) (by decide) hc)

end Parts.Valid

theorem Layout.exists_parts (layout : Layout) (s : Scientific) :
    ∃ p : Parts, (layout.text s).toList = p.text ∧ p.Valid ∧ p.value = s.value := by
  have hdigits : ∀ d ∈ Nat.toDigits 10 s.digits, d.isDigit = true := fun d hd =>
    Nat.isDigit_of_mem_toDigits (by decide) (by decide) hd
  have hne : Nat.toDigits 10 s.digits ≠ [] := Nat.toDigits_ne_nil
  have hvalue := natOfDigits_toDigits s.digits
  unfold Layout.text
  extract_lets ds lead whole fraction sign
  have hlead : lead = (ds.length : Int) - 1 + s.exponent := rfl
  change ∀ d ∈ ds, d.isDigit = true at hdigits
  change ds ≠ [] at hne
  change natOfDigits ds = s.digits at hvalue
  clear_value lead ds
  have hlength := List.length_pos_of_ne_nil hne
  -- the four layouts, by where the period stands
  by_cases hplain : layout.least ≤ lead ∧ lead ≤ layout.greatest
  · rw [if_pos hplain]
    by_cases hround : 0 ≤ s.exponent
    · obtain ⟨hvalid, hv⟩ := Parts.round hdigits hne s.exponent.toNat
      refine ⟨_, ?_, hvalid, ?_⟩
      · simp [hround, Parts.text, Parts.pointText, Parts.powerText]
      · rw [hv, hvalue, Int.toNat_of_nonneg hround]
        rfl
    · rw [if_neg hround]
      by_cases hlarge : 0 ≤ lead
      · obtain ⟨hvalid, hv⟩ := Parts.pointed hdigits hne lead.toNat
        refine ⟨_, ?_, hvalid, ?_⟩
        · simp [hlarge, Parts.text, Parts.pointText, Parts.powerText, whole]
        · rw [hv, hvalue, Scientific.value]
          congr 2
          omega
      · obtain ⟨hvalid, hv⟩ := Parts.small hdigits (-lead - 1).toNat
        refine ⟨_, ?_, hvalid, ?_⟩
        · simp [hlarge, Parts.text, Parts.pointText, Parts.powerText]
        · rw [hv, hvalue, Scientific.value]
          congr 2
          omega
  · rw [if_neg hplain]
    obtain ⟨hvalid, hv⟩ := Parts.scientific hdigits hne lead
    refine ⟨_, ?_, hvalid, ?_⟩
    · have hfraction : fraction.toList =
          Parts.pointText (if ds.length ≤ 1 then none else some (ds.drop 1)) := by
        simp only [fraction]
        split
        · rfl
        · simp [Parts.pointText]
      have hsign : sign.toList = [if lead < 0 then '-' else '+'] := by
        simp only [sign]
        split <;> rfl
      simp [Parts.text, Parts.powerText, hfraction, hsign]
    · rw [hv, hvalue, Scientific.value]
      congr 2
      omega

end Decimal

namespace Binary64

open Decimal RoundingInterval

/-- The text of a value without its sign is read as a decimal that rounds to the value. -/
theorem exists_parts (x : Binary64) :
    ∃ p : Parts, x.text.toList = (if x.negative then ['-'] else []) ++ p.text ∧ p.Valid ∧
      (x.code = 0 ∧ p.value = 0 ∨ x.code ≠ 0 ∧ (ofCode x.code).Contains p.value) := by
  have hsign : (if x.negative then "-" else "").toList = if x.negative then ['-'] else [] := by
    cases x.negative <;> rfl
  by_cases hx : x.code = 0
  · have hvalid : Parts.Valid ⟨['0'], some ['0'], none⟩ :=
      ⟨fun d hd => isDigit_of_mem_replicate (n := 2) hd, List.cons_ne_nil _ _, Or.inl (Option.some_ne_none _)⟩
    refine ⟨⟨['0'], some ['0'], none⟩, ?_, hvalid, Or.inl ⟨hx, ?_⟩⟩
    · rw [text, String.toList_append, hsign, isZero, hx]
      rfl
    · have hzero : Text.natOfDigits ['0', '0'] = 0 := rfl
      simp [Parts.value, Parts.digits, hzero]
  · obtain ⟨p, htext, hvalid, hvalue⟩ := layout.exists_parts (shortest x.code)
    refine ⟨p, ?_, hvalid, Or.inr ⟨hx, ?_⟩⟩
    · rw [text, String.toList_append, hsign, isZero, beq_false_of_ne hx, ← htext]
      rfl
    · rw [hvalue]
      exact contains_shortest hx

/-- Values have the same text only if they are the same, with the same sign of zero. -/
theorem text_inj {x y : Binary64} (h : x.text = y.text) : x = y := by
  obtain ⟨p, hp, hvalid, hx⟩ := x.exists_parts
  obtain ⟨q, hq, hvalid', hy⟩ := y.exists_parts
  obtain ⟨d, ds, hd, hdigit⟩ := hvalid.exists_head
  obtain ⟨e, es, he, hdigit'⟩ := hvalid'.exists_head
  rw [h, hq] at hp
  have hminus {c : Char} (hc : c.isDigit = true) : c ≠ '-' := by
    rintro rfl
    cases hc
  -- a digit is no sign
  have hparts : x.negative = y.negative ∧ p.text = q.text := by
    cases hsx : x.negative <;> cases hsy : y.negative <;>
      simp only [hsx, hsy, if_true, Bool.false_eq_true, if_false, List.nil_append,
        List.cons_append] at hp
    · exact ⟨rfl, hp.symm⟩
    · rw [hd] at hp
      exact absurd (List.cons.inj hp).1.symm (hminus hdigit)
    · rw [he] at hp
      exact absurd (List.cons.inj hp).1 (hminus hdigit')
    · exact ⟨rfl, (List.cons.inj hp).2.symm⟩
  have hvalue : p.value = q.value := by
    rw [← hvalid.readDecimal_text, ← hvalid'.readDecimal_text, hparts.2]
  -- zero lies in the interval of no other code
  have hcode : x.code = y.code := by
    rw [hvalue] at hx
    rcases hx with ⟨hx, hzero⟩ | ⟨hx, hcx⟩ <;> rcases hy with ⟨hy, hzero'⟩ | ⟨hy, hcy⟩
    · rw [hx, hy]
    · exact absurd hzero (pos_of_contains_ofCode hy hcy).ne'
    · exact absurd hzero' (pos_of_contains_ofCode hx hcx).ne'
    · exact eq_of_contains_ofCode hcx hcy
  cases x
  cases y
  simp only [mk.injEq]
  exact ⟨hparts.1, hcode⟩

end Binary64

end DocQuery
