import DocQuery.Proofs.Web.Coding
import DocQuery.Rest.Response
import Mathlib.Data.List.TakeWhile

namespace DocQuery

variable {cs : List Char} {n : Nat}

namespace Text

/-- The digits of a number of 64 bits, with a plus sign in front of them or without. -/
def Writes64 (cs : List Char) (n : Nat) : Prop :=
  ∃ digits, (cs = digits ∨ cs = '+' :: digits) ∧ digits ≠ [] ∧ (∀ c ∈ digits, c.isDigit = true) ∧
    natOfDigits digits = n ∧ n < 0x10000000000000000

theorem readDigits_iff (digits : List Char) :
    (if digits.isEmpty || !digits.all Char.isDigit then none
      else if natOfDigits digits < 0x10000000000000000 then some (natOfDigits digits) else none) =
        some n ↔
      digits ≠ [] ∧ (∀ c ∈ digits, c.isDigit = true) ∧ natOfDigits digits = n ∧
        n < 0x10000000000000000 := by
  by_cases hd : digits ≠ [] ∧ ∀ c ∈ digits, c.isDigit = true
  · have hall : digits.all Char.isDigit = true := List.all_eq_true.mpr hd.2
    have hempty : digits.isEmpty = false := List.isEmpty_eq_false_iff.mpr hd.1
    rw [hall, hempty]
    simp only [Bool.not_true, Bool.or_self, Bool.false_eq_true, if_false, Option.ite_none_right_eq_some,
      Option.some.injEq]
    constructor
    · rintro ⟨hlt, rfl⟩
      exact ⟨hd.1, hd.2, rfl, hlt⟩
    · rintro ⟨-, -, rfl, hlt⟩
      exact ⟨hlt, rfl⟩
  · have hbad : (digits.isEmpty || !digits.all Char.isDigit) = true := by
      by_contra hgood
      rw [Bool.not_eq_true, Bool.or_eq_false_iff, List.isEmpty_eq_false_iff, Bool.not_eq_false',
        List.all_eq_true] at hgood
      exact hd hgood
    rw [if_pos hbad]
    exact iff_of_false nofun fun h => hd ⟨h.1, h.2.1⟩

theorem natural64?_eq_some_iff : natural64? cs = some n ↔ Writes64 cs n := by
  constructor
  · intro h
    rw [natural64?.eq_def] at h
    split at h
    · exact ⟨_, Or.inr rfl, (readDigits_iff _).mp h⟩
    · exact ⟨_, Or.inl rfl, (readDigits_iff _).mp h⟩
  · rintro ⟨digits, rfl | rfl, h⟩
    · rw [natural64?.eq_def]
      split
      · cases h.2.1 '+' List.mem_cons_self
      · exact (readDigits_iff _).mpr h
    · exact (readDigits_iff _).mpr h

end Text

namespace Rest

/-- Behind the last slash of a range a number of 64 bits stands, perhaps between blanks. -/
def States (range : String) (n : Nat) : Prop :=
  ∃ before behind, range.toList = before ++ '/' :: behind ∧ '/' ∉ behind ∧
    Text.Writes64 (Text.trimChars Text.isBlank behind) n

theorem total?_eq_some_iff {range : String} : total? range = some n ↔ States range n := by
  -- the last slash is looked for from the end
  have hbehind {before behind : List Char} (hb : '/' ∉ behind) :
      (before ++ '/' :: behind).reverse.span (· != '/') =
        (behind.reverse, '/' :: before.reverse) := by
    have hslash : ∀ c ∈ behind.reverse, (c != '/') = true := by
      intro c hc
      have hne : c ≠ '/' := by
        rintro rfl
        exact hb (List.mem_reverse.mp hc)
      simpa using hne
    rw [List.reverse_append, List.reverse_cons, List.append_assoc, List.singleton_append,
      Web.span_append_of_forall hslash (by decide)]
  constructor
  · intro h
    by_cases hs : '/' ∈ range.toList
    · obtain ⟨after, before, hreverse, hafter⟩ :=
        List.eq_append_cons_of_mem (List.mem_reverse.mpr hs)
      have hrange : range.toList = before.reverse ++ '/' :: after.reverse := by
        rw [← List.reverse_reverse range.toList, hreverse, List.reverse_append, List.reverse_cons,
          List.append_assoc, List.singleton_append]
      have hb : '/' ∉ after.reverse := fun hm => hafter (List.mem_reverse.mp hm)
      rw [total?, hrange, hbehind hb] at h
      simp only [List.reverse_reverse] at h
      exact ⟨_, _, hrange, hb, Text.natural64?_eq_some_iff.mp h⟩
    · have hnone : range.toList.reverse.dropWhile (· != '/') = [] := by
        refine List.dropWhile_eq_nil_iff.mpr fun c hc => ?_
        have hne : c ≠ '/' := by
          rintro rfl
          exact hs (List.mem_reverse.mp hc)
        simpa using hne
      rw [total?, List.span_eq_takeWhile_dropWhile, hnone] at h
      cases h
  · rintro ⟨before, behind, hrange, hb, hwrites⟩
    rw [total?, hrange, hbehind hb]
    simp only [List.reverse_reverse]
    exact Text.natural64?_eq_some_iff.mpr hwrites

end Rest

end DocQuery
