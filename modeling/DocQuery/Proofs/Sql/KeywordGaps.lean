import DocQuery.Proofs.Sql.KeywordSearch
import Mathlib.Data.List.Infix

namespace DocQuery.Sql.Search

open Text (isBlank isWordCharacter)

variable {p : Pattern} {xs ys s : List Char} {keyword first : String} {second : Option String}

theorem find?_nil (p : Pattern) (insideWord : Bool) :
    find? p insideWord [] = (if insideWord then none else p []).map fun rest => ([], rest) := by
  rw [find?]
  split <;> rename_i h <;> rw [h] <;> rfl

theorem find?_cons (p : Pattern) (insideWord : Bool) (c : Char) (cs : List Char) :
    find? p insideWord (c :: cs) =
      ((if insideWord then none else p (c :: cs)).map fun rest => ([], rest)).or
        ((find? p (isWordCharacter c) cs).map (push c)) := by
  rw [find?]
  split <;> rename_i h <;> rw [h] <;> rfl

theorem find?_isSome_iff {insideWord : Bool} : (find? p insideWord xs).isSome ↔
    ∃ before behind, xs = before ++ behind ∧
      (before.getLast?.map isWordCharacter).getD insideWord = false ∧ (p behind).isSome := by
  -- for both values of `insideWord`, which says what stands in front of `xs`
  induction xs generalizing insideWord with
  | nil =>
      rw [find?_nil, Option.isSome_map]
      constructor
      · intro h
        cases insideWord with
        | true => cases h
        | false => exact ⟨[], [], rfl, rfl, h⟩
      · rintro ⟨before, behind, h, hw, hp⟩
        obtain ⟨rfl, rfl⟩ := List.append_eq_nil_iff.mp h.symm
        cases hw
        exact hp
  | cons c xs ih =>
      rw [find?_cons, Option.isSome_or, Option.isSome_map, Option.isSome_map, Bool.or_eq_true, ih]
      constructor
      · rintro (h | ⟨before, behind, rfl, hw, hp⟩)
        · cases insideWord with
          | true => cases h
          | false => exact ⟨[], c :: xs, rfl, rfl, h⟩
        · refine ⟨c :: before, behind, rfl, ?_, hp⟩
          rw [List.getLast?_cons]
          cases hlast : before.getLast? <;> simpa [hlast] using hw
      · rintro ⟨before, behind, h, hw, hp⟩
        cases before with
        | nil =>
            cases hw
            exact Or.inl (h ▸ hp)
        | cons d before =>
            obtain ⟨rfl, rfl⟩ := List.cons.inj h
            refine Or.inr ⟨before, behind, rfl, ?_, hp⟩
            rw [List.getLast?_cons] at hw
            cases hlast : before.getLast? <;> simpa [hlast] using hw

theorem occurs_iff : occurs p xs ↔ ∃ before behind, xs = before ++ behind ∧
    (∀ c ∈ before.getLast?, isWordCharacter c = false) ∧ (p behind).isSome := by
  rw [occurs, find?_isSome_iff]
  refine exists_congr fun before => exists_congr fun behind => and_congr_right fun _ => ?_
  cases before.getLast? <;> simp

theorem find?_eq_none (h : ∀ s, s <:+ xs → p s = none) (insideWord : Bool) :
    find? p insideWord xs = none := by
  induction xs generalizing insideWord with
  | nil => rw [find?, h [] List.suffix_rfl, ite_self]
  | cons c xs ih =>
      rw [find?, h (c :: xs) List.suffix_rfl, ite_self]
      exact congrArg (Option.map _) (ih (fun s hs => h s (hs.trans (List.suffix_cons c xs))) _)

/-- The search goes through a text and then through what stands behind the blank that ends its last
word. In front of the blank `p` matches where `q` matches the text by itself. -/
theorem find?_append_blank {q : Pattern} {f : List Char → List Char}
    (h : ∀ s, s <:+ xs → p (s ++ ' ' :: ys) = (q s).map f) (insideWord : Bool) :
    find? p insideWord (xs ++ ' ' :: ys) =
      ((find? q insideWord xs).map fun found => (found.1, f found.2)).or
        ((find? p false ys).map fun found => (xs ++ ' ' :: found.1, found.2)) := by
  have hhere (w : Bool) (o : Option (List Char)) :
      (if w then none else o.map f).map (fun rest => (([] : List Char), rest)) =
        ((if w then none else o).map fun rest => (([] : List Char), rest)).map
          fun found => (found.1, f found.2) := by
    cases w <;> cases o <;> rfl
  induction xs generalizing insideWord with
  | nil =>
      have hp : p (' ' :: ys) = (q []).map f := h [] List.suffix_rfl
      rw [List.nil_append, find?_cons, find?_nil, hp, hhere]
      rfl
  | cons c xs ih =>
      have hp : p (c :: (xs ++ ' ' :: ys)) = (q (c :: xs)).map f := h (c :: xs) List.suffix_rfl
      rw [List.cons_append, find?_cons, find?_cons, hp, hhere,
        ih (fun s hs => h s (hs.trans (List.suffix_cons c xs))), Option.map_or, Option.map_or,
        Option.or_assoc]
      simp only [Option.map_map]
      rfl

theorem occurs_append_blank {q : Pattern} {f : List Char → List Char}
    (h : ∀ s, s <:+ xs → p (s ++ ' ' :: ys) = (q s).map f) :
    occurs p (xs ++ ' ' :: ys) = (occurs q xs || occurs p ys) := by
  rw [occurs, find?_append_blank h, Option.isSome_or, Option.isSome_map, Option.isSome_map]
  rfl

theorem find?_skip (h : ∀ s, s <:+ xs → p (s ++ ' ' :: ys) = none) (insideWord : Bool) :
    find? p insideWord (xs ++ ' ' :: ys) =
      (find? p false ys).map fun found => (xs ++ ' ' :: found.1, found.2) := by
  rw [find?_append_blank (q := fun _ => none) (f := id) h, find?_eq_none fun _ _ => rfl]
  rfl

def lacks (keyword : String) (lower : List Char) : Bool :=
  lower.tails.all fun s => (letters keyword.toList s).isNone

theorem letters_eq_none (h : lacks keyword (xs.map Char.toLower)) (hs : s <:+ xs) :
    letters keyword.toList s = none := by
  rw [lacks, List.all_eq_true] at h
  have hn := h (s.map Char.toLower) ((List.mem_tails _ _).mpr (hs.map _))
  rw [← Option.not_isSome, letters_map_toLower, Bool.not_eq_true', Option.isSome_eq_false_iff] at hn
  exact Option.isNone_iff_eq_none.mp hn

theorem keywords_eq_none (h : letters first.toList s = none) : keywords first second s = none := by
  cases second <;> simp [keywords, sequence, h]

theorem occurs_eq_false (h : lacks first (xs.map Char.toLower)) : occurs (keywords first second) xs = false := by
  rw [occurs, find?_eq_none fun s hs => keywords_eq_none (letters_eq_none h hs)]
  rfl

theorem wordEnd_append_blank (xs ys : List Char) :
    wordEnd (xs ++ ' ' :: ys) = (wordEnd xs).map (· ++ ' ' :: ys) := by
  cases xs with
  | nil => rfl
  | cons c xs =>
      rw [List.cons_append, wordEnd, wordEnd]
      split <;> rfl

theorem keywords_none (first : String) (cs : List Char) :
    keywords first none cs = (letters first.toList cs).bind wordEnd := by
  simp [keywords, sequence, Option.bind_eq_bind]

theorem keywords_some (first second : String) (cs : List Char) :
    keywords first (some second) cs = (letters first.toList cs).bind fun rest =>
      ((someBlanks rest).bind (letters second.toList)).bind wordEnd := by
  simp [keywords, sequence, Option.bind_eq_bind, Option.bind_assoc]

theorem keywords_append_blank (hsolid : solid first.toList) :
    keywords first none (xs ++ ' ' :: ys) = (keywords first none xs).map (· ++ ' ' :: ys) := by
  rw [keywords_none, keywords_none, letters_append_blank hsolid]
  cases letters first.toList xs with
  | none => rfl
  | some rest => exact wordEnd_append_blank rest ys

end DocQuery.Sql.Search
