import DocQuery.Proofs.Sql.BareWord
import DocQuery.Proofs.Sql.Grammar
import Mathlib.Data.List.Forall2

namespace DocQuery.Sql

open Text (isBlank blankPoints not_isBlank_of_holds)

namespace Search

variable {p : Pattern} {ls cs rest : List Char} {first second : String}

theorem matchesLetter_toLower (l c : Char) : matchesLetter l c.toLower = matchesLetter l c := by
  by_cases h : c.val ≥ 'A'.val ∧ c.val ≤ 'Z'.val
  · have hall : ∀ n < 91, 65 ≤ n →
        (Char.ofNat n).toLower.toLower = (Char.ofNat n).toLower ∧
          ((Char.ofNat n).toLower == '\u017f') = (Char.ofNat n == '\u017f') := by decide
    have hc := hall c.toNat (Nat.lt_succ_of_le (UInt32.le_iff_toNat_le.mp h.2))
      (UInt32.le_iff_toNat_le.mp h.1)
    rw [Char.ofNat_toNat] at hc
    rw [matchesLetter, matchesLetter, hc.1, hc.2]
  · have hc : c.toLower = c := dif_neg h
    rw [hc]

theorem letters_map_toLower (ls cs : List Char) :
    (letters ls (cs.map Char.toLower)).isSome = (letters ls cs).isSome := by
  induction ls generalizing cs with
  | nil => rfl
  | cons l ls ih =>
      cases cs with
      | nil => rfl
      | cons c cs =>
          simp only [List.map_cons, letters, matchesLetter_toLower]
          split
          · exact ih cs
          · rfl

theorem letters_append {a : List Char} (h : a.map Char.toLower = ls.map Char.toLower)
    (rest : List Char) : letters ls (a ++ rest) = some rest := by
  induction ls generalizing a with
  | nil =>
      obtain rfl := List.map_eq_nil_iff.mp h
      rfl
  | cons l ls ih =>
      cases a with
      | nil => cases h
      | cons c a =>
          obtain ⟨hc, ha⟩ := List.cons.inj h
          have hm : matchesLetter l c = true := by
            have hc : c.toLower = l.toLower := hc
            simp [matchesLetter, hc]
          rw [List.cons_append, letters, if_pos hm, ih ha]

theorem letters_eq_some_iff : letters ls cs = some rest ↔
    ∃ a, cs = a ++ rest ∧ List.Forall₂ (fun l c => matchesLetter l c = true) ls a := by
  induction ls generalizing cs with
  | nil =>
      rw [letters, Option.some.injEq]
      constructor
      · rintro rfl
        exact ⟨[], rfl, .nil⟩
      · rintro ⟨a, rfl, ha⟩
        cases ha
        rfl
  | cons l ls ih =>
      constructor
      · intro h
        cases cs with
        | nil => cases h
        | cons c cs =>
            rw [letters] at h
            split at h
            · rename_i hc
              obtain ⟨a, rfl, ha⟩ := ih.mp h
              exact ⟨c :: a, rfl, .cons hc ha⟩
            · cases h
      · rintro ⟨a, rfl, ha⟩
        cases ha with
        | cons hc ha => rw [List.cons_append, letters, if_pos hc, ih.mpr ⟨_, rfl, ha⟩]

theorem exists_of_find? {insideWord : Bool} {before : List Char}
    (h : find? p insideWord cs = some (before, rest)) :
    ∃ behind, cs = before ++ behind ∧ p behind = some rest := by
  induction cs generalizing insideWord before with
  | nil =>
      rw [find?] at h
      split at h
      · rename_i hp
        cases h
        cases insideWord with
        | false => exact ⟨[], rfl, hp⟩
        | true => cases hp
      · cases h
  | cons c cs ih =>
      rw [find?] at h
      split at h
      · rename_i hp
        cases h
        cases insideWord with
        | false => exact ⟨c :: cs, rfl, hp⟩
        | true => cases hp
      · obtain ⟨⟨before', rest'⟩, hf, hb⟩ := Option.map_eq_some_iff.mp h
        cases hb
        obtain ⟨behind, rfl, hp⟩ := ih hf
        exact ⟨behind, rfl, hp⟩

theorem find?_of_head (h : p cs = some rest) : find? p false cs = some ([], rest) := by
  unfold find?
  simp [h]

theorem occurs_of_head (h : p cs = some rest) : occurs p cs = true := by
  rw [occurs, find?_of_head h]
  rfl

def solid (ls : List Char) : Bool :=
  ls.all fun l => blankPoints.all fun n => !matchesLetter l (Char.ofNat n)

theorem not_isBlank_of_solid (hs : solid ls) {a : List Char}
    (ha : List.Forall₂ (fun l c => matchesLetter l c = true) ls a) : ∀ c ∈ a, isBlank c = false := by
  induction ha with
  | nil => simp
  | @cons l c ls a hc ha ih =>
      rw [solid, List.all_cons, Bool.and_eq_true] at hs
      intro d hd
      rcases List.mem_cons.mp hd with rfl | hd
      · exact not_isBlank_of_holds hs.1 hc
      · exact ih hs.2 d hd

theorem letters_append_blank (hs : solid ls) (a cs : List Char) :
    letters ls (a ++ ' ' :: cs) = (letters ls a).map (· ++ ' ' :: cs) := by
  induction ls generalizing a with
  | nil => rfl
  | cons l ls ih =>
      rw [solid, List.all_cons, Bool.and_eq_true] at hs
      cases a with
      | nil =>
          have hl : matchesLetter l ' ' = false := by
            rw [Bool.eq_false_iff]
            intro hm
            exact absurd (not_isBlank_of_holds hs.1 hm) (by decide)
          rw [List.nil_append, letters, hl]
          rfl
      | cons c a =>
          rw [List.cons_append, letters, letters]
          split
          · exact ih hs.2 a
          · rfl

end Search

open Search

variable {ts : List Token} {t : Token} {first second : String}

def skeletonOf (ts : List Token) : List Char :=
  (String.intercalate " " (ts.map Token.skeleton)).toList

theorem skeletonOf_cons (t : Token) (h : ts ≠ []) :
    skeletonOf (t :: ts) = t.skeleton.toList ++ ' ' :: skeletonOf ts := by
  have hm : ts.map Token.skeleton ≠ [] := by simpa using h
  simp [skeletonOf, String.intercalate_cons_of_ne_nil hm]

theorem classify_of_tokenize {statement : String}
    (h : tokenize statement = .ok ts) : classify statement = verbOf (skeletonOf ts) := by
  rw [classify, skeleton, h]
  rfl

theorem dropWhile_isBlank_of_isTight {cs : List Char} (h : isTight cs) (rest : List Char) :
    (cs ++ rest).dropWhile isBlank = cs ++ rest := by
  cases cs with
  | nil => cases h
  | cons c cs =>
      rw [isTight, Bool.and_eq_true] at h
      exact List.dropWhile_cons_of_neg (by simpa using h.1)

theorem skeletonOf_keyword {text : String} (w : Grammar.Keyword text) (hts : ts ≠ []) :
    ∃ value, skeletonOf (w.token :: ts) = value ++ ' ' :: skeletonOf ts ∧
      value.map Char.toLower = text.toList.map Char.toLower := by
  obtain ⟨value, hw, hvalue⟩ := w.exists_value
  exact ⟨value.toList, by rw [skeletonOf_cons _ hts, hw, Token.skeleton], hvalue⟩

theorem keywords_of_keyword {text : String} (w : Grammar.Keyword text) (hts : ts ≠ []) :
    keywords text none (skeletonOf (w.token :: ts)) = some (' ' :: skeletonOf ts) := by
  obtain ⟨value, hs, hvalue⟩ := skeletonOf_keyword w hts
  simp only [keywords, Search.sequence, List.foldlM_cons, List.foldlM_nil, hs,
    letters_append hvalue]
  rfl

theorem keywords_of_two (w : Grammar.Keyword first) (w' : Grammar.Keyword second)
    (hsolid : solid second.toList) (hne : second.toList ≠ []) (hts : ts ≠ []) :
    keywords first (some second) (skeletonOf (w.token :: w'.token :: ts)) =
      some (' ' :: skeletonOf ts) := by
  obtain ⟨value, hs, hvalue⟩ := skeletonOf_keyword w (List.cons_ne_nil w'.token ts)
  obtain ⟨value', hs', hvalue'⟩ := skeletonOf_keyword w' hts
  have hdrop : (value' ++ ' ' :: skeletonOf ts).dropWhile isBlank = value' ++ ' ' :: skeletonOf ts := by
    obtain ⟨a, ha, hm⟩ := letters_eq_some_iff.mp (letters_append hvalue' [])
    rw [List.append_nil, List.append_nil] at ha
    subst ha
    cases value' with
    | nil => exact absurd (List.map_eq_nil_iff.mp hvalue'.symm) hne
    | cons c value' =>
        have hc := not_isBlank_of_solid hsolid hm c List.mem_cons_self
        exact List.dropWhile_cons_of_neg (by simp [hc])
  have hblanks : someBlanks (' ' :: (value' ++ ' ' :: skeletonOf ts)) =
      some (value' ++ ' ' :: skeletonOf ts) := by
    rw [someBlanks, if_pos (by decide), blanks, hdrop]
  simp only [keywords, Search.sequence, List.foldlM_cons, List.foldlM_nil, hs, hs',
    letters_append hvalue, Option.bind_eq_bind, Option.bind_some, hblanks,
    letters_append hvalue']
  rfl

end DocQuery.Sql
