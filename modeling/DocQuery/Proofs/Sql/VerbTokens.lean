import DocQuery.Proofs.Sql.TokenSearch

namespace DocQuery.Sql

open Search
open Text (isWordCharacter)

/-- The verb by the phrases of keywords that occur in a statement. A count is a query here. -/
def Marks.verb (m : Marks) (ts : List Token) : Verb :=
  if (m.phrase "INSERT" (some "INTO")).occurs ts then .insert
  else if (m.phrase "UPDATE" none).occurs ts then .update
  else if (m.phrase "DELETE" (some "FROM")).occurs ts then .delete
  else if (m.phrase "SELECT" none).occurs ts then .select
  else .unknown

theorem verbOf_skeletonOf {ts : List Token} (htight : ∀ t ∈ ts, t.Tight) :
    verbOf (skeletonOf ts) = Marks.found.verb ts ∨
      Marks.found.verb ts = .select ∧ verbOf (skeletonOf ts) = .count := by
  have hselect : occurs (keywords "SELECT" none) (skeletonOf ts) =
      (Marks.found.phrase "SELECT" none).occurs ts := occurs_keywords (by decide) htight
  rw [verbOf, Marks.verb, occurs_keywords (by decide) htight, occurs_keywords (by decide) htight,
    occurs_keywords (by decide) htight]
  split
  · exact Or.inl rfl
  split
  · exact Or.inl rfl
  split
  · exact Or.inl rfl
  rw [occurs] at hselect
  cases hf : find? (keywords "SELECT" none) false (skeletonOf ts) with
  | none =>
      rw [hf] at hselect
      rw [← hselect]
      exact Or.inl rfl
  | some p =>
      rw [hf] at hselect
      rw [← hselect, Option.isSome_some, if_pos rfl]
      dsimp only
      split_ifs
      · exact Or.inr ⟨rfl, rfl⟩
      · exact Or.inl rfl

theorem forall₂_matchesLetter_iff {ls cs : List Char} (h : ∀ c ∈ cs, c ≠ '\u017f') :
    List.Forall₂ (fun l c => matchesLetter l c = true) ls cs ↔
      cs.map Char.toLower = ls.map Char.toLower := by
  induction ls generalizing cs with
  | nil => rw [List.forall₂_nil_left_iff, List.map_nil, List.map_eq_nil_iff]
  | cons l ls ih =>
      cases cs with
      | nil => simp
      | cons c cs =>
          have hc : matchesLetter l c = (c.toLower == l.toLower) := by
            simp [matchesLetter, h c List.mem_cons_self]
          rw [List.forall₂_cons, ih fun d hd => h d (List.mem_cons_of_mem c hd), hc, beq_iff_eq,
            List.map_cons, List.map_cons, List.cons.injEq]

theorem eq_nil_of_getLast? {before rest : List Char} (h : ∀ c ∈ before ++ rest, isWordCharacter c)
    (hlast : ∀ c ∈ before.getLast?, isWordCharacter c = false) : before = [] := by
  cases hc : before.getLast? with
  | none => exact List.getLast?_eq_none_iff.mp hc
  | some c =>
      have hword := h c (List.mem_append_left rest (List.mem_of_getLast? hc))
      rw [hlast c hc] at hword
      cases hword

theorem eq_nil_of_head? {front behind : List Char} (h : ∀ c ∈ front ++ behind, isWordCharacter c)
    (hhead : ∀ c ∈ behind.head?, isWordCharacter c = false) : behind = [] := by
  cases behind with
  | nil => rfl
  | cons c behind =>
      have hword := h c (List.mem_append_right front List.mem_cons_self)
      rw [hhead c rfl] at hword
      cases hword

/-- A bare word has no character that ends a word, and no long s that stands for an s. -/
def Token.isPlain : Token → Bool
  | word value false => value.toList.all fun c => isWordCharacter c && c != '\u017f'
  | _ => true

theorem Token.isPlain_word {value : String} (h : (Token.word value false).isPlain) :
    (∀ c ∈ value.toList, isWordCharacter c) ∧ ∀ c ∈ value.toList, c ≠ '\u017f' := by
  simp only [isPlain, List.all_eq_true, Bool.and_eq_true, bne_iff_ne] at h
  exact ⟨fun c hc => (h c hc).1, fun c hc => (h c hc).2⟩

def standIns : List String :=
  ["\"_\"", "0", "''", "_", "?", "(", ")", ",", "=", "*", "-", ".", ";"]

theorem Token.skeleton_mem_standIns {t : Token} (h : ∀ value, t ≠ .word value false) :
    t.skeleton ∈ standIns := by
  cases t with
  | word value quoted =>
      cases quoted with
      | false => exact absurd rfl (h value)
      | true => exact (by decide : "\"_\"" ∈ standIns)
  | number text => exact (by decide : "0" ∈ standIns)
  | string value => exact (by decide : "''" ∈ standIns)
  | other text => exact (by decide : "_" ∈ standIns)
  | _ => decide

def isBare (keyword : String) : Bool :=
  standIns.all fun text => lacks keyword (text.toList.map Char.toLower)

namespace Marks

variable {t : Token} {ts : List Token} {keyword : String}

theorem found_iff_of_isPlain {value : String} (h : (Token.word value false).isPlain) :
    (found.holds keyword (.word value false) ↔ (Token.word value false).isKeyword keyword) ∧
    (found.ends keyword (.word value false) ↔ (Token.word value false).isKeyword keyword) ∧
    (found.opens keyword (.word value false) ↔ (Token.word value false).isKeyword keyword) := by
  obtain ⟨hword, hlong⟩ := Token.isPlain_word h
  have hkeyword : (Token.word value false).isKeyword keyword ↔
      List.Forall₂ (fun l c => matchesLetter l c = true) keyword.toList value.toList := by
    rw [forall₂_matchesLetter_iff hlong, Token.isKeyword, beq_iff_eq]
  rw [hkeyword, found_holds_iff, found_ends_iff, found_opens_iff, Token.skeleton]
  refine ⟨⟨?_, fun h => ⟨[], value.toList, [], by simp, by simp, h, by simp⟩⟩,
    ⟨?_, fun h => ⟨[], value.toList, rfl, by simp, h⟩⟩,
    ⟨?_, fun h => ⟨value.toList, [], by simp, h, by simp⟩⟩⟩
  · rintro ⟨before, word, behind, hs, hbefore, hmatch, hbehind⟩
    rw [hs] at hword ⊢
    obtain rfl := eq_nil_of_getLast? hword hbefore
    rw [List.nil_append] at hword ⊢
    obtain rfl := eq_nil_of_head? hword hbehind
    rwa [List.append_nil]
  · rintro ⟨before, word, hs, hbefore, hmatch⟩
    rw [hs] at hword ⊢
    obtain rfl := eq_nil_of_getLast? hword hbefore
    exact hmatch
  · rintro ⟨word, behind, hs, hmatch, hbehind⟩
    rw [hs] at hword ⊢
    obtain rfl := eq_nil_of_head? hword hbehind
    rwa [List.append_nil]

theorem isKeyword_eq_false (h : ∀ value, t ≠ .word value false) : t.isKeyword keyword = false := by
  cases t with
  | word value quoted =>
      cases quoted with
      | false => exact absurd rfl (h value)
      | true => rfl
  | _ => rfl

theorem found_eq_whole (hk : isBare keyword) (ht : t.isPlain) :
    found.holds keyword t = whole.holds keyword t ∧ found.ends keyword t = whole.ends keyword t ∧
      found.opens keyword t = whole.opens keyword t := by
  by_cases hbare : ∃ value, t = .word value false
  · obtain ⟨value, rfl⟩ := hbare
    obtain ⟨hholds, hends, hopens⟩ := found_iff_of_isPlain ht
    exact ⟨Bool.eq_iff_iff.mpr hholds, Bool.eq_iff_iff.mpr hends, Bool.eq_iff_iff.mpr hopens⟩
  · have hne : ∀ value, t ≠ .word value false := fun value h => hbare ⟨value, h⟩
    have hwhole : t.isKeyword keyword = false := isKeyword_eq_false hne
    obtain ⟨hholds, hends, hopens⟩ := found_eq_false
      (List.all_eq_true.mp hk t.skeleton (Token.skeleton_mem_standIns hne))
    exact ⟨hholds.trans hwhole.symm, hends.trans hwhole.symm, hopens.trans hwhole.symm⟩

theorem occurs_phrase_of_plain {first : String} {second : Option String} (hfirst : isBare first)
    (hsecond : second.all isBare) (h : ∀ t ∈ ts, t.isPlain) :
    (found.phrase first second).occurs ts = (whole.phrase first second).occurs ts := by
  refine Phrase.occurs_congr ?_ h
  cases second with
  | none => exact .cons (fun t ht => (found_eq_whole hfirst ht).1) .nil
  | some second =>
      exact .cons (fun t ht => (found_eq_whole hfirst ht).2.1)
        (.cons (fun t ht => (found_eq_whole hsecond ht).2.2) .nil)

theorem verb_of_plain (h : ∀ t ∈ ts, t.isPlain) : found.verb ts = whole.verb ts := by
  rw [verb, verb, occurs_phrase_of_plain (by decide) (by decide) h,
    occurs_phrase_of_plain (by decide) (by decide) h, occurs_phrase_of_plain (by decide) (by decide) h,
    occurs_phrase_of_plain (by decide) (by decide) h]

end Marks

/-- A statement has the verb of the keywords that stand in its tokens between the bounds of words.
These are the tokens that are keywords if the bare words have no other characters than words have. -/
theorem classify_tokens {statement : String} {ts : List Token} (h : tokenize statement = .ok ts) :
    (classify statement = Marks.found.verb ts ∨
      Marks.found.verb ts = .select ∧ classify statement = .count) ∧
    ((∀ t ∈ ts, t.isPlain) → Marks.found.verb ts = Marks.whole.verb ts) := by
  rw [classify_of_tokenize h]
  exact ⟨verbOf_skeletonOf (tokenize_tight h), Marks.verb_of_plain⟩

theorem classify_tokens_of_updated_at :
    let ts := [.word "SELECT" false, .star, .word "FROM" false, .word "t" false, .word "WHERE" false,
      .word "updated_at" false, .equal, .placeholder]
    tokenize "SELECT * FROM t WHERE updated_at = ?" = .ok ts ∧ (∀ t ∈ ts, t.isPlain) ∧
      Marks.whole.verb ts = .select ∧ (classify "SELECT * FROM t WHERE updated_at = ?" = .select ∨
        classify "SELECT * FROM t WHERE updated_at = ?" = .count) := by
  intro ts
  have hts : tokenize "SELECT * FROM t WHERE updated_at = ?" = .ok ts := by decide +kernel
  have hplain : ∀ t ∈ ts, t.isPlain := by decide +kernel
  have hverb : Marks.whole.verb ts = .select := by decide +kernel
  obtain ⟨hclassify, hwhole⟩ := classify_tokens hts
  rw [hwhole hplain, hverb] at hclassify
  exact ⟨hts, hplain, hverb, hclassify.imp id And.right⟩

/-- A part of a longer identifier makes an update of a query, and a long s in front of other letters
makes a query of what is no keyword. -/
theorem part_of_identifier_classified :
    tokenize "SELECT a$update FROM t" = .ok [.word "SELECT" false, .word "a$update" false,
      .word "FROM" false, .word "t" false] ∧
    classify "SELECT a$update FROM t" = .update ∧
    Marks.whole.verb [.word "SELECT" false, .word "a$update" false, .word "FROM" false,
      .word "t" false] = .select ∧
    tokenize "\u017fELECT" = .ok [.word "\u017fELECT" false] ∧ classify "\u017fELECT" = .select ∧
    Marks.whole.verb [.word "\u017fELECT" false] = .unknown := by
  decide +kernel

end DocQuery.Sql
