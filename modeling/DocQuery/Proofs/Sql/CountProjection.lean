import DocQuery.Proofs.Sql.Dispatch
import DocQuery.Proofs.Sql.VerbTokens
import Mathlib.Data.List.TakeWhile

namespace DocQuery.Sql

open Grammar Search
open Text (isBlank)

variable {ts pre : List Token} {t u : Token} {keyword : String} {a cs : List Char}

def skeletonBefore (cs : List Char) (ts : List Token) : List Char :=
  ts.foldr (fun t behind => t.skeleton.toList ++ ' ' :: behind) cs

theorem skeletonBefore_cons (cs : List Char) (t : Token) (ts : List Token) :
    skeletonBefore cs (t :: ts) = t.skeleton.toList ++ ' ' :: skeletonBefore cs ts := rfl

def symbols : List (Char × Token) := [('(', .leftParen), ('*', .star), (')', .rightParen)]

theorem letters_singleton_append (l : Char) (ha : a ≠ []) (cs : List Char) :
    letters [l] (a ++ cs) = (letters [l] a).map (· ++ cs) := by
  cases a with
  | nil => exact absurd rfl ha
  | cons c a =>
      simp only [List.cons_append, letters]
      split <;> rfl

theorem letters_wordlike {l : Char} {s : Token} (hs : (l, s) ∈ symbols) (h : isWordlike a) :
    letters [l] a = none := by
  have hall : ∀ x ∈ symbols, x.1 ∈ symbolChars := by decide
  cases a with
  | nil => cases h
  | cons c a =>
      rw [isWordlike, Bool.and_eq_true] at h
      rw [letters, continuesWord_not_matchesLetter (hall _ hs) h.1]
      rfl

theorem skeleton_eq_iff {l : Char} {s : Token} (hs : (l, s) ∈ symbols)
    (hne : ∀ value, u ≠ .word value false) : u.skeleton = s.skeleton ↔ u = s := by
  simp only [symbols, List.mem_cons, List.not_mem_nil, or_false, Prod.mk.injEq] at hs
  rcases hs with ⟨-, rfl⟩ | ⟨-, rfl⟩ | ⟨-, rfl⟩ <;> cases u with
  | word value quoted => cases quoted <;> simp [Token.skeleton, Token.display] at hne ⊢
  | _ => simp [Token.skeleton, Token.display]

theorem letters_symbol {l : Char} {s : Token} (hs : (l, s) ∈ symbols) (hu : u.Wordlike)
    (cs : List Char) :
    letters [l] (u.skeleton.toList ++ cs) = if u = s then some cs else none := by
  by_cases hbare : ∃ value, u = .word value false
  · obtain ⟨value, rfl⟩ := hbare
    have hne : Token.word value false ≠ s := by
      rintro rfl
      simp [symbols] at hs
    have hnil : value.toList ≠ [] := fun h => by
      have hvalue := hu value rfl
      rw [h] at hvalue
      cases hvalue
    rw [Token.skeleton, letters_singleton_append l hnil, letters_wordlike hs (hu value rfl), if_neg hne]
    rfl
  · have hne : ∀ value, u ≠ .word value false := fun value h => hbare ⟨value, h⟩
    have hall : ∀ x ∈ symbols, ∀ text ∈ standIns, text.toList ≠ [] ∧ letters [x.1] text.toList =
        if text = x.2.skeleton then some [] else none := by decide
    obtain ⟨hnil, hletters⟩ := hall _ hs u.skeleton (Token.skeleton_mem_standIns hne)
    simp only [skeleton_eq_iff hs hne] at hletters
    rw [letters_singleton_append l hnil, hletters]
    split <;> rfl

def IsStem (cs : List Char) : Prop := cs = [] ∨ isWordlike cs

theorem isStem_of_append (h : isWordlike (a ++ cs)) : IsStem a := by
  cases a with
  | nil => exact Or.inl rfl
  | cons c a =>
      rw [List.cons_append, isWordlike, List.drop_append, List.all_append, Bool.and_eq_true,
        Bool.and_eq_true] at h
      rw [IsStem, isWordlike, Bool.and_eq_true]
      exact Or.inr ⟨h.1, h.2.1⟩

theorem Search.sequence_cons (p : Pattern) (ps : List Pattern) (cs : List Char) :
    sequence (p :: ps) cs = (p cs).bind (sequence ps) := rfl

def spread (xs : List (Char × Token)) : Pattern :=
  sequence (xs.flatMap fun x => [blanks, letters [x.1]])

theorem countOfAll_eq :
    countOfAll = fun cs => (letters "COUNT".toList cs).bind (spread symbols) := rfl

theorem spread_separated : Separated (spread symbols) where
  nil := rfl
  cons c cs hc := by
    rw [isBreak, Bool.or_eq_false_iff] at hc
    have hblanks : blanks (c :: cs) = some (c :: cs) := by
      rw [blanks, List.dropWhile_cons_of_neg (by simp [hc.1])]
    have hletters : letters ['('] (c :: cs) = none := by
      rw [letters, hc.2]
      rfl
    simp only [spread, symbols, List.flatMap_cons, List.cons_append, sequence_cons, hblanks,
      Option.bind_some, hletters, Option.bind_none]

theorem spread_skeletonBefore {xs : List (Char × Token)} (hxs : xs ⊆ symbols)
    (hwordlike : ∀ t ∈ ts, t.Wordlike) (ha : IsStem a) :
    (spread xs (' ' :: skeletonBefore a ts)).isSome =
      Phrase.leads (xs.map fun x => (· == x.2)) ts := by
  induction xs generalizing ts with
  | nil => rfl
  | cons x xs ih =>
      have hx := hxs List.mem_cons_self
      have hstep (cs : List Char) : spread (x :: xs) cs =
          ((blanks cs).bind (letters [x.1])).bind (spread xs) := by
        rw [Option.bind_assoc]
        rfl
      have hblank (cs : List Char) : blanks (' ' :: cs) = some (cs.dropWhile isBlank) := rfl
      rw [hstep, hblank, Option.bind_some, List.map_cons]
      cases ts with
      | nil =>
          -- what stands behind the tokens is the stem of a word and no symbol
          have hnone : letters [x.1] (a.dropWhile isBlank) = none := by
            rcases ha with rfl | ha
            · rfl
            · have hdrop := dropWhile_isBlank_of_isTight (isTight_of_isWordlike ha) []
              rw [List.append_nil] at hdrop
              rw [hdrop, letters_wordlike hx ha]
          have hend : skeletonBefore a [] = a := rfl
          rw [hend, hnone]
          rfl
      | cons u us =>
          have hu := hwordlike u List.mem_cons_self
          have hrest : (spread xs (' ' :: skeletonBefore a us)).isSome =
              Phrase.leads (xs.map fun x => (· == x.2)) us :=
            ih (fun y hy => hxs (List.mem_cons_of_mem x hy))
              fun v hv => hwordlike v (List.mem_cons_of_mem u hv)
          rw [skeletonBefore_cons, dropWhile_isBlank_of_isTight hu.tight, letters_symbol hx hu,
            Phrase.leads]
          by_cases hux : u = x.2
          · rw [if_pos hux, Option.bind_some, hrest, beq_iff_eq.mpr hux, Bool.true_and]
          · rw [if_neg hux, beq_eq_false_iff_ne.mpr hux]
            rfl

theorem occurs_countOfAll (hwordlike : ∀ t ∈ ts, t.Wordlike) (ha : IsStem a) :
    occurs countOfAll (skeletonBefore a ts) = Marks.found.countOfAll.occurs ts := by
  rw [countOfAll_eq]
  induction ts with
  | nil =>
      refine occurs_separated spread_separated (by decide) ?_
      rcases ha with rfl | ha
      · simp [skeletonBefore]
      · exact not_isBreak_of_isTight (isTight_of_isWordlike ha)
  | cons t ts ih =>
      have hts := fun u hu => hwordlike u (List.mem_cons_of_mem t hu)
      rw [skeletonBefore_cons, occurs_append_separated (by decide) spread_separated (by decide)
        (not_isBreak_of_isTight (hwordlike t List.mem_cons_self).tight), ih hts,
        spread_skeletonBefore (List.Subset.refl _) hts ha]
      rfl

theorem find?_keyword_append (hsolid : solid keyword.toList) (xs ys : List Char) :
    find? (keywords keyword none) false (xs ++ ' ' :: ys) =
      ((find? (keywords keyword none) false xs).map fun m => (m.1, m.2 ++ ' ' :: ys)).or
        ((find? (keywords keyword none) false ys).map fun m => (xs ++ ' ' :: m.1, m.2)) :=
  find?_append_blank (fun _ _ => keywords_append_blank hsolid) false

theorem find?_skeletonOf {behind : List Char} (post : List Token) (hsolid : solid keyword.toList)
    (hpre : ∀ u ∈ pre, Marks.found.holds keyword u = false)
    (ht : find? (keywords keyword none) false t.skeleton.toList = some (a, behind)) :
    ∃ behind', find? (keywords keyword none) false (skeletonOf (pre ++ t :: post)) =
      some (skeletonBefore a pre, behind') := by
  induction pre with
  | nil =>
      by_cases hpost : post = []
      · subst hpost
        exact ⟨behind, by rw [List.nil_append, skeletonOf_singleton, ht]; rfl⟩
      · refine ⟨behind ++ ' ' :: skeletonOf post, ?_⟩
        rw [List.nil_append, skeletonOf_cons t hpost, find?_keyword_append hsolid, ht]
        rfl
  | cons u pre ih =>
      obtain ⟨behind', hfind⟩ := ih fun v hv => hpre v (List.mem_cons_of_mem u hv)
      have hu : find? (keywords keyword none) false u.skeleton.toList = none :=
        Option.isNone_iff_eq_none.mp (Option.isSome_eq_false_iff.mp (hpre u List.mem_cons_self))
      refine ⟨behind', ?_⟩
      rw [List.cons_append, skeletonOf_cons u (by simp), find?_keyword_append hsolid, hu, hfind]
      rfl

theorem find?_blank {p : Pattern} (h : p (' ' :: cs) = none) :
    find? p false (' ' :: cs) = (find? p false cs).map fun m => (' ' :: m.1, m.2) := by
  rw [find?_cons, h]
  rfl

theorem exists_takeWhile_append {α : Type} {p : α → Bool} {x : α} (hx : p x) (xs ys : List α) :
    ∃ y zs, xs ++ x :: ys = xs.takeWhile (fun z => !p z) ++ y :: zs ∧ p y := by
  induction xs with
  | nil => exact ⟨x, ys, rfl, hx⟩
  | cons z xs ih =>
      cases hz : p z with
      | true => exact ⟨z, xs ++ x :: ys, by simp [hz], hz⟩
      | false =>
          obtain ⟨y, zs, hzs, hy⟩ := ih
          exact ⟨y, zs, by simp [hz, hzs], hy⟩

theorem letters_keyword {text : String} (w : Keyword text) :
    letters text.toList w.token.skeleton.toList = some [] := by
  obtain ⟨value, hw, hvalue⟩ := w.exists_value
  rw [hw, Token.skeleton, ← List.append_nil value.toList, letters_append hvalue]

theorem Marks.found_holds_keyword {text : String} (w : Keyword text) : found.holds text w.token := by
  have hkeywords : keywords text none w.token.skeleton.toList = some [] := by
    rw [keywords_none, letters_keyword]
    rfl
  exact occurs_of_head hkeywords

theorem Marks.found_ends_keyword {text : String} (w : Keyword text) : found.ends text w.token := by
  have hend : sequence [letters text.toList, textEnd] w.token.skeleton.toList = some [] := by
    rw [sequence_pair, letters_keyword]
    rfl
  exact occurs_of_head hend

theorem exists_stem (hk : isBare keyword) (ht : t.Wordlike) (h : Marks.found.holds keyword t) :
    ∃ a behind, find? (keywords keyword none) false t.skeleton.toList = some (a, behind) ∧
      IsStem a := by
  obtain ⟨⟨a, behind⟩, hf⟩ := Option.isSome_iff_exists.mp h
  obtain ⟨rest, hs, -⟩ := exists_of_find? hf
  by_cases hbare : ∃ value, t = .word value false
  · obtain ⟨value, rfl⟩ := hbare
    have hvalue : value.toList = a ++ rest := hs
    exact ⟨a, behind, hf, isStem_of_append (hvalue ▸ ht value rfl)⟩
  · have hmem := Token.skeleton_mem_standIns fun value hv => hbare ⟨value, hv⟩
    rw [(Marks.found_eq_false (List.all_eq_true.mp hk t.skeleton hmem)).1] at h
    cases h

/-- The part of a projection in which a count is sought: up to the first token that holds `FROM`. -/
def Marks.counted (m : Marks) (projection : List Token) : List Token :=
  projection.takeWhile fun t => !m.holds "FROM" t

theorem Marks.counted_subset (m : Marks) (ts : List Token) : m.counted ts ⊆ ts :=
  (List.takeWhile_prefix _).subset

theorem verbOf_query_eq {d : Query} (hwordlike : ∀ t ∈ d.tokens, t.Wordlike)
    (hm : misleads (skeletonOf d.tokens) = false) :
    verbOf (skeletonOf d.tokens) =
      if Marks.found.countOfAll.occurs (Marks.found.counted d.projection.tokens) then .count
      else .select := by
  obtain ⟨more, htokens⟩ : ∃ more,
      d.tokens = d.selectWord.token :: (d.projection.tokens ++ d.fromWord.token :: more) :=
    ⟨_, rfl⟩
  obtain ⟨t, post, hsplit, ht⟩ :=
    exists_takeWhile_append (Marks.found_holds_keyword d.fromWord) d.projection.tokens more
  have hselect := find?_of_head (keywords_of_keyword d.selectWord
    (List.append_ne_nil_of_left_ne_nil d.projection.ne_nil (d.fromWord.token :: more)))
  rw [← htokens, hsplit] at hselect
  rw [htokens, hsplit] at hwordlike
  have hcounted : ∀ u ∈ Marks.found.counted d.projection.tokens, u.Wordlike := fun u hu =>
    hwordlike u (List.mem_cons_of_mem _ (List.mem_append_left _ hu))
  have hnot : ∀ u ∈ Marks.found.counted d.projection.tokens, Marks.found.holds "FROM" u = false :=
    fun u hu => by simpa using List.all_eq_true.mp List.all_takeWhile u hu
  obtain ⟨a, behind, hfind, ha⟩ := exists_stem (by decide) (hwordlike t (by simp)) ht
  obtain ⟨behind', hfrom⟩ := find?_skeletonOf post (by decide) hnot hfind
  have hcount := occurs_countOfAll hcounted ha
  -- Behind `SELECT` stands the blank in front of the projection.
  rw [misleads, Bool.or_eq_false_iff, Bool.or_eq_false_iff] at hm
  rw [verbOf, hm.1.1, hm.1.2, hm.2, hselect]
  simp only [Bool.false_eq_true, if_false]
  rw [← hcount, find?_blank rfl, ← Marks.counted, hfrom]
  have hblank (cs : List Char) : occurs countOfAll (' ' :: cs) = occurs countOfAll cs := by
    rw [occurs, find?_blank rfl, Option.isSome_map]
    rfl
  simp only [Option.map_some, hblank]

theorem Marks.counted_of_plain (h : ∀ t ∈ ts, t.isPlain) : found.counted ts = whole.counted ts := by
  induction ts with
  | nil => rfl
  | cons t ts ih =>
      have hbare : isBare "FROM" := by decide
      have ht := (found_eq_whole hbare (h t List.mem_cons_self)).1
      rw [counted, counted, List.takeWhile_cons, List.takeWhile_cons, ht, ← counted, ← counted,
        ih fun u hu => h u (List.mem_cons_of_mem t hu)]

theorem Marks.occurs_countOfAll_of_plain (h : ∀ t ∈ ts, t.isPlain) :
    found.countOfAll.occurs ts = whole.countOfAll.occurs ts :=
  Phrase.occurs_congr (.cons (fun _ ht => (found_eq_whole (by decide) ht).2.1)
    (.cons (fun _ _ => rfl) (.cons (fun _ _ => rfl) (.cons (fun _ _ => rfl) .nil)))) h

theorem Verb.isQuery_of_isMutation {verb : Verb} (h : verb.isMutation) : verb.isQuery = false := by
  cases verb with
  | insert | update | delete => rfl
  | _ => cases h

/-- A query is a count if `COUNT(*)` stands in its projection in front of every token that holds
`FROM`, in parentheses or not. -/
theorem count_iff_counted {text table : String} {projection : List Token}
    {condition : Option Equality} {limit : Option Nat}
    (h : formOf Form.readSelect text = .ok (.select projection table condition limit))
    (hq : (classify text).isQuery) :
    (classify text = .count ↔ Marks.found.countOfAll.occurs (Marks.found.counted projection)) ∧
    ((∀ t ∈ projection, t.isPlain) →
      (classify text = .count ↔ Marks.whole.countOfAll.occurs (Marks.whole.counted projection)) ∧
      ((∀ t ∈ projection, t.isKeyword "FROM" = false) →
        (classify text = .count ↔ Marks.whole.countOfAll.occurs projection))) := by
  obtain ⟨ts, hts, hform⟩ := formOf_eq_ok.mp h
  obtain ⟨d, -, rfl, hd⟩ := Form.readSelect_iff.mp hform
  cases hd
  have hclassify := classify_of_tokenize hts
  have hm : misleads (skeletonOf d.tokens) = false := by
    rw [Bool.eq_false_iff]
    -- otherwise the verb would be that of a mutation
    intro hm
    have hverb := verbOf_query d
    rw [if_pos hm, ← hclassify] at hverb
    rw [Verb.isQuery_of_isMutation hverb] at hq
    cases hq
  have hfound : classify text = .count ↔
      Marks.found.countOfAll.occurs (Marks.found.counted d.projection.tokens) := by
    rw [hclassify, verbOf_query_eq (tokenize_wordlike hts) hm]
    split <;> simp_all
  refine ⟨hfound, fun hplain => ?_⟩
  have hwhole : classify text = .count ↔
      Marks.whole.countOfAll.occurs (Marks.whole.counted d.projection.tokens) := by
    have hcounted := fun t ht => hplain t (Marks.whole.counted_subset d.projection.tokens ht)
    rw [hfound, Marks.counted_of_plain hplain, Marks.occurs_countOfAll_of_plain hcounted]
  refine ⟨hwhole, fun hfrom => ?_⟩
  have hall : Marks.whole.counted d.projection.tokens = d.projection.tokens :=
    List.takeWhile_eq_self_iff.mpr fun t ht => by
      have ht : Marks.whole.holds "FROM" t = false := hfrom t ht
      rw [ht]
      rfl
  rw [hwhole, hall]

theorem count_iff_counted_in_front :
    let text := "SELECT COUNT(*), f(day FROM d) FROM t"
    let projection := [.word "COUNT" false, .leftParen, .star, .rightParen, .comma, .word "f" false,
      .leftParen, .word "day" false, .word "FROM" false, .word "d" false, .rightParen]
    formOf Form.readSelect text = .ok (.select projection "t" none none) ∧ (classify text).isQuery ∧
      (∀ t ∈ projection, t.isPlain) ∧ classify text = .count := by
  intro text projection
  have h : formOf Form.readSelect text = .ok (.select projection "t" none none) := by decide +kernel
  have hq : (classify text).isQuery := by decide +kernel
  have hplain : ∀ t ∈ projection, t.isPlain := by decide +kernel
  exact ⟨h, hq, hplain, ((count_iff_counted h hq).2 hplain).1.mpr (by decide +kernel)⟩

/-- A `FROM` in parentheses hides the count behind it. -/
theorem count_behind_nested_from_missed :
    let text := "SELECT f(day FROM d), COUNT(*) FROM t"
    let projection := [.word "f" false, .leftParen, .word "day" false, .word "FROM" false,
      .word "d" false, .rightParen, .comma, .word "COUNT" false, .leftParen, .star, .rightParen]
    formOf Form.readSelect text = .ok (.select projection "t" none none) ∧
      Marks.whole.countOfAll.occurs projection ∧ classify text = .select := by
  decide +kernel

end DocQuery.Sql
