import DocQuery.Proofs.Sql.KeywordGaps

namespace DocQuery.Sql

open Text (isBlank isWordCharacter)

namespace Search

variable {ls xs ys s : List Char} {k : Pattern}

def textEnd : Pattern
  | [] => some []
  | _ :: _ => none

theorem sequence_pair (p q : Pattern) (cs : List Char) : sequence [p, q] cs = (p cs).bind q := by
  simp [sequence, Option.bind_eq_bind]

/-- A pattern that does not match right behind a letter. -/
structure Separated (k : Pattern) : Prop where
  nil : k [] = none
  cons : ∀ c cs, isBreak c = false → k (c :: cs) = none

theorem letters_bind_separated (hk : Separated k) (hlength : 3 ≤ ls.length)
    (htail : ∀ c ∈ xs.drop 3, isBreak c = false) (hs : s <:+ xs) (behind : List Char) :
    (letters ls s).bind (fun rest => k (rest ++ behind)) =
      ((letters ls s).bind textEnd).bind fun _ => k behind := by
  cases hl : letters ls s with
  | none => rfl
  | some rest =>
      cases rest with
      | nil => rfl
      | cons c rest =>
          obtain ⟨a, rfl, ha⟩ := letters_eq_some_iff.mp hl
          obtain ⟨before, rfl⟩ := hs
          refine hk.cons c (rest ++ behind) (htail c ?_)
          rw [← List.append_assoc, List.drop_append_of_le_length]
          · exact List.mem_append_right _ List.mem_cons_self
          · rw [List.length_append, ← ha.length_eq]
            omega

theorem occurs_separated (hk : Separated k) (hlength : 3 ≤ ls.length)
    (htail : ∀ c ∈ xs.drop 3, isBreak c = false) :
    occurs (fun cs => (letters ls cs).bind k) xs = false := by
  have hnone : ∀ s, s <:+ xs → (letters ls s).bind k = none := fun s hs => by
    have h := letters_bind_separated hk hlength htail hs []
    simpa only [List.append_nil, hk.nil, Option.bind_fun_none] using h
  rw [occurs, find?_eq_none hnone]
  rfl

theorem occurs_append_separated (hsolid : solid ls) (hk : Separated k) (hlength : 3 ≤ ls.length)
    (htail : ∀ c ∈ xs.drop 3, isBreak c = false) :
    occurs (fun cs => (letters ls cs).bind k) (xs ++ ' ' :: ys) =
      (occurs (sequence [letters ls, textEnd]) xs && (k (' ' :: ys)).isSome ||
        occurs (fun cs => (letters ls cs).bind k) ys) := by
  have hmatch (s : List Char) (hs : s <:+ xs) : (letters ls (s ++ ' ' :: ys)).bind k =
      (sequence [letters ls, textEnd] s).bind fun _ => k (' ' :: ys) := by
    rw [letters_append_blank hsolid, Option.bind_map, sequence_pair]
    exact letters_bind_separated hk hlength htail hs (' ' :: ys)
  cases hbehind : k (' ' :: ys) with
  | none =>
      simp only [hbehind, Option.bind_fun_none] at hmatch
      rw [occurs, find?_skip hmatch, Option.isSome_map, Option.isSome_none, Bool.and_false,
        Bool.false_or]
      rfl
  | some rest =>
      simp only [hbehind] at hmatch
      rw [occurs_append_blank fun s hs => (hmatch s hs).trans Option.map_eq_bind.symm,
        Option.isSome_some, Bool.and_true]

end Search

open Search

/-- Predicates of tokens that stand one behind the other. -/
abbrev Phrase := List (Token → Bool)

namespace Phrase

def leads : Phrase → List Token → Bool
  | [], _ => true
  | _ :: _, [] => false
  | p :: ps, t :: ts => p t && leads ps ts

def occurs (ps : Phrase) : List Token → Bool
  | [] => ps.leads []
  | t :: ts => ps.leads (t :: ts) || occurs ps ts

variable {ts : List Token} {ps qs : Phrase} {r : Token → Prop}

theorem leads_congr (h : List.Forall₂ (fun p q => ∀ t, r t → p t = q t) ps qs)
    (hts : ∀ t ∈ ts, r t) : ps.leads ts = qs.leads ts := by
  induction h generalizing ts with
  | nil => rfl
  | cons hp _ ih =>
      cases ts with
      | nil => rfl
      | cons t ts =>
          rw [leads, leads, hp t (hts t List.mem_cons_self),
            ih fun u hu => hts u (List.mem_cons_of_mem t hu)]

theorem occurs_congr (h : List.Forall₂ (fun p q => ∀ t, r t → p t = q t) ps qs)
    (hts : ∀ t ∈ ts, r t) : ps.occurs ts = qs.occurs ts := by
  induction ts with
  | nil => exact leads_congr h hts
  | cons t ts ih =>
      rw [occurs, occurs, leads_congr h hts, ih fun u hu => hts u (List.mem_cons_of_mem t hu)]

variable {xs ys : List Token} {p : Token → Bool}

theorem leads_append (h : ∀ p ∈ ps, ∀ t ∈ ys, p t = false) : ps.leads (xs ++ ys) = ps.leads xs := by
  induction ps generalizing xs with
  | nil => rfl
  | cons p ps ih =>
      cases xs with
      | nil =>
          cases ys with
          | nil => rfl
          | cons y ys =>
              have hy := h p List.mem_cons_self y List.mem_cons_self
              simp [leads, hy]
      | cons x xs => rw [List.cons_append, leads, leads, ih fun q hq => h q (List.mem_cons_of_mem p hq)]

theorem occurs_append (h : ∀ q ∈ p :: ps, ∀ t ∈ ys, q t = false) :
    Phrase.occurs (p :: ps) (xs ++ ys) = Phrase.occurs (p :: ps) xs := by
  induction xs with
  | nil =>
      rw [List.nil_append]
      induction ys with
      | nil => rfl
      | cons y ys ih =>
          have hy := h p List.mem_cons_self y List.mem_cons_self
          have hys := ih fun q hq t ht => h q hq t (List.mem_cons_of_mem y ht)
          rw [← hys]
          simp [occurs, leads, hy]
  | cons x xs ih => rw [List.cons_append, occurs, occurs, ← List.cons_append, leads_append h, ih]

theorem occurs_skip (h : ∀ t ∈ xs, p t = false) :
    Phrase.occurs (p :: ps) (xs ++ ys) = Phrase.occurs (p :: ps) ys := by
  induction xs with
  | nil => rfl
  | cons x xs ih =>
      rw [List.cons_append, occurs, leads, h x List.mem_cons_self, Bool.false_and, Bool.false_or,
        ih fun t ht => h t (List.mem_cons_of_mem x ht)]

end Phrase

/-- Where a keyword stands in a token: anywhere, at its end, or at its start. -/
structure Marks where
  holds : String → Token → Bool
  ends : String → Token → Bool
  opens : String → Token → Bool

namespace Marks

/-- The keyword stands in the text of the token between the bounds of a word. -/
def found : Marks where
  holds keyword t := Search.occurs (keywords keyword none) t.skeleton.toList
  ends keyword t := Search.occurs (sequence [letters keyword.toList, textEnd]) t.skeleton.toList
  opens keyword t := (keywords keyword none t.skeleton.toList).isSome

def whole : Marks := ⟨Token.isKeyword, Token.isKeyword, Token.isKeyword⟩

def phrase (m : Marks) (first : String) : Option String → Phrase
  | none => [m.holds first]
  | some second => [m.ends first, m.opens second]

def countOfAll (m : Marks) : Phrase :=
  [m.ends "COUNT", (· == .leftParen), (· == .star), (· == .rightParen)]

end Marks

variable {ts us : List Token} {t u : Token} {keyword first : String} {second : Option String}

theorem wordEnd_isSome_iff {cs : List Char} :
    (wordEnd cs).isSome ↔ ∀ c ∈ cs.head?, isWordCharacter c = false := by
  cases cs with
  | nil => simp [wordEnd]
  | cons c cs =>
      rw [wordEnd]
      cases hc : isWordCharacter c <;> simp [hc]

theorem keywords_isSome_iff {cs : List Char} : (keywords keyword none cs).isSome ↔
    ∃ word behind, cs = word ++ behind ∧
      List.Forall₂ (fun l c => matchesLetter l c = true) keyword.toList word ∧
      ∀ c ∈ behind.head?, isWordCharacter c = false := by
  rw [keywords_none]
  constructor
  · intro h
    cases hl : letters keyword.toList cs with
    | none => rw [hl] at h; cases h
    | some behind =>
        obtain ⟨word, hcs, hword⟩ := letters_eq_some_iff.mp hl
        rw [hl, Option.bind_some, wordEnd_isSome_iff] at h
        exact ⟨word, behind, hcs, hword, h⟩
  · rintro ⟨word, behind, hcs, hword, h⟩
    rw [letters_eq_some_iff.mpr ⟨word, hcs, hword⟩, Option.bind_some, wordEnd_isSome_iff]
    exact h

namespace Marks

theorem found_opens_iff : found.opens keyword t ↔ ∃ word behind, t.skeleton.toList = word ++ behind ∧
    List.Forall₂ (fun l c => matchesLetter l c = true) keyword.toList word ∧
    ∀ c ∈ behind.head?, isWordCharacter c = false :=
  keywords_isSome_iff

theorem found_holds_iff : found.holds keyword t ↔ ∃ before word behind,
    t.skeleton.toList = before ++ (word ++ behind) ∧
    (∀ c ∈ before.getLast?, isWordCharacter c = false) ∧
    List.Forall₂ (fun l c => matchesLetter l c = true) keyword.toList word ∧
    ∀ c ∈ behind.head?, isWordCharacter c = false := by
  rw [found, occurs_iff]
  simp only [keywords_isSome_iff]
  constructor
  · rintro ⟨before, -, hs, hbefore, word, behind, rfl, hword, hbehind⟩
    exact ⟨before, word, behind, hs, hbefore, hword, hbehind⟩
  · rintro ⟨before, word, behind, hs, hbefore, hword, hbehind⟩
    exact ⟨before, _, hs, hbefore, word, behind, rfl, hword, hbehind⟩

theorem found_ends_iff : found.ends keyword t ↔ ∃ before word, t.skeleton.toList = before ++ word ∧
    (∀ c ∈ before.getLast?, isWordCharacter c = false) ∧
    List.Forall₂ (fun l c => matchesLetter l c = true) keyword.toList word := by
  have hend (cs : List Char) : (sequence [letters keyword.toList, textEnd] cs).isSome ↔
      List.Forall₂ (fun l c => matchesLetter l c = true) keyword.toList cs := by
    rw [sequence_pair]
    constructor
    · intro h
      cases hl : letters keyword.toList cs with
      | none => rw [hl] at h; cases h
      | some behind =>
          obtain ⟨word, rfl, hword⟩ := letters_eq_some_iff.mp hl
          cases behind with
          | nil => rwa [List.append_nil]
          | cons c behind => rw [hl] at h; cases h
    · intro h
      rw [letters_eq_some_iff.mpr ⟨cs, (List.append_nil cs).symm, h⟩]
      rfl
  rw [found, occurs_iff]
  simp only [hend]

theorem found_eq_false (h : lacks keyword (t.skeleton.toList.map Char.toLower)) :
    found.holds keyword t = false ∧ found.ends keyword t = false ∧ found.opens keyword t = false := by
  have hnone (s : List Char) (hs : s <:+ t.skeleton.toList) : letters keyword.toList s = none :=
    letters_eq_none h hs
  refine ⟨occurs_eq_false h, ?_, ?_⟩
  · change occurs (sequence [letters keyword.toList, textEnd]) t.skeleton.toList = false
    rw [occurs, find?_eq_none fun s hs => by rw [sequence_pair, hnone s hs]; rfl]
    rfl
  · change (keywords keyword none t.skeleton.toList).isSome = false
    rw [keywords_eq_none (hnone _ List.suffix_rfl)]
    rfl

end Marks

theorem skeletonOf_singleton (t : Token) : skeletonOf [t] = t.skeleton.toList := by
  simp [skeletonOf]

theorem dropWhile_skeletonOf (hu : u.Tight) :
    (skeletonOf (u :: us)).dropWhile isBlank = skeletonOf (u :: us) := by
  by_cases hus : us = []
  · rw [hus, skeletonOf_singleton]
    simpa using dropWhile_isBlank_of_isTight hu []
  · rw [skeletonOf_cons u hus, dropWhile_isBlank_of_isTight hu]

theorem keywords_skeletonOf (hsolid : solid first.toList) :
    (keywords first none (skeletonOf (u :: us))).isSome = Marks.found.opens first u := by
  by_cases hus : us = []
  · rw [hus, skeletonOf_singleton]
    rfl
  · rw [skeletonOf_cons u hus, keywords_append_blank hsolid, Option.isSome_map]
    rfl

theorem not_isBreak_of_isTight {cs : List Char} (h : isTight cs) :
    ∀ c ∈ cs.drop 3, isBreak c = false := by
  cases cs with
  | nil => cases h
  | cons c cs =>
      rw [isTight, Bool.and_eq_true, List.all_eq_true] at h
      intro d hd
      simpa using h.2 d hd

/-- Keywords with which a search through the text is one through the tokens: the first is long
enough for its end to be the end of a token if a blank stands behind it. -/
def tokenwise (first : String) (second : Option String) : Bool :=
  solid first.toList && decide (3 ≤ first.toList.length) && second.all fun w => solid w.toList

theorem occurs_keywords (h : tokenwise first second) (htight : ∀ t ∈ ts, t.Tight) :
    occurs (keywords first second) (skeletonOf ts) = (Marks.found.phrase first second).occurs ts := by
  simp only [tokenwise, Bool.and_eq_true, decide_eq_true_eq, Option.all_eq_true] at h
  obtain ⟨⟨hsolid, hlength⟩, hsecond⟩ := h
  induction ts with
  | nil =>
      -- `first` has letters, and so it does not match nothing
      have hnone : letters first.toList [] = none := by
        cases hl : first.toList with
        | nil => rw [hl] at hlength; cases hlength
        | cons l ls => rfl
      have hnil : occurs (keywords first second) [] = false := by
        rw [occurs, find?_nil, keywords_eq_none hnone]
        rfl
      cases second <;> exact hnil
  | cons t ts ih =>
      have ht := htight t List.mem_cons_self
      have ih := ih fun u hu => htight u (List.mem_cons_of_mem t hu)
      cases second with
      | none =>
          cases ts with
          | nil =>
              rw [skeletonOf_singleton]
              simp [Marks.phrase, Phrase.occurs, Phrase.leads, Marks.found]
          | cons u us =>
              rw [skeletonOf_cons t (List.cons_ne_nil u us),
                occurs_append_blank fun s _ => keywords_append_blank hsolid, ih]
              simp [Marks.phrase, Phrase.occurs, Phrase.leads, Marks.found]
      | some w =>
          have hk : Separated fun rest => ((someBlanks rest).bind (letters w.toList)).bind wordEnd :=
            ⟨rfl, fun c cs hc => by
              rw [isBreak, Bool.or_eq_false_iff] at hc
              rw [someBlanks, if_neg (by simp [hc.1])]
              rfl⟩
          rw [funext (keywords_some first w)] at ih ⊢
          cases ts with
          | nil =>
              rw [skeletonOf_singleton, occurs_separated hk hlength (not_isBreak_of_isTight ht)]
              simp [Marks.phrase, Phrase.occurs, Phrase.leads]
          | cons u us =>
              -- the second keyword can begin only behind the blank, where `u` stands
              have hbehind : (((someBlanks (' ' :: skeletonOf (u :: us))).bind
                  (letters w.toList)).bind wordEnd).isSome = Marks.found.opens w u := by
                have hu := htight u (List.mem_cons_of_mem t List.mem_cons_self)
                rw [someBlanks, if_pos (by decide), blanks, dropWhile_skeletonOf hu, Option.bind_some,
                  ← keywords_none, keywords_skeletonOf (hsecond w rfl)]
              rw [skeletonOf_cons t (List.cons_ne_nil u us),
                occurs_append_separated hsolid hk hlength (not_isBreak_of_isTight ht), ih, hbehind]
              simp [Marks.phrase, Phrase.occurs, Phrase.leads, Marks.found]

end DocQuery.Sql
