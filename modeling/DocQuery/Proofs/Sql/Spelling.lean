import DocQuery.Sql.Tokenizer
import Mathlib.Data.List.Basic

namespace DocQuery.Sql

open Text (isAlphabetic)

def doubled (q : Char) (cs : List Char) : List Char :=
  cs.flatMap fun c => if c = q then [q, q] else [c]

def enclosed (q : Char) (s : String) : List Char :=
  q :: (doubled q s.toList ++ [q])

def Token.spelling : Token → List Char
  | word value true => enclosed '"' value
  | word value false => value.toList
  | string value => enclosed '\'' value
  | number text => text.toList
  | symbol => symbol.display.toList

/-- The tokens that are read back from their spelling if a delimiter or nothing follows. -/
inductive Token.Spellable : Token → Prop
  | name (value : String) : Spellable (.word value true)
  | word (c : Char) (cs : List Char) (hc : startsWord c) (hcs : cs.all continuesWord) :
      Spellable (.word (String.ofList (c :: cs)) false)
  | string (value : String) : Spellable (.string value)
  | number (cs : List Char) (hne : cs ≠ []) (hcs : cs.all Char.isDigit) :
      Spellable (.number (String.ofList cs))
  | placeholder : Spellable .placeholder
  | leftParen : Spellable .leftParen
  | rightParen : Spellable .rightParen
  | comma : Spellable .comma
  | equal : Spellable .equal
  | star : Spellable .star

def Token.Delimits : Token → Prop
  | leftParen | rightParen | comma => True
  | _ => False

def delimiters : List Char := [' ', '\t', '\n', '\r', '(', ')', ',']

def Ends (rest : List Char) : Prop := ∀ c ∈ rest.head?, c ∈ delimiters

/-- Some characters write some tokens, with blanks between them. Two tokens that would run together
must have one. -/
inductive Spells : List Token → List Char → Prop
  | nil : Spells [] []
  | blank {ts : List Token} {cs : List Char} (c : Char) (hc : c ∈ [' ', '\t', '\n', '\r'])
      (h : Spells ts cs) : Spells ts (c :: cs)
  | token {ts : List Token} {cs : List Char} (t : Token) (ht : t.Delimits ∨ Ends cs)
      (h : Spells ts cs) : Spells (t :: ts) (t.spelling ++ cs)

def spaced (ts : List Token) : List Char :=
  [' '].intercalate (ts.map Token.spelling)

variable {c : Char} {cs rest : List Char} {afterWord : Bool}

theorem quoted_enclosed (q : Char) (s : List Char) (h : rest.head? ≠ some q) :
    quoted q (doubled q s ++ (q :: rest)) = some (s, rest) := by
  induction s with
  | nil =>
      cases rest with
      | nil => simp [doubled, quoted]
      | cons d rest =>
          have hd : d ≠ q := fun he => h (by rw [he]; rfl)
          simp [doubled, quoted, hd]
  | cons c s ih =>
      have hcons : doubled q (c :: s) = (if c = q then [q, q] else [c]) ++ doubled q s := rfl
      rw [hcons, List.append_assoc]
      by_cases hc : c = q
      · subst hc
        simp [quoted, ih, push]
      · obtain ⟨d, ds, hd⟩ : ∃ d ds, doubled q s ++ (q :: rest) = d :: ds :=
          List.exists_cons_of_ne_nil (by simp)
        rw [if_neg hc]
        rw [hd] at ih ⊢
        simp [quoted, hc, ih, push]

theorem head?_ne_of_ends (h : Ends rest) {q : Char} (hq : q ∉ delimiters) :
    rest.head? ≠ some q := by
  intro he
  exact hq (h q he)

theorem head?_of_ends (p : Char → Prop) [DecidablePred p] (h : Ends rest)
    (hp : delimiters.all fun d => decide (p d)) : ∀ d ∈ rest.head?, p d := by
  intro d hd
  exact of_decide_eq_true (List.all_eq_true.mp hp d (h d hd))

theorem lexeme_name (value : String) (h : Ends rest) :
    lexeme afterWord '"' (doubled '"' value.toList ++ '"' :: rest) =
      .ok (.token (.word value true), rest) := by
  have hq := quoted_enclosed '"' value.toList (head?_ne_of_ends h (by decide))
  simp [lexeme, lettered?, hq]

theorem lexeme_text (value : String) (h : Ends rest) :
    lexeme afterWord '\'' (doubled '\'' value.toList ++ '\'' :: rest) =
      .ok (.token (.string value), rest) := by
  have hq := quoted_enclosed '\'' value.toList (head?_ne_of_ends h (by decide))
  simp [lexeme, lettered?, hq]

theorem ne_of_holds {p : Char → Bool} (hc : p c) {k : Char} (hk : p k = false) : c ≠ k := by
  rintro rfl
  rw [hk] at hc
  cases hc

theorem forall_ne_of_holds {p : Char → Bool} (hc : p c) (ks : List Char)
    (hks : ks.all fun k => !p k) : ∀ k ∈ ks, c ≠ k := by
  intro k hk
  have hn := List.all_eq_true.mp hks k hk
  exact ne_of_holds hc (by simpa using hn)

theorem not_startsWord_of_isDigit (hc : c.isDigit) : startsWord c = false := by
  have hall : ∀ n < 58, 48 ≤ n → startsWord (Char.ofNat n) = false := by decide
  simp only [Char.isDigit, Bool.and_eq_true, decide_eq_true_eq] at hc
  have h := hall c.toNat (Nat.lt_succ_of_le hc.2) hc.1
  rwa [Char.ofNat_toNat] at h

theorem lettered?_eq_none (h : ∀ d ∈ cs.head?, d ≠ '\'' ∧ d ≠ '"' ∧ d ≠ '&') :
    lettered? c cs = none := by
  have hq {d : Char} {r : List Char} (he : cs = d :: r) : d ≠ '\'' ∧ d ≠ '"' ∧ d ≠ '&' :=
    h d (by rw [he]; rfl)
  unfold lettered?
  repeat' split
  all_goals first
    | rfl
    | exact absurd rfl (hq rfl).1
    | exact absurd rfl (hq rfl).2.1
    | exact absurd rfl (hq rfl).2.2

theorem operator?_eq_none (hc : startsWord c) : operator? (c :: cs) = none := by
  have hall : ∀ o ∈ operators, (o.1.head?.any fun k => !startsWord k) = true := by decide
  rw [operator?, List.findSome?_eq_none_iff]
  rintro ⟨spelling, token⟩ ho
  have hs := hall _ ho
  cases spelling with
  | nil => cases hs
  | cons k ks =>
      have hk : startsWord k = false := by simpa using hs
      simp [behind?, (ne_of_holds hc hk).symm]

theorem comment?_eq_none (h1 : c ≠ '-') (h2 : c ≠ '/') : comment? (c :: cs) = none := by
  unfold comment?
  split
  · rename_i he
    exact absurd (List.cons.inj he).1 h1
  · rename_i he
    exact absurd (List.cons.inj he).1 h2
  · rfl

theorem takeWhile_of_head? {p : Char → Bool} (hr : ∀ d ∈ rest.head?, p d = false) :
    rest.takeWhile p = [] ∧ rest.dropWhile p = rest := by
  cases rest with
  | nil => exact ⟨rfl, rfl⟩
  | cons d rest => simp [hr d rfl]

theorem takeWhile_append_of_all {p : Char → Bool} (h : cs.all p) (hr : ∀ d ∈ rest.head?, p d = false) :
    (cs ++ rest).takeWhile p = cs ∧ (cs ++ rest).dropWhile p = rest := by
  induction cs with
  | nil => exact takeWhile_of_head? hr
  | cons c cs ih =>
      simp only [List.all_cons, Bool.and_eq_true] at h
      simp [h.1, ih h.2]

theorem lexeme_word (hc : startsWord c) (hcs : cs.all continuesWord) (h : Ends rest) :
    lexeme afterWord c (cs ++ rest) =
      .ok (.token (.word (String.ofList (c :: cs)) false), rest) := by
  -- every earlier branch of the lexer is for a character that starts no word
  have hne := forall_ne_of_holds hc
    [' ', '\t', '\n', '\r', '\'', '"', '\x60', '.', '#', '@', '?', '-', '/'] (by decide)
  simp only [List.forall_mem_cons] at hne
  have hhead : ∀ d ∈ (cs ++ rest).head?, d ≠ '\'' ∧ d ≠ '"' ∧ d ≠ '&' := by
    intro d hd
    cases cs with
    | nil => exact head?_of_ends (fun d => d ≠ '\'' ∧ d ≠ '"' ∧ d ≠ '&') h (by decide) d hd
    | cons e cs =>
        obtain rfl : e = d := by simpa using hd
        have he : continuesWord e = true := by
          simp only [List.all_cons, Bool.and_eq_true] at hcs
          exact hcs.1
        have hq := forall_ne_of_holds he ['\'', '"', '&'] (by decide)
        simpa using hq
  have htail := takeWhile_append_of_all hcs
    (head?_of_ends (continuesWord · = false) h (by decide))
  have hdigit : c.isDigit = false := by
    cases hd : c.isDigit with
    | false => rfl
    | true => rw [not_startsWord_of_isDigit hd] at hc; cases hc
  have hcomment : comment? (c :: (cs ++ rest)) = none := comment?_eq_none (by simp [hne]) (by simp [hne])
  rw [lexeme, if_neg (by simp [hne]), lettered?_eq_none hhead]
  simp only [hne, hdigit, Bool.false_eq_true, or_self, if_false, hcomment, operator?_eq_none hc, hc,
    if_true, bareWord, htail, List.cons_append, List.nil_append]

theorem exponentOf_of_ends (h : Ends rest) : exponentOf rest = [] := by
  cases rest with
  | nil => rfl
  | cons d rest =>
      have he := head?_of_ends (fun d => d ≠ 'e' ∧ d ≠ 'E') h (by decide) d rfl
      simp only [exponentOf, he.1, he.2, or_self, if_false]

theorem decimal_of_ends {whole : List Char} (hw : whole ≠ []) (h : Ends rest) :
    decimal whole rest = (.number (String.ofList whole), rest) := by
  have hdot := head?_ne_of_ends h (q := '.') (by decide)
  have hL := head?_ne_of_ends h (q := 'L') (by decide)
  have hdigits : rest.takeWhile Char.isDigit = [] :=
    (takeWhile_of_head? (head?_of_ends (·.isDigit = false) h (by decide))).1
  simp [decimal, hdot, hL, hdigits, exponentOf_of_ends h, hw]

theorem lexeme_number (hcs : (c :: cs).all Char.isDigit) (h : Ends rest) :
    lexeme afterWord c (cs ++ rest) =
      .ok (.token (.number (String.ofList (c :: cs))), rest) := by
  have hc : c.isDigit = true := by
    simp only [List.all_cons, Bool.and_eq_true] at hcs
    exact hcs.1
  have hne := forall_ne_of_holds hc [' ', '\t', '\n', '\r', '\'', '"', '\x60', '.'] (by decide)
  simp only [List.forall_mem_cons] at hne
  obtain ⟨htake, hdrop⟩ := takeWhile_append_of_all hcs
    (head?_of_ends (·.isDigit = false) h (by decide))
  have hl : lettered? c (cs ++ rest) = none := by
    have hletter := forall_ne_of_holds hc
      ['b', 'B', 'r', 'R', 'n', 'N', 'e', 'E', 'u', 'U', 'x', 'X'] (by decide)
    simp only [List.forall_mem_cons] at hletter
    simp only [lettered?, hletter, or_self, if_false]
  have hnum : numeral (c :: (cs ++ rest)) = (.number (String.ofList (c :: cs)), rest) := by
    have hx := head?_ne_of_ends h (q := 'x') (by decide)
    simp only [numeral, ← List.cons_append, htake, hdrop, hx, and_false, if_false]
    exact decimal_of_ends (by simp) h
  rw [lexeme, if_neg (by simp [hne]), hl]
  simp only [hne, or_self, if_false, hc, true_or, if_true, numberOrPeriod, false_and, hnum]

theorem lexeme_question (h : Ends rest) :
    lexeme afterWord '?' rest = .ok (.token .placeholder, rest) := by
  have hn := takeWhile_of_head? (head?_of_ends (Text.isNumeric · = false) h (by decide))
  change (question rest : LexemeResult) = _
  simp only [question, hn]
  rfl

theorem lexeme_equal (h : Ends rest) : lexeme afterWord '=' rest = .ok (.token .equal, rest) := by
  cases rest with
  | nil => rfl
  | cons d rest =>
      have hd := h d rfl
      simp only [delimiters, List.mem_cons, List.not_mem_nil, or_false] at hd
      rcases hd with rfl | rfl | rfl | rfl | rfl | rfl | rfl <;> rfl

theorem lexeme_spelling {t : Token} (ht : t.Spellable) (h : t.Delimits ∨ Ends rest) :
    ∃ c cs, t.spelling ++ rest = c :: cs ∧ lexeme afterWord c cs = .ok (.token t, rest) := by
  cases ht with
  | leftParen => exact ⟨'(', rest, rfl, rfl⟩
  | rightParen => exact ⟨')', rest, rfl, rfl⟩
  | comma => exact ⟨',', rest, rfl, rfl⟩
  | star => exact ⟨'*', rest, rfl, rfl⟩
  | equal => exact ⟨'=', rest, rfl, lexeme_equal (h.resolve_left id)⟩
  | placeholder => exact ⟨'?', rest, rfl, lexeme_question (h.resolve_left id)⟩
  | name value =>
      refine ⟨'"', _, ?_, lexeme_name value (h.resolve_left id)⟩
      simp [Token.spelling, enclosed]
  | string value =>
      refine ⟨'\'', _, ?_, lexeme_text value (h.resolve_left id)⟩
      simp [Token.spelling, enclosed]
  | word c cs hc hcs =>
      refine ⟨c, cs ++ rest, ?_, lexeme_word hc hcs (h.resolve_left id)⟩
      simp [Token.spelling]
  | number cs hne hcs =>
      obtain ⟨c, cs, rfl⟩ := List.exists_cons_of_ne_nil hne
      refine ⟨c, cs ++ rest, ?_, lexeme_number hcs (h.resolve_left id)⟩
      simp [Token.spelling]

theorem spells_spaced (ts : List Token) : Spells ts (spaced ts) := by
  induction ts with
  | nil => exact .nil
  | cons t ts ih =>
      cases ts with
      | nil =>
          have h := Spells.token t (Or.inr (by simp [Ends])) .nil
          simpa [spaced, List.intercalate] using h
      | cons u ts =>
          have hb : Spells (u :: ts) (' ' :: spaced (u :: ts)) := .blank ' ' (by simp) ih
          have h := Spells.token t (Or.inr (by simp [Ends, delimiters])) hb
          simpa [spaced, List.intercalate] using h

theorem scan_cons {x : Lexeme} (h : lexeme afterWord c cs = .ok (x, rest)) :
    scan afterWord (c :: cs) = (scan x.isWord rest).map (x.tokens ++ ·) := by
  rw [scan]
  split
  · rename_i hx
    rw [h] at hx
    cases hx
    rfl
  · rename_i hx
    rw [h] at hx
    cases hx

theorem scan_of_spells {ts : List Token} (h : Spells ts cs) (hts : ∀ t ∈ ts, t.Spellable) :
    scan afterWord cs = .ok ts := by
  induction h generalizing afterWord with
  | nil => rw [scan]
  | @blank ts cs c hc h ih =>
      have hl : lexeme afterWord c cs = .ok (.blank, cs) := by
        rw [lexeme, if_pos (by simpa using hc)]
      rw [scan_cons hl, ih hts]
      rfl
  | token t ht h ih =>
      obtain ⟨c, cs', hcs, hl⟩ := lexeme_spelling (hts t (by simp)) ht
      rw [hcs, scan_cons hl, ih fun u hu => hts u (by simp [hu])]
      rfl

theorem tokenize_of_spells {ts : List Token} {statement : String} (h : Spells ts statement.toList)
    (hts : ∀ t ∈ ts, t.Spellable) : tokenize statement = .ok ts := by
  rw [tokenize, scan_of_spells h hts]

end DocQuery.Sql
