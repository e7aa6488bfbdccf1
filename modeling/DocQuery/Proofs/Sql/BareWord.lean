import DocQuery.Proofs.Sql.Spelling
import DocQuery.Sql.Classification

namespace DocQuery.Text

def blankPoints : List Nat :=
  List.range' 9 5 ++ [0x20, 0x85, 0xA0, 0x1680] ++ List.range' 0x2000 11 ++
    [0x2028, 0x2029, 0x202F, 0x205F, 0x3000]

theorem mem_blankPoints {c : Char} (h : isBlank c) : c.toNat ∈ blankPoints := by
  simp only [isBlank, Bool.or_eq_true, Bool.and_eq_true, decide_eq_true_eq, beq_iff_eq] at h
  simp only [blankPoints, List.mem_append, List.mem_range'_1, List.mem_cons, List.not_mem_nil,
    or_false]
  omega

theorem not_isBlank_of_holds {p : Char → Bool}
    (hp : blankPoints.all fun n => !p (Char.ofNat n)) {c : Char} (h : p c) : isBlank c = false := by
  cases hb : isBlank c with
  | false => rfl
  | true =>
      have hn := List.all_eq_true.mp hp c.toNat (mem_blankPoints hb)
      rw [Char.ofNat_toNat, h] at hn
      cases hn

end DocQuery.Text

namespace DocQuery.Sql

open Text (isBlank not_isBlank_of_holds)

variable {c q : Char} {cs rest : List Char} {x : Lexeme} {afterWord : Bool}

/-- A text with the characters of a word, but for its second and its third character. -/
def isWordlike : List Char → Bool
  | [] => false
  | c :: cs => continuesWord c && (cs.drop 2).all continuesWord

def Token.Wordlike (t : Token) : Prop :=
  ∀ value, t = .word value false → isWordlike value.toList = true

def Lexeme.Wordlike (x : Lexeme) : Prop := ∀ t ∈ x.tokens, t.Wordlike

theorem continuesWord_of_startsWord (h : startsWord c) : continuesWord c := by
  simp only [startsWord, Bool.or_eq_true] at h
  rcases h with h | h <;> simp [continuesWord, h]

theorem bareWord_wordlike {start : List Char} (hc : continuesWord c) (hstart : start.length ≤ 2)
    (h : bareWord (c :: start) cs = .ok (x, rest)) : x.Wordlike := by
  simp only [bareWord, Except.ok.injEq, Prod.mk.injEq] at h
  obtain ⟨rfl, -⟩ := h
  intro t ht
  obtain rfl := List.mem_singleton.mp ht
  intro value hvalue
  cases hvalue
  have htail : ((start ++ cs.takeWhile continuesWord).drop 2).all continuesWord := by
    rw [List.drop_append, List.drop_eq_nil_of_le hstart, List.nil_append, List.all_eq_true]
    exact fun d hd => List.all_eq_true.mp List.all_takeWhile d (List.mem_of_mem_drop hd)
  rw [String.toList_ofList, List.cons_append, isWordlike, hc, htail]
  rfl

def Lexeme.NotBare (x : Lexeme) : Prop := ∀ value, x ≠ .token (.word value false)

theorem Lexeme.NotBare.wordlike (h : x.NotBare) : x.Wordlike := by
  cases x with
  | blank => intro t ht; cases ht
  | token u =>
      intro t ht
      obtain rfl := List.mem_singleton.mp ht
      exact fun value he => absurd (by rw [he]) (h value)

theorem marked_notBare {opening closing : String} {fault : Fault}
    {found : Option (List Char × List Char)}
    (h : marked opening closing fault found = .ok (x, rest)) : x.NotBare := by
  cases found with
  | none => cases h
  | some p =>
      cases h
      intro value
      simp

theorem rawText_notBare (h : rawText q cs = .ok (x, rest)) : x.NotBare := by
  unfold rawText at h
  repeat' split at h
  all_goals first
    | exact marked_notBare h
    | (cases h; intro value; simp)

theorem lettered?_notBare (h : lettered? c cs = some (.ok (x, rest))) : x.NotBare := by
  unfold lettered? at h
  repeat' split at h
  all_goals first
    | exact rawText_notBare (Option.some.inj h)
    | exact marked_notBare (Option.some.inj h)
    | cases h

theorem comment?_notBare (h : comment? cs = some (.ok (x, rest))) : x.NotBare := by
  have hx : x = .blank := by
    unfold comment? at h
    repeat' split at h
    all_goals cases h <;> rfl
  intro value
  simp [hx]

theorem operator?_notBare {t : Token} (h : operator? cs = some (t, rest)) :
    (Lexeme.token t).NotBare := by
  obtain ⟨⟨spelling, u⟩, hmem, hs⟩ := List.exists_of_findSome?_eq_some h
  obtain ⟨r, -, he⟩ := Option.map_eq_some_iff.1 hs
  have hwords : operators.all fun o => !o.2.isWord := by decide
  have hu := List.all_eq_true.mp hwords _ hmem
  cases he
  intro value hv
  cases hv
  cases hu

theorem decimal_notBare (whole : List Char) : (Lexeme.token (decimal whole cs).1).NotBare := by
  intro value
  simp only [decimal, ne_eq]
  repeat' split
  all_goals simp

theorem numeral_notBare : (Lexeme.token (numeral cs).1).NotBare := by
  unfold numeral
  simp only
  split
  · intro value
    simp
  · exact decimal_notBare _

theorem numberOrPeriod_notBare (h : numberOrPeriod afterWord c cs = .ok (x, rest)) : x.NotBare := by
  unfold numberOrPeriod at h
  split at h
  · split at h
    · cases h
      intro value
      simp
    · cases h
  · cases h
    exact numeral_notBare

theorem dollar_notBare (h : dollar cs = .ok (x, rest)) : x.NotBare := by
  unfold dollar at h
  simp only at h
  repeat' split at h
  all_goals first
    | exact marked_notBare h
    | (cases h; intro value; simp)

theorem numberSign_wordlike (h : numberSign cs = .ok (x, rest)) : x.Wordlike := by
  unfold numberSign at h
  repeat' split at h
  all_goals first
    | exact bareWord_wordlike (by decide) (by simp) h
    | (cases h; exact Lexeme.NotBare.wordlike fun value => by simp)

theorem atSign_wordlike (h : atSign cs = .ok (x, rest)) : x.Wordlike := by
  unfold atSign at h
  repeat' split at h
  all_goals first
    | exact bareWord_wordlike (by decide) (by simp) h
    | (cases h; exact Lexeme.NotBare.wordlike fun value => by simp)

theorem lexeme_wordlike (h : lexeme afterWord c cs = .ok (x, rest)) : x.Wordlike := by
  unfold lexeme at h
  split at h
  · cases h
    exact Lexeme.NotBare.wordlike fun value => by simp
  split at h
  · rename_i hl
    exact (lettered?_notBare (h ▸ hl)).wordlike
  split at h
  · split at h
    · cases h
      exact Lexeme.NotBare.wordlike fun value => by simp
    · cases h
  split at h
  · split at h
    · cases h
      exact Lexeme.NotBare.wordlike fun value => by simp
    · cases h
  split at h
  · exact (numberOrPeriod_notBare h).wordlike
  split at h
  · rename_i hl
    exact (comment?_notBare (h ▸ hl)).wordlike
  split at h
  · rename_i ho
    cases h
    exact (operator?_notBare ho).wordlike
  split at h
  · exact numberSign_wordlike h
  split at h
  · exact atSign_wordlike h
  split at h
  · cases h
    refine Lexeme.NotBare.wordlike fun value => ?_
    split <;> simp
  split at h
  · rename_i hs
    exact bareWord_wordlike (continuesWord_of_startsWord hs) (by decide) h
  split at h
  · exact (dollar_notBare h).wordlike
  split at h
  · cases h
    exact Lexeme.NotBare.wordlike fun value => by simp
  · cases h
    exact Lexeme.NotBare.wordlike fun value => by simp

theorem scan_wordlike {ts : List Token} (h : scan afterWord cs = .ok ts) : ∀ t ∈ ts, t.Wordlike := by
  fun_induction scan afterWord cs generalizing ts with
  | case1 afterWord =>
      cases h
      intro t ht
      cases ht
  | case2 afterWord c cs x rest hx ih =>
      cases hs : scan x.isWord rest with
      | error fault => rw [hs] at h; cases h
      | ok us =>
          rw [hs] at h
          cases h
          intro t ht
          rcases List.mem_append.mp ht with ht | ht
          · exact lexeme_wordlike hx t ht
          · exact ih hs t ht
  | case3 => cases h

theorem tokenize_wordlike {statement : String} {ts : List Token} (h : tokenize statement = .ok ts) :
    ∀ t ∈ ts, t.Wordlike := by
  rw [tokenize] at h
  split at h
  · rename_i hs
    cases h
    exact scan_wordlike hs
  · cases h

/-- A character at which a keyword ends and the keyword behind it may begin. -/
def isBreak (c : Char) : Bool := isBlank c || Search.matchesLetter '(' c

/-- A text that starts with no blank and has no break behind its third character. -/
def isTight : List Char → Bool
  | [] => false
  | c :: cs => !isBlank c && (cs.drop 2).all fun d => !isBreak d

def Token.Tight (t : Token) : Prop := isTight t.skeleton.toList = true

theorem continuesWord_not_isBlank (h : continuesWord c) : isBlank c = false :=
  not_isBlank_of_holds (by decide +kernel) h

def symbolChars : List Char := ['(', '*', ')']

theorem eq_of_matchesLetter {l : Char} (hl : l ∈ symbolChars) (h : Search.matchesLetter l c) :
    c = l := by
  by_cases hc : c.val ≥ 'A'.val ∧ c.val ≤ 'Z'.val
  · have hall : (List.range' 65 26).all (fun n => symbolChars.all fun l =>
        !Search.matchesLetter l (Char.ofNat n)) = true := by decide
    have hlow := UInt32.le_iff_toNat_le.mp hc.1
    have hhigh := UInt32.le_iff_toNat_le.mp hc.2
    have hmem : c.toNat ∈ List.range' 65 26 :=
      List.mem_range'_1.mpr ⟨hlow, Nat.lt_succ_of_le hhigh⟩
    have hn := List.all_eq_true.mp (List.all_eq_true.mp hall c.toNat hmem) l hl
    rw [Char.ofNat_toNat, h] at hn
    cases hn
  · have hlower : c.toLower = c := dif_neg hc
    have hall : symbolChars.all (fun l => l.toLower == l && l != 's') = true := by decide
    have hl := List.all_eq_true.mp hall l hl
    rw [Bool.and_eq_true, beq_iff_eq, bne_iff_ne, ← beq_eq_false_iff_ne] at hl
    rw [Search.matchesLetter, hlower, hl.1, hl.2, Bool.and_false, Bool.or_false] at h
    exact beq_iff_eq.mp h

theorem continuesWord_not_matchesLetter {l : Char} (hl : l ∈ symbolChars) (h : continuesWord c) :
    Search.matchesLetter l c = false := by
  rw [Bool.eq_false_iff]
  intro hm
  have hall : symbolChars.all (fun l => !continuesWord l) = true := by decide +kernel
  have hl' := List.all_eq_true.mp hall l hl
  rw [← eq_of_matchesLetter hl hm, h] at hl'
  cases hl'

theorem isTight_of_isWordlike (h : isWordlike cs) : isTight cs := by
  cases cs with
  | nil => cases h
  | cons c cs =>
      rw [isWordlike, Bool.and_eq_true, List.all_eq_true] at h
      rw [isTight, continuesWord_not_isBlank h.1, Bool.not_false, Bool.true_and, List.all_eq_true]
      intro d hd
      rw [isBreak, continuesWord_not_isBlank (h.2 d hd),
        continuesWord_not_matchesLetter (by decide) (h.2 d hd)]
      rfl

theorem Token.Wordlike.tight {t : Token} (h : t.Wordlike) : t.Tight := by
  cases t with
  | word value quoted =>
      cases quoted with
      | false => exact isTight_of_isWordlike (h value rfl)
      | true => exact (by decide : isTight "\"_\"".toList = true)
  | number text => exact (by decide : isTight "0".toList = true)
  | string value => exact (by decide : isTight "''".toList = true)
  | other text => exact (by decide : isTight "_".toList = true)
  | _ => unfold Token.Tight; decide

theorem tokenize_tight {statement : String} {ts : List Token} (h : tokenize statement = .ok ts) :
    ∀ t ∈ ts, t.Tight :=
  fun t ht => (tokenize_wordlike h t ht).tight

end DocQuery.Sql
