import DocQuery.Sql.Escaped
import DocQuery.Sql.Numeral
import DocQuery.Sql.Operator
import DocQuery.Text.Alphabetic
import DocQuery.Text.Blank
import DocQuery.Text.Numeric

namespace DocQuery.Sql

open Text

inductive Lexeme where
  | blank
  | token (token : Token)
deriving DecidableEq

abbrev LexemeResult := Except Fault (Lexeme × List Char)

def startsWord (c : Char) : Bool :=
  isAlphabetic c || c == '_'

def continuesWord (c : Char) : Bool :=
  isAlphabetic c || c.isDigit || c == '@' || c == '$' || c == '#' || c == '_'

def bareWord (start cs : List Char) : LexemeResult :=
  .ok (.token (.word (String.ofList (start ++ cs.takeWhile continuesWord)) false),
    cs.dropWhile continuesWord)

def marked (opening closing : String) (fault : Fault) :
    Option (List Char × List Char) → LexemeResult
  | some (content, rest) =>
    .ok (.token (.other (opening ++ String.ofList content ++ closing)), rest)
  | none => .error fault

/-- A text behind `r` and a quote: one quote or three of them enclose it, two are an empty text. -/
def rawText (q : Char) (cs : List Char) : LexemeResult :=
  let mark := if q = '"' then "\"" else "'"
  match cs with
  | d :: e :: rest =>
    if d = q then
      if e = q then
        marked ("R" ++ mark ++ mark ++ mark) (mark ++ mark ++ mark) ⟨.unclosedString, rest⟩
          (upTo [q, q, q] rest)
      else .ok (.token (.other ("R" ++ mark ++ mark)), e :: rest)
    else marked ("R" ++ mark) mark ⟨.unclosedString, cs⟩ (quoted q cs)
  | [d] =>
    if d = q then .ok (.token (.other ("R" ++ mark ++ mark)), [])
    else marked ("R" ++ mark) mark ⟨.unclosedString, cs⟩ (quoted q cs)
  | [] => marked ("R" ++ mark) mark ⟨.unclosedString, cs⟩ (quoted q cs)

def lettered? (c : Char) (cs : List Char) : Option LexemeResult :=
  if c = 'b' ∨ c = 'B' then
    match cs with
    | '\'' :: r => some (marked "B'" "'" ⟨.unclosedString, cs⟩ (quoted '\'' r))
    | '"' :: r => some (marked "B\"" "\"" ⟨.unclosedString, cs⟩ (quoted '"' r))
    | _ => none
  else if c = 'r' ∨ c = 'R' then
    match cs with
    | '\'' :: r => some (rawText '\'' r)
    | '"' :: r => some (rawText '"' r)
    | _ => none
  else if c = 'n' ∨ c = 'N' then
    match cs with
    | '\'' :: r => some (marked "N'" "'" ⟨.unclosedString, cs⟩ (quoted '\'' r))
    | _ => none
  else if c = 'e' ∨ c = 'E' then
    match cs with
    | '\'' :: r => some (marked "E'" "'" ⟨.unclosedEscapedString, c :: cs⟩ (escapedText r))
    | _ => none
  else if c = 'u' ∨ c = 'U' then
    match cs with
    | '&' :: '\'' :: r =>
      match unicodeText r with
      | .ok found => some (marked "U&'" "'" ⟨.unclosedUnicodeString, []⟩ (some found))
      | .error fault => some (.error fault)
    | _ => none
  else if c = 'x' ∨ c = 'X' then
    match cs with
    | '\'' :: r => some (marked "X'" "'" ⟨.unclosedString, cs⟩ (quotedWithControls '\'' r))
    | _ => none
  else none

def commentRest? (depth : Nat) : List Char → Option (List Char)
  | [] => none
  | '/' :: '*' :: cs => commentRest? (depth + 1) cs
  | '*' :: '/' :: cs => if depth = 0 then some cs else commentRest? (depth - 1) cs
  | _ :: cs => commentRest? depth cs

def comment? : List Char → Option LexemeResult
  | '-' :: '-' :: cs => some (.ok (.blank, (cs.dropWhile (· ≠ '\n')).tail))
  | '/' :: '*' :: cs =>
    match commentRest? 0 cs with
    | some rest => some (.ok (.blank, rest))
    | none => some (.error ⟨.unclosedComment, []⟩)
  | _ => none

def numberSign : List Char → LexemeResult
  | [] => .ok (.token (.other "#"), [])
  | d :: cs => if d = ' ' then .ok (.token (.other "#"), d :: cs) else bareWord ['#', d] cs

def atSign : List Char → LexemeResult
  | [] => .ok (.token (.other "@"), [])
  | ['@'] => .ok (.token (.other "@@"), [])
  | '@' :: d :: cs =>
    if d = ' ' then .ok (.token (.other "@@"), d :: cs) else bareWord ['@', '@', d] cs
  | d :: cs =>
    if d = ' ' ∨ d = '\'' ∨ d = '"' ∨ d = '\x60' then .ok (.token (.other "@"), d :: cs)
    else bareWord ['@', d] cs

/-- A text between dollar signs, which may hold a tag; or a named parameter. -/
def dollar (cs : List Char) : LexemeResult :=
  match cs with
  | '$' :: r => marked "$$" "$$" ⟨.unclosedDollarString, []⟩ (upTo ['$', '$'] r)
  | _ =>
    let isTag := fun c => isAlphabetic c || isNumeric c || c == '_'
    let tag := cs.takeWhile isTag
    match cs.dropWhile isTag with
    | '$' :: r =>
      let mark := '$' :: (tag ++ ['$'])
      marked (String.ofList mark) (String.ofList mark) ⟨.unclosedTaggedString, []⟩ (upTo mark r)
    | rest => .ok (.token (.other (String.ofList ('$' :: tag))), rest)

/-- A number, a period or, behind a word, the period before a name that starts with `_`. -/
def numberOrPeriod (afterWord : Bool) (c : Char) (cs : List Char) : LexemeResult :=
  if c = '.' ∧ cs.head? = some '_' then
    if afterWord then .ok (.token .period, cs) else .error ⟨.loneUnderscore, c :: cs⟩
  else
    let found := numeral (c :: cs)
    .ok (.token found.1, found.2)

def question (cs : List Char) : LexemeResult :=
  let digits := cs.takeWhile isNumeric
  .ok (.token (if digits.isEmpty then .placeholder else .other (String.ofList ('?' :: digits))),
    cs.dropWhile isNumeric)

/-- The lexeme that starts with `c` and goes on in `cs`, and what follows it. A period is read
differently behind a word, `afterWord`. -/
def lexeme (afterWord : Bool) (c : Char) (cs : List Char) : LexemeResult :=
  if c = ' ' ∨ c = '\t' ∨ c = '\n' ∨ c = '\r' then .ok (.blank, cs)
  else
    match lettered? c cs with
    | some result => result
    | none =>
      if c = '\'' then
        match quoted '\'' cs with
        | some (content, rest) => .ok (.token (.string (String.ofList content)), rest)
        | none => .error ⟨.unclosedString, c :: cs⟩
      else if c = '"' ∨ c = '\x60' then
        match quoted c cs with
        | some (content, rest) => .ok (.token (.word (String.ofList content) true), rest)
        | none => .error ⟨.unclosedIdentifier c, c :: cs⟩
      else if c.isDigit ∨ c = '.' then numberOrPeriod afterWord c cs
      else
        match comment? (c :: cs) with
        | some result => result
        | none =>
          match operator? (c :: cs) with
          | some (token, rest) => .ok (.token token, rest)
          | none =>
            if c = '#' then numberSign cs
            else if c = '@' then atSign cs
            else if c = '?' then question cs
            else if startsWord c then bareWord [c] cs
            else if c = '$' then dollar cs
            else if isBlank c then .ok (.blank, cs)
            else .ok (.token (.other (String.singleton c)), cs)

variable {c q : Char} {cs rest : List Char} {x : Lexeme}

theorem bareWord_rest_le {start : List Char} (h : bareWord start cs = .ok (x, rest)) :
    rest.length ≤ cs.length := by
  simp only [bareWord, Except.ok.injEq, Prod.mk.injEq] at h
  exact h.2 ▸ length_dropWhile_le _ _

theorem marked_eq_ok {opening closing : String} {fault : Fault}
    {found : Option (List Char × List Char)}
    (h : marked opening closing fault found = .ok (x, rest)) :
    ∃ content, found = some (content, rest) := by
  cases found with
  | none => simp [marked] at h
  | some p => simp only [marked, Except.ok.injEq, Prod.mk.injEq] at h; exact ⟨p.1, by simp [← h.2]⟩

theorem rawText_rest_le (h : rawText q cs = .ok (x, rest)) : rest.length ≤ cs.length := by
  have one {mark : String} {fault : Fault}
      (h : marked ("R" ++ mark) mark fault (quoted q cs) = .ok (x, rest)) :
      rest.length ≤ cs.length := by
    obtain ⟨content, hc⟩ := marked_eq_ok h
    exact Nat.le_of_lt (quoted_rest_lt hc)
  simp only [rawText] at h
  split at h
  · split at h
    · split at h
      · obtain ⟨content, hc⟩ := marked_eq_ok h
        have := upTo_rest_le hc
        simp only [List.length_cons]; omega
      · simp only [Except.ok.injEq, Prod.mk.injEq] at h
        simp [← h.2]
    · exact one h
  · split at h
    · simp only [Except.ok.injEq, Prod.mk.injEq] at h
      simp [← h.2]
    · exact one h
  · exact one h

theorem lettered?_rest_le (h : lettered? c cs = some (.ok (x, rest))) :
    rest.length ≤ cs.length := by
  simp only [lettered?] at h
  repeat' split at h
  all_goals simp only [Option.some.injEq, reduceCtorEq] at h
  all_goals first
    | (have hr := rawText_rest_le h; simp only [List.length_cons]; omega)
    | (obtain ⟨content, hc⟩ := marked_eq_ok h
       first
       | have hr := quoted_rest_lt hc
       | have hr := quotedWithControls_rest_lt hc
       | have hr := escapedText_rest_lt hc
       | (rename_i hu
          simp only [Option.some.injEq] at hc
          have hr := unicodeText_rest_lt (hc ▸ hu))
       simp only [List.length_cons]; omega)

theorem commentRest?_le {depth : Nat} :
    commentRest? depth cs = some rest → rest.length ≤ cs.length := by
  fun_induction commentRest? depth cs <;> intro h
  all_goals grind [List.length_cons]

theorem comment?_rest_lt (h : comment? cs = some (.ok (x, rest))) : rest.length < cs.length := by
  simp only [comment?] at h
  split at h
  · simp only [Option.some.injEq, Except.ok.injEq, Prod.mk.injEq] at h
    rename_i r
    have := length_dropWhile_le (· ≠ '\n') r
    simp only [← h.2, List.length_cons, List.length_tail]; omega
  · split at h
    · simp only [Option.some.injEq, Except.ok.injEq, Prod.mk.injEq] at h
      have := commentRest?_le ‹_›
      simp only [← h.2, List.length_cons]; omega
    · simp at h
  · simp at h

theorem numberSign_rest_le (h : numberSign cs = .ok (x, rest)) : rest.length ≤ cs.length := by
  cases cs with
  | nil => simp only [numberSign, Except.ok.injEq, Prod.mk.injEq] at h; simp [← h.2]
  | cons d cs =>
    simp only [numberSign] at h
    split at h
    · simp only [Except.ok.injEq, Prod.mk.injEq] at h; simp [← h.2]
    · exact Nat.le_succ_of_le (bareWord_rest_le h)

theorem atSign_rest_le (h : atSign cs = .ok (x, rest)) : rest.length ≤ cs.length := by
  simp only [atSign] at h
  split at h
  · simp only [Except.ok.injEq, Prod.mk.injEq] at h; simp [← h.2]
  · simp only [Except.ok.injEq, Prod.mk.injEq] at h; simp [← h.2]
  · split at h
    · simp only [Except.ok.injEq, Prod.mk.injEq] at h; simp [← h.2]
    · have := bareWord_rest_le h; simp only [List.length_cons]; omega
  · split at h
    · simp only [Except.ok.injEq, Prod.mk.injEq] at h; simp [← h.2]
    · exact Nat.le_succ_of_le (bareWord_rest_le h)

theorem dollar_rest_le (h : dollar cs = .ok (x, rest)) : rest.length ≤ cs.length := by
  simp only [dollar] at h
  split at h
  · obtain ⟨content, hc⟩ := marked_eq_ok h
    exact Nat.le_succ_of_le (upTo_rest_le hc)
  · have hle := length_dropWhile_le (fun c => isAlphabetic c || isNumeric c || c == '_') cs
    split at h
    · rename_i hd
      obtain ⟨content, hc⟩ := marked_eq_ok h
      have := upTo_rest_le hc
      rw [hd, List.length_cons] at hle
      omega
    · simp only [Except.ok.injEq, Prod.mk.injEq] at h
      exact h.2 ▸ hle

theorem numberOrPeriod_rest_le {afterWord : Bool} (hc : c.isDigit ∨ c = '.')
    (h : numberOrPeriod afterWord c cs = .ok (x, rest)) : rest.length ≤ cs.length := by
  simp only [numberOrPeriod] at h
  split at h
  · split at h
    · simp only [Except.ok.injEq, Prod.mk.injEq] at h; simp [← h.2]
    · simp at h
  · simp only [Except.ok.injEq, Prod.mk.injEq] at h
    exact h.2 ▸ numeral_rest_le hc

theorem question_rest_le (h : question cs = .ok (x, rest)) : rest.length ≤ cs.length := by
  simp only [question, Except.ok.injEq, Prod.mk.injEq] at h
  exact h.2 ▸ length_dropWhile_le _ _

theorem lexeme_rest_le {afterWord : Bool} (h : lexeme afterWord c cs = .ok (x, rest)) :
    rest.length ≤ cs.length := by
  have done {y : Lexeme} (h : (Except.ok (y, cs) : LexemeResult) = .ok (x, rest)) :
      rest.length ≤ cs.length := by
    simp only [Except.ok.injEq, Prod.mk.injEq] at h; simp [← h.2]
  simp only [lexeme] at h
  split at h
  · exact done h
  split at h
  · rename_i hl
    exact lettered?_rest_le (h ▸ hl)
  split at h
  · split at h
    · simp only [Except.ok.injEq, Prod.mk.injEq] at h
      exact h.2 ▸ Nat.le_of_lt (quoted_rest_lt ‹_›)
    · simp at h
  split at h
  · split at h
    · simp only [Except.ok.injEq, Prod.mk.injEq] at h
      exact h.2 ▸ Nat.le_of_lt (quoted_rest_lt ‹_›)
    · simp at h
  split at h
  · exact numberOrPeriod_rest_le ‹_› h
  split at h
  · rename_i hl
    exact Nat.le_of_lt_succ (comment?_rest_lt (h ▸ hl))
  split at h
  · simp only [Except.ok.injEq, Prod.mk.injEq] at h
    exact h.2 ▸ Nat.le_of_lt_succ (operator?_rest_lt ‹_›)
  split at h
  · exact numberSign_rest_le h
  split at h
  · exact atSign_rest_le h
  split at h
  · exact question_rest_le h
  split at h
  · exact bareWord_rest_le h
  split at h
  · exact dollar_rest_le h
  split at h <;> exact done h

end DocQuery.Sql
