import DocQuery.Text.Hex
import DocQuery.Sql.Fault
import DocQuery.Sql.Quoted

namespace DocQuery.Sql

open Text (hexValue?)

def natOfSigned? (digit? : Char → Option Nat) (base : Nat) (cs : List Char) : Option Nat :=
  match cs with
  | '+' :: c :: cs => (c :: cs).foldlM (fun n c => (digit? c).map (n * base + ·)) 0
  | cs => cs.foldlM (fun n c => (digit? c).map (n * base + ·)) 0

def octalValue? (c : Char) : Option Nat :=
  if '0' ≤ c ∧ c ≤ '7' then some (c.toNat - '0'.toNat) else none

def charOfNat? (n : Nat) : Option Char :=
  if n.isValidChar then some (Char.ofNat n) else none

/-- The character of a byte, if the low eight bits of the number are ASCII. -/
def charOfByte? (n : Nat) : Option Char :=
  if n % 256 < 128 then some (Char.ofNat (n % 256)) else none

def escape? : List Char → Option (Char × List Char)
  | [] => none
  | c :: cs =>
    if c = 'b' then some ('\x08', cs)
    else if c = 'f' then some ('\x0c', cs)
    else if c = 'n' then some ('\n', cs)
    else if c = 'r' then some ('\r', cs)
    else if c = 't' then some ('\t', cs)
    else if c = 'u' ∨ c = 'U' then
      let count := if c = 'u' then 4 else 8
      if cs.length < count then none
      else do
        let n ← natOfSigned? hexValue? 16 (cs.take count)
        let x ← charOfNat? n
        some (x, cs.drop count)
    else if c = 'x' then
      let digits := (cs.take 2).takeWhile fun c => (hexValue? c).isSome
      if digits.isEmpty then some ('x', cs)
      else do
        let n ← natOfSigned? hexValue? 16 digits
        let x ← charOfByte? n
        some (x, cs.drop digits.length)
    else if (octalValue? c).isSome then do
      let digits := (cs.take 2).takeWhile fun c => (octalValue? c).isSome
      let n ← natOfSigned? octalValue? 8 (c :: digits)
      let x ← charOfByte? n
      some (x, cs.drop digits.length)
    else some (c, cs)

theorem escape?_rest_lt {cs rest : List Char} {x : Char} (h : escape? cs = some (x, rest)) :
    rest.length < cs.length := by
  cases cs with
  | nil => simp [escape?] at h
  | cons c cs =>
    simp only [escape?] at h
    repeat' split at h
    all_goals
      simp only [Option.bind_eq_bind, Option.bind_eq_some_iff, Option.some.injEq,
        Prod.mk.injEq, reduceCtorEq] at h
    all_goals grind [List.length_drop, List.length_cons]

/-- A text up to its closing quote, in which a doubled quote stands for one quote and a backslash
starts an escape. No escape may give the character zero. -/
def escapedText (cs : List Char) : Option (List Char × List Char) :=
  match cs with
  | [] => none
  | '\'' :: '\'' :: cs => (escapedText cs).map (push '\'')
  | '\'' :: cs => some ([], cs)
  | '\\' :: cs =>
    match _h : escape? cs with
    | some (x, rest) => if x = '\x00' then none else (escapedText rest).map (push x)
    | none => none
  | c :: cs => (escapedText cs).map (push c)
termination_by cs.length
decreasing_by all_goals first
  | simp only [List.length_cons]; omega
  | have := escape?_rest_lt ‹_›; simp only [List.length_cons]; omega

def hexCharacter (n : Nat) : Nat → List Char → Except Fault (Char × List Char)
  | 0, cs =>
    match charOfNat? n with
    | some x => .ok (x, cs)
    | none => .error ⟨.badCodePoint n, cs⟩
  | _ + 1, [] => .error ⟨.missingHexDigit, []⟩
  | count + 1, c :: cs =>
    match hexValue? c with
    | some d => hexCharacter (n * 16 + d) count cs
    | none => .error ⟨.badHexDigit c, cs⟩

theorem hexCharacter_rest_le {count : Nat} :
    ∀ {n : Nat} {cs rest : List Char} {x : Char},
      hexCharacter n count cs = .ok (x, rest) → rest.length ≤ cs.length := by
  induction count with
  | zero => intro n cs rest x h; simp only [hexCharacter] at h; split at h <;> simp_all
  | succ count ih =>
    intro n cs rest x h
    cases cs with
    | nil => simp [hexCharacter] at h
    | cons c cs =>
      simp only [hexCharacter] at h
      split at h
      · exact Nat.le_succ_of_le (ih h)
      · simp at h

/-- A text up to its closing quote, in which a doubled quote stands for one quote, a doubled
backslash for a backslash, and a backslash starts a character of four hexadecimal digits, or of six
behind a plus sign. -/
def unicodeText (cs : List Char) : Except Fault (List Char × List Char) :=
  match cs with
  | [] => .error ⟨.unclosedUnicodeString, []⟩
  | '\'' :: '\'' :: cs => (unicodeText cs).map (push '\'')
  | '\'' :: cs => .ok ([], cs)
  | '\\' :: '\\' :: cs => (unicodeText cs).map (push '\\')
  | '\\' :: '+' :: cs =>
    match _h : hexCharacter 0 6 cs with
    | .ok (x, rest) => (unicodeText rest).map (push x)
    | .error fault => .error fault
  | '\\' :: cs =>
    match _h : hexCharacter 0 4 cs with
    | .ok (x, rest) => (unicodeText rest).map (push x)
    | .error fault => .error fault
  | c :: cs => (unicodeText cs).map (push c)
termination_by cs.length
decreasing_by all_goals first
  | simp only [List.length_cons]; omega
  | have := hexCharacter_rest_le ‹_›; simp only [List.length_cons]; omega

theorem escapedText_rest_lt {cs s rest : List Char} :
    escapedText cs = some (s, rest) → rest.length < cs.length := by
  fun_induction escapedText cs generalizing s rest with
  | case1 => simp
  | case2 cs ih =>
    simp only [Option.map_eq_some_iff, push, Prod.mk.injEq, Prod.exists]
    rintro ⟨t, r, h, -, rfl⟩
    have := ih h
    simp only [List.length_cons]; omega
  | case3 cs => simp; rintro - rfl; simp
  | case4 => simp
  | case5 cs x r h hx ih =>
    simp only [Option.map_eq_some_iff, push, Prod.mk.injEq, Prod.exists]
    rintro ⟨t, r', h', -, rfl⟩
    have := ih h'
    have := escape?_rest_lt h
    simp only [List.length_cons]; omega
  | case6 => simp
  | case7 c cs _ _ _ ih =>
    simp only [Option.map_eq_some_iff, push, Prod.mk.injEq, Prod.exists]
    rintro ⟨t, r, h, -, rfl⟩
    have := ih h
    simp only [List.length_cons]; omega

theorem map_push_eq_ok {c : Char} {found : Except Fault (List Char × List Char)}
    {s rest : List Char} (h : found.map (push c) = .ok (s, rest)) :
    ∃ t, found = .ok (t, rest) := by
  cases found with
  | error => simp [Except.map] at h
  | ok p =>
    simp only [Except.map, push, Except.ok.injEq, Prod.mk.injEq] at h
    exact ⟨p.1, by simp [← h.2]⟩

theorem unicodeText_rest_lt {cs s rest : List Char} :
    unicodeText cs = .ok (s, rest) → rest.length < cs.length := by
  fun_induction unicodeText cs generalizing s rest <;> intro h
  case case1 | case6 | case8 => simp at h
  case case3 => simp only [Except.ok.injEq, Prod.mk.injEq] at h; simp [← h.2]
  case case2 ih | case4 ih | case9 ih =>
    obtain ⟨t, ht⟩ := map_push_eq_ok h
    have := ih ht
    simp only [List.length_cons]; omega
  case case5 x r hx ih | case7 x r hx ih =>
    obtain ⟨t, ht⟩ := map_push_eq_ok h
    have := ih ht
    have := hexCharacter_rest_le hx
    simp only [List.length_cons]; omega

end DocQuery.Sql
