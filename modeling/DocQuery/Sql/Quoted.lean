namespace DocQuery.Sql

def push (c : Char) (found : List Char × List Char) : List Char × List Char :=
  (c :: found.1, found.2)

/-- The content of a text behind its opening quote, and what stands behind the closing one. -/
def quoted (q : Char) : List Char → Option (List Char × List Char)
  | [] => none
  | [c] => if c = q then some ([], []) else none
  | c :: d :: cs =>
    if c = q then
      if d = q then (quoted q cs).map (push q) else some ([], d :: cs)
    else (quoted q (d :: cs)).map (push c)

def controlOf : Char → Char
  | '0' => '\x00'
  | 'a' => '\x07'
  | 'b' => '\x08'
  | 'f' => '\x0c'
  | 'n' => '\n'
  | 'r' => '\r'
  | 't' => '\t'
  | 'Z' => '\x1a'
  | c => c

def quotedWithControls (q : Char) : List Char → Option (List Char × List Char)
  | [] => none
  | [c] => if c = q then some ([], []) else none
  | c :: d :: cs =>
    if c = q then
      if d = q then (quotedWithControls q cs).map (push q) else some ([], d :: cs)
    else if c = '\\' then (quotedWithControls q cs).map (push (controlOf d))
    else (quotedWithControls q (d :: cs)).map (push c)

def behind? : List Char → List Char → Option (List Char)
  | [], cs => some cs
  | x :: xs, c :: cs => if x = c then behind? xs cs else none
  | _ :: _, [] => none

def upTo (delimiter : List Char) : List Char → Option (List Char × List Char)
  | [] => none
  | c :: cs =>
    match behind? delimiter (c :: cs) with
    | some rest => some ([], rest)
    | none => (upTo delimiter cs).map (push c)

theorem quoted_rest_lt {q : Char} {cs s rest : List Char} :
    quoted q cs = some (s, rest) → rest.length < cs.length := by
  fun_induction quoted q cs generalizing s rest with
  | case1 => simp
  | case2 => simp
  | case3 => simp
  | case4 cs ih =>
    simp only [Option.map_eq_some_iff, push, Prod.mk.injEq, Prod.exists]
    rintro ⟨t, r, h, -, rfl⟩
    have := ih h
    simp only [List.length_cons]; omega
  | case5 d cs => simp; rintro - rfl; simp
  | case6 c d cs _ ih =>
    simp only [Option.map_eq_some_iff, push, Prod.mk.injEq, Prod.exists]
    rintro ⟨t, r, h, -, rfl⟩
    have := ih h
    simp only [List.length_cons] at this ⊢; omega

theorem quotedWithControls_rest_lt {q : Char} {cs s rest : List Char} :
    quotedWithControls q cs = some (s, rest) → rest.length < cs.length := by
  fun_induction quotedWithControls q cs generalizing s rest with
  | case1 => simp
  | case2 => simp
  | case3 => simp
  | case4 cs ih | case6 d cs _ ih =>
    simp only [Option.map_eq_some_iff, push, Prod.mk.injEq, Prod.exists]
    rintro ⟨t, r, h, -, rfl⟩
    have := ih h
    simp only [List.length_cons]; omega
  | case5 d cs => simp; rintro - rfl; simp
  | case7 c d cs _ _ ih =>
    simp only [Option.map_eq_some_iff, push, Prod.mk.injEq, Prod.exists]
    rintro ⟨t, r, h, -, rfl⟩
    have := ih h
    simp only [List.length_cons] at this ⊢; omega

theorem behind?_rest_le {start cs rest : List Char} :
    behind? start cs = some rest → rest.length ≤ cs.length := by
  fun_induction behind? start cs with
  | case1 cs => simp; rintro rfl; exact Nat.le_refl _
  | case2 _ xs cs ih => exact fun h => Nat.le_succ_of_le (ih h)
  | case3 => simp
  | case4 => simp

theorem upTo_rest_le {delimiter cs s rest : List Char} :
    upTo delimiter cs = some (s, rest) → rest.length ≤ cs.length := by
  fun_induction upTo delimiter cs generalizing s rest with
  | case1 => simp
  | case2 c cs r h => simp; rintro - rfl; exact behind?_rest_le h
  | case3 c cs _ ih =>
    simp only [Option.map_eq_some_iff, push, Prod.mk.injEq, Prod.exists]
    rintro ⟨t, r, h, -, rfl⟩
    exact Nat.le_succ_of_le (ih h)

end DocQuery.Sql
