import DocQuery.Json.Reader
import DocQuery.Json.Text
import Mathlib.Data.List.Forall2
import Mathlib.Data.List.TakeDrop
import Mathlib.Data.List.TakeWhile

namespace DocQuery.Json.Reader

open Text (hexValue? natOfDigits_toDigits)

/-- What may stand behind a value: nothing, or a mark that ends it. -/
def Closes (rest : List Char) : Prop :=
  ∀ c ∈ rest.head?, c ∈ [',', ']', '\x7d']

/-- A text that a reader takes for `x`, whatever closes it. -/
structure ReadsAs {α : Type} (read : List Char → Option (α × List Char)) (x : α)
    (text : List Char) : Prop where
  head : ∃ c ∈ text.head?, isSpace c = false ∧ c ∉ [']', '\x7d']
  reads : ∀ rest, Closes rest → read (text ++ rest) = some (x, rest)

def Reads (depth : Nat) (v : Json) : Prop :=
  ReadsAs (value .strict depth) v v.compact.toList

variable {α : Type} {depth : Nat} {c closing : Char} {cs rest : List Char}

theorem closes_cons (h : c ∈ [',', ']', '\x7d']) : Closes (c :: rest) := by
  intro d hd
  rwa [← Option.some.inj hd]

theorem skipSpace_cons (h : isSpace c = false) : skipSpace (c :: cs) = c :: cs := by
  rw [skipSpace, List.dropWhile_cons, h]
  rfl

theorem hexValue?_hexDigit : ∀ n < 16, hexValue? (hexDigit n) = some n := by
  decide

theorem joinPieces_control {n : Nat} (h : n < 0x20) (ps : List Piece) :
    joinPieces none (.unit n :: ps) = (joinPieces none ps).map (Char.ofNat n :: ·) := by
  have hhigh : isHighSurrogate n = false := decide_eq_false (by omega)
  have hlow : isLowSurrogate n = false := decide_eq_false (by omega)
  simp only [joinPieces, hhigh, hlow, Bool.false_eq_true, if_false]

theorem hex4?_control {n : Nat} (h : n < 0x20) :
    hex4? '0' '0' (hexDigit (n / 16)) (hexDigit (n % 16)) = some n := by
  rw [hex4?, hexValue?_hexDigit _ (by omega), hexValue?_hexDigit _ (by omega)]
  change some (((0 * 16 + 0) * 16 + n / 16) * 16 + n % 16) = some n
  congr 1
  omega

theorem pieces_cons (hquote : c ≠ '"') (hslash : c ≠ '\\') (hcontrol : ¬ c.toNat < 0x20) (cs : List Char) :
    pieces (c :: cs) = (pieces cs).map fun (ps, rest) => (.char c :: ps, rest) := by
  rw [pieces, if_neg hcontrol]
  · exact hquote
  · rintro a b x d rest rfl
    exact absurd rfl hslash
  · rintro x rest rfl
    exact absurd rfl hslash

theorem pieces_escape {x y : Char} (hx : x ≠ 'u') (h : escaped? x = some y) (cs : List Char) :
    pieces ('\\' :: x :: cs) = (pieces cs).map fun (ps, rest) => (.char y :: ps, rest) := by
  rw [pieces, h]
  · cases pieces cs <;> rfl
  · rintro a b d e rest he
    exact absurd he hx

theorem pieces_quoteChar (c : Char) (cs : List Char) :
    ∃ p, pieces (quoteChar c ++ cs) = (pieces cs).map (fun (ps, rest) => (p :: ps, rest)) ∧
      ∀ ps, joinPieces none (p :: ps) = (joinPieces none ps).map (c :: ·) := by
  by_cases hplain : c = '"' ∨ c = '\\' ∨ c = '\x08' ∨ c = '\x0c' ∨ c = '\n' ∨ c = '\r' ∨ c = '\t'
  · refine ⟨.char c, ?_, fun ps => rfl⟩
    rcases hplain with rfl | rfl | rfl | rfl | rfl | rfl | rfl <;>
      exact pieces_escape (by decide) rfl cs
  · simp only [not_or] at hplain
    obtain ⟨hquote, hslash, h8, hc, hn, hr, ht⟩ := hplain
    by_cases hcontrol : c.toNat < 0x20
    · refine ⟨.unit c.toNat, ?_, fun ps => ?_⟩
      · have hq : quoteChar c = ['\\', 'u', '0', '0', hexDigit (c.toNat / 16), hexDigit (c.toNat % 16)] := by
          simp only [quoteChar, hquote, hslash, h8, hc, hn, hr, ht, hcontrol, if_true, if_false]
        rw [hq]
        change pieces ('\\' :: 'u' :: '0' :: '0' :: _ :: _ :: cs) = _
        rw [pieces, hex4?_control hcontrol]
        cases pieces cs <;> rfl
      · rw [joinPieces_control hcontrol, Char.ofNat_toNat]
    · refine ⟨.char c, ?_, fun ps => rfl⟩
      have hq : quoteChar c = [c] := by
        simp only [quoteChar, hquote, hslash, h8, hc, hn, hr, ht, hcontrol, if_false]
      rw [hq]
      exact pieces_cons hquote hslash hcontrol cs

theorem pieces_quoted (cs rest : List Char) :
    ∃ ps, pieces (cs.flatMap quoteChar ++ '"' :: rest) = some (ps, rest) ∧
      joinPieces none ps = some cs := by
  induction cs with
  | nil => exact ⟨[], rfl, rfl⟩
  | cons c cs ih =>
      obtain ⟨ps, hps, hjoin⟩ := ih
      obtain ⟨p, hp, hpjoin⟩ := pieces_quoteChar c (cs.flatMap quoteChar ++ '"' :: rest)
      refine ⟨p :: ps, ?_, ?_⟩
      · rw [List.flatMap_cons, List.append_assoc, hp, hps]
        rfl
      · rw [hpjoin, hjoin]
        rfl

theorem stringBody_quoted (cs rest : List Char) :
    stringBody .strict (cs.flatMap quoteChar ++ '"' :: rest) = some (cs, rest) := by
  obtain ⟨ps, hps, hjoin⟩ := pieces_quoted cs rest
  simp only [stringBody, hps, hjoin, Option.bind_eq_bind, Option.bind_some, Option.map_some]

theorem toList_quote (s : String) (rest : List Char) :
    (quote s).toList ++ rest = '"' :: (s.toList.flatMap quoteChar ++ '"' :: rest) := by
  simp [quote, String.toList_append]

theorem string?_quote (s : String) (rest : List Char) :
    string? .strict ((quote s).toList ++ rest) = some (s, rest) := by
  rw [toList_quote, string?, skipSpace_cons rfl]
  simp only [stringBody_quoted, Option.map_some, String.ofList_toList]

theorem value_quote (cs : List Char) : value .strict depth ('"' :: cs) =
    (stringBody .strict cs).map fun (s, cs) => (.string (String.ofList s), cs) := by
  cases depth <;> rfl

theorem reads_string (s : String) : Reads depth (.string s) where
  head := ⟨'"', by simp [compact, quote, String.toList_append], rfl, by decide⟩
  reads rest _ := by
    rw [compact, toList_quote, value_quote, stringBody_quoted]
    simp only [Option.map_some, String.ofList_toList]

theorem reads_null : Reads depth .null where
  head := ⟨'n', rfl, rfl, by decide⟩
  reads rest _ := by cases depth <;> rfl

theorem reads_bool (b : Bool) : Reads depth (.bool b) := by
  cases b with
  | true => exact ⟨⟨'t', rfl, rfl, by decide⟩, fun rest _ => by cases depth <;> rfl⟩
  | false => exact ⟨⟨'f', rfl, rfl, by decide⟩, fun rest _ => by cases depth <;> rfl⟩

theorem ne_of_numeral (h : c.isDigit = true ∨ c = '-') {d : Char}
    (hd : d.isDigit = false ∧ d ≠ '-') : c ≠ d := by
  rintro rfl
  rcases h with h | h
  · rw [hd.1] at h
    cases h
  · exact hd.2 h

theorem isSpace_of_numeral (h : c.isDigit = true ∨ c = '-') : isSpace c = false := by
  have hmark {d : Char} (hd : d.isDigit = false ∧ d ≠ '-') : (c == d) = false :=
    beq_false_of_ne (ne_of_numeral h hd)
  rw [isSpace, hmark (by decide), hmark (by decide), hmark (by decide), hmark (by decide)]
  rfl

theorem value_of_numeral (h : c.isDigit = true ∨ c = '-') (cs : List Char) :
    value .strict depth (c :: cs) =
      (numeral? (c :: cs)).bind fun (n, rest) => n.number?.map fun m => (.number m, rest) := by
  unfold value
  rw [skipSpace_cons (isSpace_of_numeral h)]
  split
  case h_7 => cases numeral? (c :: cs) <;> rfl
  -- all other values start with a mark or a letter
  all_goals
    rename_i he
    exact absurd (List.cons.inj he).1 (ne_of_numeral h (by decide))

theorem not_isDigit_of_closes (h : Closes rest) : ∀ c ∈ rest.head?, c.isDigit = false ∧
    c ∉ ['.', 'e', 'E'] := by
  intro c hc
  have hmem := h c hc
  simp only [List.mem_cons, List.not_mem_nil, or_false] at hmem
  rcases hmem with rfl | rfl | rfl <;> decide

theorem digits?_append {ds : List Char} (hds : ∀ d ∈ ds, d.isDigit = true) (hne : ds ≠ [])
    (hrest : Closes rest) : digits? (ds ++ rest) = some (ds, rest) := by
  have htake : rest.takeWhile Char.isDigit = [] ∧ rest.dropWhile Char.isDigit = rest := by
    cases rest with
    | nil => exact ⟨rfl, rfl⟩
    | cons c cs =>
        have hc := (not_isDigit_of_closes hrest c rfl).1
        simp [hc]
  obtain ⟨d, ds, rfl⟩ := List.exists_cons_of_ne_nil hne
  rw [digits?, List.span_eq_takeWhile_dropWhile, List.takeWhile_append_of_pos hds,
    List.dropWhile_append_of_pos hds, htake.1, htake.2, List.append_nil]

theorem toDigits_isDigit (n : Nat) : ∀ d ∈ Nat.toDigits 10 n, d.isDigit = true :=
  fun _ hd => Nat.isDigit_of_mem_toDigits (by decide) (by decide) hd

theorem head?_toDigits {n : Nat} (h : n ≠ 0) : (Nat.toDigits 10 n).head? ≠ some '0' := by
  induction n using Nat.strongRecOn with
  | _ n ih =>
      rw [Nat.toDigits_eq_if (by decide)]
      split
      · rename_i hn
        have hdigit : ∀ m < 10, m ≠ 0 → Nat.digitChar m ≠ '0' := by decide
        simpa using hdigit n hn h
      · rename_i hn
        obtain ⟨d, ds, hd⟩ := List.exists_cons_of_ne_nil (Nat.toDigits_ne_nil (n := n / 10) (b := 10))
        have hhead := ih (n / 10) (by omega) (by omega)
        rw [hd] at hhead ⊢
        exact hhead

theorem whole?_toDigits (n : Nat) (hrest : Closes rest) :
    whole? (Nat.toDigits 10 n ++ rest) = some (Nat.toDigits 10 n, rest) := by
  rw [whole?, digits?_append (toDigits_isDigit n) Nat.toDigits_ne_nil hrest]
  simp only
  rw [if_neg]
  rintro ⟨hzero, hlength⟩
  by_cases hn : n = 0
  · subst hn
    exact hlength rfl
  · exact head?_toDigits hn hzero

theorem fraction?_closes (hrest : Closes rest) : fraction? rest = some (none, rest) := by
  cases rest with
  | nil => rfl
  | cons c cs =>
      have hc := (not_isDigit_of_closes hrest c rfl).2
      unfold fraction?
      split
      · rename_i he
        rw [(List.cons.inj he).1] at hc
        exact absurd (by decide) hc
      · rfl

theorem exponent?_closes (hrest : Closes rest) : exponent? rest = some (none, rest) := by
  cases rest with
  | nil => rfl
  | cons c cs =>
      have hc := (not_isDigit_of_closes hrest c rfl).2
      unfold exponent?
      split
      · rename_i he
        rw [(List.cons.inj he).1] at hc
        exact absurd (by decide) hc
      · rename_i he
        rw [(List.cons.inj he).1] at hc
        exact absurd (by decide) hc
      · rfl

theorem numeral?_natural (n : Nat) (hrest : Closes rest) :
    numeral? (Nat.toDigits 10 n ++ rest) = some (⟨false, Nat.toDigits 10 n, none, none⟩, rest) := by
  have hsign : ∀ d ds, Nat.toDigits 10 n = d :: ds → d ≠ '-' := by
    rintro d ds hd rfl
    have hdigit := toDigits_isDigit n '-' (by rw [hd]; exact List.mem_cons_self)
    cases hdigit
  obtain ⟨d, ds, hd⟩ := List.exists_cons_of_ne_nil (Nat.toDigits_ne_nil (n := n) (b := 10))
  unfold numeral?
  split
  rename_i negative cs he
  split at he
  · rename_i he'
    rw [hd] at he'
    exact absurd (List.cons.inj he').1 (hsign d ds hd)
  · obtain ⟨rfl, rfl⟩ := Prod.mk.inj he
    simp only [whole?_toDigits n hrest, fraction?_closes hrest, exponent?_closes hrest,
      Option.bind_eq_bind, Option.bind_some]

theorem numeral?_negative (n : Nat) (hrest : Closes rest) :
    numeral? ('-' :: (Nat.toDigits 10 n ++ rest)) =
      some (⟨true, Nat.toDigits 10 n, none, none⟩, rest) := by
  simp only [numeral?, whole?_toDigits n hrest, fraction?_closes hrest, exponent?_closes hrest,
    Option.bind_eq_bind, Option.bind_some]

theorem toList_compact_int {n : Int} (lower : -0x8000000000000000 ≤ n)
    (upper : n < 0x10000000000000000) : (compact (.number (.int n lower upper))).toList =
      if 0 ≤ n then Nat.toDigits 10 n.toNat else '-' :: Nat.toDigits 10 (-n).toNat := by
  rw [compact, Number.text, Int.toString_eq_repr, Int.repr_eq_if]
  split
  · rw [Nat.repr_eq_ofList_toDigits, String.toList_ofList]
  · rw [String.toList_append, Nat.repr_eq_ofList_toDigits, String.toList_ofList,
      String.toList_ofList]
    rfl

theorem int?_eq {n : Int} (lower : -0x8000000000000000 ≤ n) (upper : n < 0x10000000000000000) :
    Number.int? n = some (.int n lower upper) :=
  dif_pos ⟨lower, upper⟩

theorem number?_natural {n : Int} (lower : -0x8000000000000000 ≤ n)
    (upper : n < 0x10000000000000000) (h : 0 ≤ n) :
    (Numeral.mk false (Nat.toDigits 10 n.toNat) none none).number? =
      some (.int n lower upper) := by
  have hint : (Numeral.mk false (Nat.toDigits 10 n.toNat) none none).int? =
      some (.int n lower upper) := by
    simp only [Numeral.int?, natOfDigits_toDigits, Bool.false_eq_true, if_false,
      Int.toNat_of_nonneg h, int?_eq lower upper]
  rw [Numeral.number?, hint]

theorem number?_negative {n : Int} (lower : -0x8000000000000000 ≤ n)
    (upper : n < 0x10000000000000000) (h : n < 0) :
    (Numeral.mk true (Nat.toDigits 10 (-n).toNat) none none).number? =
      some (.int n lower upper) := by
  have hzero : (-n).toNat ≠ 0 := by omega
  have hnegative : -((-n).toNat : Int) = n := by omega
  have hint : (Numeral.mk true (Nat.toDigits 10 (-n).toNat) none none).int? =
      some (.int n lower upper) := by
    simp only [Numeral.int?, natOfDigits_toDigits, if_true, if_neg hzero, hnegative,
      int?_eq lower upper]
  rw [Numeral.number?, hint]

theorem reads_number {x : Number} {m : Numeral} (htext : (compact (.number x)).toList = c :: cs)
    (hc : c.isDigit = true ∨ c = '-') (hm : m.number? = some x)
    (hread : ∀ rest, Closes rest → numeral? (c :: cs ++ rest) = some (m, rest)) :
    Reads depth (.number x) where
  head := by
    rw [htext]
    refine ⟨c, rfl, isSpace_of_numeral hc, ?_⟩
    simp only [List.mem_cons, List.not_mem_nil, or_false, not_or]
    exact ⟨ne_of_numeral hc (by decide), ne_of_numeral hc (by decide)⟩
  reads rest hrest := by
    rw [htext, List.cons_append, value_of_numeral hc, ← List.cons_append, hread rest hrest,
      Option.bind_some]
    simp only [hm, Option.map_some]

theorem reads_int {n : Int} (lower : -0x8000000000000000 ≤ n) (upper : n < 0x10000000000000000) :
    Reads depth (.number (.int n lower upper)) := by
  have htext := toList_compact_int lower upper
  by_cases hn : 0 ≤ n
  · obtain ⟨d, ds, hd⟩ :=
      List.exists_cons_of_ne_nil (Nat.toDigits_ne_nil (n := n.toNat) (b := 10))
    have hdigit : d.isDigit = true := toDigits_isDigit n.toNat d (by rw [hd]; exact List.mem_cons_self)
    rw [if_pos hn, hd] at htext
    refine reads_number htext (Or.inl hdigit) (number?_natural lower upper hn) fun rest hrest => ?_
    rw [← hd]
    exact numeral?_natural n.toNat hrest
  · rw [if_neg hn] at htext
    exact reads_number htext (Or.inr rfl) (number?_negative lower upper (by omega)) fun rest hrest =>
      numeral?_negative _ hrest

variable {part : List Char → Option (α × List Char)} {xs : List α} {texts : List (List Char)}

theorem isSpace_of_closing (h : c ∈ [',', ']', '\x7d']) : isSpace c = false := by
  simp only [List.mem_cons, List.not_mem_nil, or_false] at h
  rcases h with rfl | rfl | rfl <;> rfl

theorem parts_intercalate (hclosing : closing ∈ [']', '\x7d'])
    (h : List.Forall₂ (ReadsAs part) xs texts) (hne : xs ≠ []) {fuel : Nat}
    (hfuel : xs.length ≤ fuel) (rest : List Char) :
    parts part closing fuel ([','].intercalate texts ++ closing :: rest) = some (xs, rest) := by
  have hend : closing ∈ [',', ']', '\x7d'] := List.mem_cons_of_mem _ hclosing
  have hcomma : closing ≠ ',' := by
    rintro rfl
    exact absurd hclosing (by decide)
  induction h generalizing fuel with
  | nil => exact absurd rfl hne
  | @cons x text xs texts hx hxs ih =>
      obtain ⟨fuel, rfl⟩ : ∃ n, fuel = n + 1 := Nat.exists_eq_succ_of_ne_zero (by
        rintro rfl
        simp at hfuel)
      cases hxs with
      | nil =>
          rw [List.intercalate_singleton, parts, hx.reads _ (closes_cons hend)]
          simp only [Option.bind_eq_bind, Option.bind_some, skipSpace_cons (isSpace_of_closing hend)]
          exact if_pos trivial
      | @cons y next ys others hy hys =>
          rw [List.intercalate_cons_cons, List.append_assoc, List.append_assoc, parts,
            List.singleton_append, hx.reads _ (closes_cons (by decide))]
          have hrest := ih (List.cons_ne_nil _ _) (Nat.le_of_succ_le_succ hfuel)
          simp only [Option.bind_eq_bind, Option.bind_some, skipSpace_cons (rfl : isSpace ',' = false),
            hrest, Option.map_some]

theorem length_le_intercalate (h : List.Forall₂ (ReadsAs part) xs texts) :
    xs.length ≤ ([','].intercalate texts).length := by
  induction h with
  | nil => exact Nat.le_refl _
  | @cons x text xs texts hx hxs ih =>
      obtain ⟨c, hc, -⟩ := hx.head
      obtain ⟨tail, rfl⟩ := List.head?_eq_some_iff.mp hc
      cases hxs with
      | nil => simp
      | cons hy hys =>
          rw [List.intercalate_cons_cons]
          simp only [List.length_append, List.length_cons, List.length_nil] at ih ⊢
          omega

theorem enclosed_intercalate (hclosing : closing ∈ [']', '\x7d'])
    (h : List.Forall₂ (ReadsAs part) xs texts) (rest : List Char) :
    enclosed part closing ([','].intercalate texts ++ closing :: rest) = some (xs, rest) := by
  have hend : closing ∈ [',', ']', '\x7d'] := List.mem_cons_of_mem _ hclosing
  cases h with
  | nil =>
      change enclosed part closing (closing :: rest) = _
      rw [enclosed, skipSpace_cons (isSpace_of_closing hend)]
      exact if_pos rfl
  | @cons x text xs texts hx hxs =>
      obtain ⟨c, hc, hspace, hmark⟩ := hx.head
      have hne : c ≠ closing := by
        rintro rfl
        exact hmark hclosing
      obtain ⟨cs, hcs⟩ : ∃ cs, [','].intercalate (text :: texts) ++ closing :: rest = c :: cs := by
        obtain ⟨tail, rfl⟩ := List.head?_eq_some_iff.mp hc
        cases texts with
        | nil => exact ⟨_, by rw [List.intercalate_singleton]; rfl⟩
        | cons next others => exact ⟨_, by rw [List.intercalate_cons_cons]; rfl⟩
      have hlength := length_le_intercalate (.cons hx hxs)
      have hfuel : (x :: xs).length ≤ ([','].intercalate (text :: texts) ++ closing :: rest).length := by
        rw [List.length_append]
        omega
      rw [hcs, enclosed, skipSpace_cons hspace]
      simp only [if_neg hne]
      rw [← hcs]
      exact parts_intercalate hclosing (.cons hx hxs) (List.cons_ne_nil _ _) hfuel rest

theorem value_bracket (cs : List Char) : value .strict (depth + 1) ('[' :: cs) =
    (enclosed (value .strict depth) ']' cs).map fun (items, cs) => (.array items, cs) := rfl

theorem compactItems_eq (items : List Json) : compactItems items = items.map compact := by
  induction items with
  | nil => rfl
  | cons item items ih => rw [compactItems, ih, List.map_cons]

theorem compactMembers_eq (members : List (String × Json)) :
    compactMembers members = members.map fun e => quote e.1 ++ ":" ++ compact e.2 := by
  induction members with
  | nil => rfl
  | cons e members ih =>
      obtain ⟨key, v⟩ := e
      rw [compactMembers, ih, List.map_cons]

theorem toList_brackets (opening closing : Char) (texts : List String) (rest : List Char) :
    (String.singleton opening ++ String.intercalate "," texts ++ String.singleton closing).toList ++
      rest = opening :: ([','].intercalate (texts.map String.toList) ++ closing :: rest) := by
  simp only [String.toList_append, String.toList_singleton, String.toList_intercalate]
  simp

theorem reads_array {items : List Json} (h : ∀ v ∈ items, Reads depth v) :
    Reads (depth + 1) (.array items) := by
  have htext (rest : List Char) : (compact (.array items)).toList ++ rest =
      '[' :: ([','].intercalate (items.map fun v => v.compact.toList) ++ ']' :: rest) := by
    rw [compact, compactItems_eq]
    refine (toList_brackets '[' ']' _ rest).trans ?_
    rw [List.map_map]
    rfl
  have hitems : List.Forall₂ (ReadsAs (value .strict depth)) items
      (items.map fun v => v.compact.toList) :=
    List.forall₂_map_right_iff.mpr (List.forall₂_same.mpr h)
  refine ⟨⟨'[', ?_, rfl, by decide⟩, fun rest _ => ?_⟩
  · rw [← List.append_nil (compact _).toList, htext]
    rfl
  · rw [htext, value_bracket, enclosed_intercalate (by decide) hitems]
    rfl

theorem readsAs_member {read : String → List Char → Option (α × List Char)} {key : String} {v : Json}
    {x : α} (h : ∀ rest, Closes rest → read key (v.compact.toList ++ rest) = some (x, rest)) :
    ReadsAs (member .strict read) (key, x) (quote key ++ ":" ++ compact v).toList where
  head := ⟨'"', by simp [quote, String.toList_append], rfl, by decide⟩
  reads rest hrest := by
    have htext : (quote key ++ ":" ++ compact v).toList ++ rest =
        (quote key).toList ++ ':' :: ((compact v).toList ++ rest) := by
      simp [String.toList_append]
    rw [htext, member, string?_quote]
    simp only [Option.bind_eq_bind, Option.bind_some, skipSpace_cons (rfl : isSpace ':' = false),
      h rest hrest, Option.map_some]

theorem value_brace (cs : List Char) : value .strict (depth + 1) ('\x7b' :: cs) =
    (enclosed (member .strict fun _ => value .strict depth) '\x7d' cs).map fun (members, cs) =>
      (.object (TextMap.ofList members).entries, cs) := rfl

theorem reads_row {row : Row} (h : ∀ e ∈ row.entries, Reads depth e.2) :
    Reads (depth + 1) (.ofRow row) := by
  have htext (rest : List Char) : (compact (.ofRow row)).toList ++ rest = '\x7b' ::
      ([','].intercalate (row.entries.map fun e => (quote e.1 ++ ":" ++ compact e.2).toList) ++
        '\x7d' :: rest) := by
    rw [ofRow, compact, compactMembers_eq]
    refine (toList_brackets '\x7b' '\x7d' _ rest).trans ?_
    rw [List.map_map]
    rfl
  have hmembers : List.Forall₂ (ReadsAs (member .strict fun _ => value .strict depth)) row.entries
      (row.entries.map fun e => (quote e.1 ++ ":" ++ compact e.2).toList) :=
    List.forall₂_map_right_iff.mpr (List.forall₂_same.mpr fun e he => readsAs_member (h e he).reads)
  refine ⟨⟨'\x7b', ?_, rfl, by decide⟩, fun rest _ => ?_⟩
  · rw [← List.append_nil (compact _).toList, htext]
    rfl
  · rw [htext, value_brace, enclosed_intercalate (by decide) hmembers]
    simp only [Option.map_some, TextMap.ofList_entries]
    rfl

end DocQuery.Json.Reader

namespace DocQuery.Json

theorem read?_compact {v : Json} (h : Reader.Reads 127 v) : read? v.compact = some v := by
  have hread := h.reads [] nofun
  rw [List.append_nil] at hread
  rw [read?, Reader.whole, hread]
  rfl

theorem int_of_text {j k : Int} (lower : -0x8000000000000000 ≤ j) (upper : j < 0x10000000000000000)
    (lower' : -0x8000000000000000 ≤ k) (upper' : k < 0x10000000000000000)
    (h : toString j = toString k) : j = k := by
  have hj : read? (toString j) = some (.number (.int j lower upper)) :=
    read?_compact (Reader.reads_int lower upper)
  have hk : read? (toString k) = some (.number (.int k lower' upper')) :=
    read?_compact (Reader.reads_int lower' upper')
  rw [h, hk] at hj
  injection hj with hj
  injection hj with hj
  injection hj with hj
  exact hj.symm

theorem toRow?_ofRow (row : Row) : (ofRow row).toRow? = some row := by
  rw [ofRow, toRow?, TextMap.ofList_entries]

theorem mapM_toRow?_iff {items : List Json} {rows : List Row} : items.mapM toRow? = some rows ↔
    List.Forall₂ (fun item row => item.toRow? = some row) items rows := by
  induction items generalizing rows with
  | nil =>
      rw [List.forall₂_nil_left_iff]
      exact ⟨fun h => (Option.some.inj h).symm, fun h => by rw [h]; rfl⟩
  | cons item items ih =>
      rw [List.mapM_cons, List.forall₂_cons_left_iff]
      simp only [Option.bind_eq_bind, Option.bind_eq_some_iff, Option.pure_def, Option.some.injEq, ih]
      constructor
      · rintro ⟨row, hrow, rows, hrows, rfl⟩
        exact ⟨row, rows, hrow, hrows, rfl⟩
      · rintro ⟨row, rows, hrow, hrows, rfl⟩
        exact ⟨row, hrow, rows, hrows, rfl⟩

end DocQuery.Json

