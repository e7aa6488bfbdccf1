import DocQuery.Proofs.Sql.Grammar

namespace DocQuery.Sql

open Grammar

namespace Reading

variable {α β δ : Type} {ts rest : List Token}

theorem bind_eq_ok {r : Reading α} {next : α → Reading β} {y : β} :
    (r >>= next) ts = (.ok y, rest) ↔
      ∃ x mid, r ts = (.ok x, mid) ∧ next x mid = (.ok y, rest) := by
  rcases hr : r ts with ⟨_ | x, mid⟩
  · simp [bind_error hr]
  · rw [bind_ok hr]
    constructor
    · intro h
      exact ⟨x, mid, rfl, h⟩
    · rintro ⟨x, mid, he, h⟩
      cases he
      exact h

theorem pure_eq_ok {x y : α} : (pure x : Reading α) ts = (.ok y, rest) ↔ y = x ∧ rest = ts := by
  simp [pure_apply, eq_comm]

theorem expectKeyword_eq_ok {text : String} {u : Unit} :
    expectKeyword text ts = (.ok u, rest) ↔ ∃ w : Keyword text, ts = w.token :: rest := by
  cases ts with
  | nil => simp [expectKeyword, unexpected]
  | cons t ts =>
      by_cases h : t.isKeyword text = true
      · simp only [expectKeyword, h, if_true, Prod.mk.injEq, true_and, List.cons.injEq]
        constructor
        · intro he
          exact ⟨⟨t, h⟩, rfl, he⟩
        · rintro ⟨w, -, he⟩
          exact he
      · simp only [expectKeyword, h, unexpected, Prod.mk.injEq, reduceCtorEq, false_and,
          Bool.false_eq_true, if_false, false_iff, not_exists, List.cons.injEq, not_and]
        rintro w rfl
        exact absurd w.spells h

theorem expect_eq_ok {t : Token} {u : Unit} : expect t ts = (.ok u, rest) ↔ ts = t :: rest := by
  cases ts with
  | nil => simp [expect, unexpected]
  | cons t' ts => by_cases h : t' = t <;> simp [expect, unexpected, h]

theorem identifier_eq_ok {v : String} :
    identifier ts = (.ok v, rest) ↔ ∃ w : Word, ts = [w.token] ++ rest ∧ w.value = v := by
  constructor
  · intro h
    cases ts with
    | nil => simp [identifier, unexpected] at h
    | cons t ts =>
        cases t with
        | word value quoted =>
            simp only [identifier, Prod.mk.injEq, Except.ok.injEq] at h
            exact ⟨⟨value, quoted⟩, by rw [h.2]; rfl, h.1⟩
        | _ => simp [identifier, unexpected] at h
  · rintro ⟨w, rfl, rfl⟩
    rfl

theorem qualified_eq_ok {vs : List String} : qualified ts = (.ok vs, rest) ↔
    ∃ ws : List Word, ts = (ws.flatMap fun w => [.period, w.token]) ++ rest ∧
      ws.map (·.value) = vs ∧ rest.head? ≠ some .period := by
  constructor
  · intro h
    fun_induction qualified ts generalizing vs rest with
    | case1 value quoted ts values mid hq ih =>
        simp only [Prod.mk.injEq, Except.ok.injEq] at h
        obtain ⟨rfl, rfl⟩ := h
        obtain ⟨ws, rfl, rfl, hrest⟩ := ih hq
        exact ⟨⟨value, quoted⟩ :: ws, rfl, rfl, hrest⟩
    | case2 => simp at h
    | case3 => simp [unexpected] at h
    | case4 ts hne hne' =>
        simp only [Prod.mk.injEq, Except.ok.injEq] at h
        obtain ⟨rfl, rfl⟩ := h
        refine ⟨[], rfl, rfl, ?_⟩
        cases ts with
        | nil => simp
        | cons t ts =>
            intro ht
            exact hne' ts (by simpa using ht)
  · rintro ⟨ws, rfl, rfl, hrest⟩
    induction ws with
    | nil =>
        cases rest with
        | nil => rfl
        | cons t ts =>
            cases t with
            | period => simp at hrest
            | _ => rfl
    | cons w ws ih =>
        simp only [List.flatMap_cons, List.cons_append, List.nil_append, Word.token, qualified,
          List.map_cons]
        simp only [Word.token] at ih
        rw [ih]

theorem tableName_eq_ok {table : String} : tableName ts = (.ok table, rest) ↔
    ∃ n : Name, ts = n.tokens ++ rest ∧ n.table = table ∧ rest.head? ≠ some .period := by
  simp only [tableName, tableParts, bind_eq_ok, pure_eq_ok, identifier_eq_ok, qualified_eq_ok]
  constructor
  · rintro ⟨_, _, ⟨_, _, ⟨w, rfl, rfl⟩, _, _, ⟨ws, rfl, rfl, hrest⟩, rfl, rfl⟩, rfl, rfl⟩
    exact ⟨⟨w, ws⟩, rfl, rfl, hrest⟩
  · rintro ⟨n, rfl, rfl, hrest⟩
    exact ⟨_, _, ⟨_, _, ⟨n.first, rfl, rfl⟩, _, _, ⟨n.others, rfl, rfl, hrest⟩, rfl, rfl⟩, rfl, rfl⟩

theorem valueExpr_eq_ok {e : Expr} : valueExpr ts = (.ok e, rest) ↔
    ∃ v : Value, ts = v.tokens ++ rest ∧ v.expr = e := by
  constructor
  · intro h
    unfold valueExpr at h
    split at h
    · simp only [Prod.mk.injEq, Except.ok.injEq] at h
      exact ⟨.placeholder, by simp [Value.tokens, h.2], h.1⟩
    · simp only [Prod.mk.injEq, Except.ok.injEq] at h
      exact ⟨.string _, by simp [Value.tokens, h.2], h.1⟩
    · simp only [Prod.mk.injEq, Except.ok.injEq] at h
      exact ⟨.number _, by simp [Value.tokens, h.2], h.1⟩
    · simp only [Prod.mk.injEq, Except.ok.injEq] at h
      exact ⟨.negative _, by simp [Value.tokens, h.2], h.1⟩
    · simp [unexpected] at h
    · rename_i value quoted ts
      refine ⟨.word ⟨value, quoted⟩, ?_, ?_⟩ <;> split at h <;>
        simp_all [Value.tokens, Value.expr, Word.token]
    · simp [unexpected] at h
  · rintro ⟨v, rfl, rfl⟩
    cases v with
    | word w =>
        change valueExpr (.word w.value w.quoted :: rest) = _
        rw [valueExpr, Value.expr, Word.token]
        split <;> rfl
    | _ => rfl

theorem equality_eq_ok {c : Equality} : equality ts = (.ok c, rest) ↔
    ∃ e : Equation, ts = e.tokens ++ rest ∧ e.equality = c := by
  simp only [equality, bind_eq_ok, pure_eq_ok, identifier_eq_ok, expect_eq_ok, valueExpr_eq_ok]
  constructor
  · rintro ⟨_, _, ⟨w, rfl, rfl⟩, _, _, rfl, _, _, ⟨v, rfl, rfl⟩, rfl, rfl⟩
    exact ⟨⟨w, v⟩, rfl, rfl⟩
  · rintro ⟨e, rfl, rfl⟩
    exact ⟨_, _, ⟨e.column, rfl, rfl⟩, (), _, rfl, _, _, ⟨e.value, rfl, rfl⟩, rfl, rfl⟩

theorem bind_congr {r r' : Reading α} {next : α → Reading β} (h : r ts = r' ts) :
    (r >>= next) ts = (r' >>= next) ts := by
  simp only [Bind.bind, h]

theorem eat_of_ne {t : Token} (h : ts.head? ≠ some t) : eat t ts = (.ok false, ts) := by
  cases ts with
  | nil => rfl
  | cons u ts => exact if_neg fun hu => h (by rw [hu]; rfl)

theorem eatKeyword_of_ne {text : String} (h : ∀ t ∈ ts.head?, t.isKeyword text = false) :
    eatKeyword text ts = (.ok false, ts) := by
  cases ts with
  | nil => rfl
  | cons t ts => exact if_neg (by rw [h t rfl]; simp)

theorem moreItems_of_ne {item : Reading α} (h : ts.head? ≠ some .comma) (n : Nat) :
    moreItems item n ts = (.ok [], ts) := by
  cases n with
  | zero => rfl
  | succ n => rw [moreItems, bind_ok (eat_of_ne h)]; rfl

theorem moreItems_comma (item : Reading α) (n : Nat) (ts : List Token) :
    moreItems item (n + 1) (.comma :: ts) =
      (do let x ← item; let xs ← moreItems item n; pure (x :: xs)) ts := rfl

/-- The items behind the first one go on as long as there is a comma. The bound on their number is
not met, since every comma is a token. -/
theorem moreItems_eq_ok {item : Reading α} {f : δ → List Token} {g : δ → α}
    (h : ∀ {ts x rest}, item ts = (.ok x, rest) ↔ ∃ a, ts = f a ++ rest ∧ g a = x)
    {fuel : Nat} (hf : ts.length ≤ fuel) {xs : List α} :
    moreItems item fuel ts = (.ok xs, rest) ↔
      ∃ as : List δ, ts = (as.flatMap fun a => .comma :: f a) ++ rest ∧ as.map g = xs ∧
        rest.head? ≠ some .comma := by
  induction fuel generalizing ts xs with
  | zero =>
      obtain rfl : ts = [] := List.eq_nil_of_length_eq_zero (Nat.le_zero.mp hf)
      rw [moreItems, pure_eq_ok]
      constructor
      · rintro ⟨rfl, rfl⟩
        exact ⟨[], rfl, rfl, by simp⟩
      · rintro ⟨as, hts, rfl, -⟩
        cases as with
        | nil => exact ⟨rfl, hts.symm⟩
        | cons a as => simp at hts
  | succ fuel ih =>
      by_cases hc : ts.head? = some .comma
      · obtain ⟨ts, rfl⟩ : ∃ ts', ts = .comma :: ts' := List.head?_eq_some_iff.mp hc
        -- each comma is a token, so that the fuel is not used up before the tokens are
        have hl {a : δ} {mid : List Token} (he : ts = f a ++ mid) : mid.length ≤ fuel := by
          have := congrArg List.length he
          simp only [List.length_cons, List.length_append] at hf this
          omega
        rw [moreItems_comma]
        simp only [bind_eq_ok, pure_eq_ok]
        constructor
        · rintro ⟨x, mid, hx, ys, mid', hy, rfl, rfl⟩
          obtain ⟨a, rfl, rfl⟩ := h.mp hx
          obtain ⟨as, rfl, rfl, hrest⟩ := (ih (hl rfl)).mp hy
          exact ⟨a :: as, by simp, rfl, hrest⟩
        · rintro ⟨as, hts, rfl, hrest⟩
          cases as with
          | nil =>
              obtain rfl : rest = .comma :: ts := hts.symm
              exact absurd rfl hrest
          | cons a as =>
              simp only [List.flatMap_cons, List.cons_append, List.append_assoc, List.cons.injEq,
                true_and] at hts
              exact ⟨g a, _, h.mpr ⟨a, hts, rfl⟩, as.map g, rest,
                (ih (hl hts)).mpr ⟨as, rfl, rfl, hrest⟩, rfl, rfl⟩
      · rw [moreItems_of_ne hc, Prod.mk.injEq, Except.ok.injEq]
        constructor
        · rintro ⟨rfl, rfl⟩
          exact ⟨[], rfl, rfl, hc⟩
        · rintro ⟨as, hts, rfl, hrest⟩
          cases as with
          | nil => exact ⟨rfl, hts⟩
          | cons a as => exact absurd (by rw [hts]; rfl) hc

theorem commaSeparated_eq_ok {item : Reading α} {f : δ → List Token} {g : δ → α}
    (h : ∀ {ts x rest}, item ts = (.ok x, rest) ↔ ∃ a, ts = f a ++ rest ∧ g a = x)
    {xs : List α} : commaSeparated item ts = (.ok xs, rest) ↔
      ∃ s : Series δ, ts = s.tokens f ++ rest ∧ s.items.map g = xs ∧
        rest.head? ≠ some .comma := by
  simp only [commaSeparated, bind_eq_ok, pure_eq_ok, h, otherItems]
  constructor
  · rintro ⟨_, mid, ⟨a, rfl, rfl⟩, ys, _, hy, rfl, rfl⟩
    obtain ⟨as, rfl, rfl, hrest⟩ := (moreItems_eq_ok h (Nat.le_refl _)).mp hy
    exact ⟨⟨a, as⟩, by simp [Series.tokens], rfl, hrest⟩
  · rintro ⟨s, rfl, rfl, hrest⟩
    refine ⟨_, (s.others.flatMap fun a => .comma :: f a) ++ rest, ⟨s.first, ?_, rfl⟩,
      s.others.map g, rest, ?_, rfl, rfl⟩
    · rw [Series.tokens, List.append_assoc]
    · exact (moreItems_eq_ok h (Nat.le_refl _)).mpr ⟨s.others, rfl, rfl, hrest⟩

theorem noMoreTokens_eq_ok {u : Unit} : noMoreTokens ts = (.ok u, rest) ↔ ts = [] ∧ rest = [] := by
  cases ts with
  | nil => simp [noMoreTokens, eq_comm]
  | cons t ts => simp [noMoreTokens, unexpected]

theorem endOfStatement_eq_ok {u : Unit} :
    endOfStatement ts = (.ok u, rest) ↔ ∃ b, ts = ending b ∧ rest = [] := by
  simp only [endOfStatement, bind_eq_ok, noMoreTokens_eq_ok]
  constructor
  · rintro ⟨b, mid, he, rfl, rfl⟩
    cases ts with
    | nil => exact ⟨false, rfl, rfl⟩
    | cons t ts =>
        by_cases ht : t = .semicolon
        · rw [eat, if_pos ht] at he
          cases he
          exact ⟨true, by rw [ht]; rfl, rfl⟩
        · rw [eat, if_neg ht] at he
          cases he
  · rintro ⟨b, rfl, rfl⟩
    cases b with
    | true => exact ⟨true, [], rfl, rfl, rfl⟩
    | false => exact ⟨false, [], rfl, rfl, rfl⟩

end Reading

end DocQuery.Sql
