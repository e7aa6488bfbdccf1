import DocQuery.Proofs.Sql.GrammarReading

namespace DocQuery.Sql

open Grammar Reading

namespace Form

variable {α δ : Type} {ts rest : List Token}

theorem readBehind_eq_ok {text : String} {r : Reading α} {f : δ → List Token} {g : δ → α}
    (h : ∀ {ts x rest}, r ts = (.ok x, rest) ↔ ∃ a, ts = f a ++ rest ∧ g a = x) {o : Option α} :
    readBehind text r ts = (.ok o, rest) ↔
      ∃ c : Option (Keyword text × δ), ts = clause f c ++ rest ∧ (c.map fun c => g c.2) = o ∧
        (c = none → ∀ t ∈ rest.head?, t.isKeyword text = false) := by
  rw [readBehind, bind_eq_ok]
  constructor
  · rintro ⟨b, mid, he, hr⟩
    cases ts with
    | nil =>
        cases he
        simp only [Bool.false_eq_true, if_false, pure_eq_ok] at hr
        obtain ⟨rfl, rfl⟩ := hr
        exact ⟨none, rfl, rfl, by simp⟩
    | cons t ts =>
        rw [eatKeyword] at he
        split at he
        · rename_i ht
          cases he
          simp only [if_true, bind_eq_ok, pure_eq_ok, h] at hr
          obtain ⟨_, _, ⟨a, rfl, rfl⟩, rfl, rfl⟩ := hr
          exact ⟨some (⟨t, ht⟩, a), rfl, rfl, by simp⟩
        · rename_i ht
          cases he
          simp only [Bool.false_eq_true, if_false, pure_eq_ok] at hr
          obtain ⟨rfl, rfl⟩ := hr
          exact ⟨none, rfl, rfl, by simpa using ht⟩
  · rintro ⟨c, rfl, rfl, hn⟩
    cases c with
    | none =>
        refine ⟨false, rest, eatKeyword_of_ne (hn rfl), ?_⟩
        simp only [Bool.false_eq_true, if_false, pure_eq_ok, Option.map_none, and_self]
    | some c =>
        refine ⟨true, f c.2 ++ rest, ?_, ?_⟩
        · simp [clause, eatKeyword, c.1.spells]
        · simp only [if_true, bind_eq_ok, pure_eq_ok, h]
          exact ⟨g c.2, rest, ⟨c.2, rfl, rfl⟩, rfl, rfl⟩

theorem readLimit_eq_ok {n : Nat} : readLimit ts = (.ok n, rest) ↔
    ∃ l : Limit, ts = [.number l.text] ++ rest ∧ l.value = n := by
  constructor
  · intro h
    cases ts with
    | nil => cases h
    | cons t ts =>
        cases t with
        | number text =>
            rw [readLimit] at h
            cases hm : Text.natural64? text.toList with
            | none => rw [hm] at h; cases h
            | some m =>
                rw [hm] at h
                cases h
                exact ⟨⟨text, n, hm⟩, rfl, rfl⟩
        | _ => cases h
  · rintro ⟨l, rfl, rfl⟩
    simp [readLimit, l.reads]

theorem splitProjection_append {projection : List Token} {n : Nat} {t : Token}
    (hn : ∀ before u after, projection = before ++ u :: after →
      before.foldl depthBehind n = 0 → u.isKeyword "FROM" = false)
    (hd : projection.foldl depthBehind n = 0) (ht : t.isKeyword "FROM" = true) :
    splitProjection n (projection ++ t :: rest) = (projection, t :: rest) := by
  induction projection generalizing n with
  | nil =>
      have h0 : n = 0 := hd
      simp [splitProjection, h0, ht]
  | cons u projection ih =>
      have hu : ¬ (n = 0 ∧ u.isKeyword "FROM" = true) := by
        rintro ⟨h0, hu⟩
        rw [hn [] u projection rfl h0] at hu
        cases hu
      rw [List.cons_append, splitProjection, if_neg hu]
      rw [ih (fun before v after he hb => hn (u :: before) v after (by rw [he]; rfl) hb) hd]

theorem eq_of_splitProjection {projection : List Token} {n : Nat}
    (h : splitProjection n ts = (projection, rest)) :
    ts = projection ++ rest ∧
      (∀ t ∈ rest.head?, projection.foldl depthBehind n = 0 ∧ t.isKeyword "FROM" = true) ∧
      ∀ before u after, projection = before ++ u :: after →
        before.foldl depthBehind n = 0 → u.isKeyword "FROM" = false := by
  induction ts generalizing n projection with
  | nil =>
      cases h
      exact ⟨rfl, by rintro t ⟨⟩, fun before v after he => by simp at he⟩
  | cons u ts ih =>
      rw [splitProjection] at h
      split at h
      · rename_i hu
        cases h
        refine ⟨rfl, ?_, fun before v after he => by simp at he⟩
        rintro t ⟨⟩
        exact hu
      · rename_i hu
        rcases hs : splitProjection (depthBehind n u) ts with ⟨projection', rest'⟩
        rw [hs] at h
        cases h
        obtain ⟨rfl, ht, hn⟩ := ih hs
        refine ⟨rfl, ht, ?_⟩
        intro before v after he hb
        cases before with
        | nil =>
            obtain rfl : u = v := (List.cons.inj he).1
            cases hv : u.isKeyword "FROM" with
            | false => rfl
            | true => exact absurd ⟨hb, hv⟩ hu
        | cons w before =>
            cases he
            exact hn before v after rfl hb

theorem readProjection_eq_ok {projection : List Token} :
    readProjection ts = (.ok projection, rest) ↔
      ∃ p : Projection, ∃ w : Keyword "FROM", ∃ rest', rest = w.token :: rest' ∧
        depth p.tokens = 0 ∧ ts = p.tokens ++ rest ∧ p.tokens = projection := by
  constructor
  · intro h
    unfold readProjection at h
    split at h
    · cases h
    · cases h
    · rename_i projection' rest' h1 h2 hs
      cases h
      cases rest with
      | nil => exact absurd rfl h1
      | cons t rest =>
          obtain ⟨rfl, hfrom, hn⟩ := eq_of_splitProjection hs
          obtain ⟨hd, ht⟩ := hfrom t rfl
          have hne : projection ≠ [] := fun he => h2 (by rw [he])
          exact ⟨⟨projection, hne, hn⟩, ⟨t, ht⟩, rest, rfl, hd, rfl, rfl⟩
  · rintro ⟨p, w, rest', rfl, hd, rfl, rfl⟩
    unfold readProjection
    rw [splitProjection_append p.no_from hd w.spells]
    obtain ⟨t, ts, hp⟩ := List.exists_cons_of_ne_nil p.ne_nil
    simp [hp]

theorem ofTokens_eq_ok {r : Reading Form} {form : Form} :
    ofTokens r ts = .ok form ↔ ∃ f rest, r ts = (.ok f, rest) ∧ check f = .ok form := by
  rw [ofTokens]
  rcases hr : r ts with ⟨e | f, rest⟩
  · simp [Except.bind]
  · simp [Except.bind]

theorem keyword_ne_of_not_isWord {text : String} (w : Keyword text) {t : Token}
    (ht : t.isWord = false) : w.token ≠ t := by
  rintro rfl
  have hw := w.spells
  cases h : w.token <;> simp_all [Token.isWord, Token.isKeyword]

theorem head?_keyword_ne {text : String} (w : Keyword text) {t : Token} (ht : t.isWord = false) :
    (w.token :: ts).head? ≠ some t := by
  rw [List.head?_cons]
  intro h
  exact keyword_ne_of_not_isWord w ht (Option.some.inj h)

theorem isKeyword_ne {text text' : String} (w : Keyword text)
    (h : text.toList.map Char.toLower ≠ text'.toList.map Char.toLower) :
    w.token.isKeyword text' = false := by
  obtain ⟨value, hw, hvalue⟩ := w.exists_value
  rw [hw, Token.isKeyword, hvalue, beq_eq_false_iff_ne]
  exact h

theorem readInsert_eq_ok {form : Form} : readInsert ts = (.ok form, rest) ↔
    ∃ d : LooseInsertion, d.tokens = ts ∧ d.form = form ∧ rest = [] := by
  simp only [readInsert, bind_eq_ok, pure_eq_ok, expectKeyword_eq_ok, expect_eq_ok,
    tableName_eq_ok, commaSeparated_eq_ok identifier_eq_ok, commaSeparated_eq_ok valueExpr_eq_ok,
    endOfStatement_eq_ok]
  constructor
  · rintro ⟨_, _, ⟨insertWord, rfl⟩, _, _, ⟨intoWord, rfl⟩, _, _, ⟨name, rfl, rfl, -⟩,
      _, _, rfl, _, _, ⟨columns, rfl, rfl, -⟩, _, _, rfl, _, _, ⟨valuesWord, rfl⟩, _, _, rfl,
      _, _, ⟨values, rfl, rfl, -⟩, _, _, rfl, _, _, ⟨semicolon, rfl, rfl⟩, rfl, rfl⟩
    exact ⟨⟨insertWord, intoWord, name, columns, valuesWord, values, semicolon⟩, rfl, rfl, rfl⟩
  · rintro ⟨d, rfl, rfl, rfl⟩
    exact ⟨(), _, ⟨d.insertWord, rfl⟩, (), _, ⟨d.intoWord, rfl⟩, _, _,
      ⟨d.name, rfl, rfl, by simp⟩, (), _, rfl, _, _, ⟨d.columns, rfl, rfl, by simp⟩, (), _, rfl,
      (), _, ⟨d.valuesWord, rfl⟩, (), _, rfl, _, _, ⟨d.values, rfl, rfl, by simp⟩, (), _, rfl,
      (), _, ⟨d.semicolon, rfl, rfl⟩, rfl, rfl⟩

theorem readInsert_iff {form : Form} :
    ofTokens readInsert ts = .ok form ↔ ∃ d : Insertion, d.tokens = ts ∧ d.form = form := by
  simp only [ofTokens_eq_ok, readInsert_eq_ok]
  constructor
  · rintro ⟨_, _, ⟨d, rfl, rfl, rfl⟩, hc⟩
    rw [LooseInsertion.form, check] at hc
    split at hc
    · rename_i hl
      cases hc
      exact ⟨⟨d.insertWord, d.intoWord, d.name, d.columns, d.valuesWord, d.values,
        by simpa using hl, d.semicolon⟩, rfl, rfl⟩
    · cases hc
  · rintro ⟨d, rfl, rfl⟩
    refine ⟨_, _, ⟨d.loose, rfl, rfl, rfl⟩, ?_⟩
    exact if_pos (by simpa [Insertion.loose] using d.balanced)

theorem readUpdate_iff {form : Form} :
    ofTokens readUpdate ts = .ok form ↔ ∃ d : Revision, d.tokens = ts ∧ d.form = form := by
  simp only [ofTokens_eq_ok, readUpdate, bind_eq_ok, pure_eq_ok, expectKeyword_eq_ok,
    tableName_eq_ok, commaSeparated_eq_ok equality_eq_ok, equality_eq_ok, endOfStatement_eq_ok]
  constructor
  · rintro ⟨_, _, ⟨_, _, ⟨updateWord, rfl⟩, _, _, ⟨name, rfl, rfl, -⟩, _, _, ⟨setWord, rfl⟩,
      _, _, ⟨assignments, rfl, rfl, -⟩, _, _, ⟨whereWord, rfl⟩, _, _, ⟨condition, rfl, rfl⟩,
      _, _, ⟨semicolon, rfl, rfl⟩, rfl, rfl⟩, hc⟩
    cases hc
    exact ⟨⟨updateWord, name, setWord, assignments, whereWord, condition, semicolon⟩, rfl, rfl⟩
  · rintro ⟨d, rfl, rfl⟩
    exact ⟨_, _, ⟨(), _, ⟨d.updateWord, rfl⟩, _, _, ⟨d.name, rfl, rfl, head?_keyword_ne _ rfl⟩,
      (), _, ⟨d.setWord, rfl⟩, _, _, ⟨d.assignments, rfl, rfl, head?_keyword_ne _ rfl⟩,
      (), _, ⟨d.whereWord, rfl⟩, _, _, ⟨d.condition, rfl, rfl⟩, (), _, ⟨d.semicolon, rfl, rfl⟩,
      rfl, rfl⟩, rfl⟩

theorem readDelete_iff {form : Form} :
    ofTokens readDelete ts = .ok form ↔ ∃ d : Removal, d.tokens = ts ∧ d.form = form := by
  simp only [ofTokens_eq_ok, readDelete, bind_eq_ok, pure_eq_ok, expectKeyword_eq_ok,
    tableName_eq_ok, equality_eq_ok, endOfStatement_eq_ok]
  constructor
  · rintro ⟨_, _, ⟨_, _, ⟨deleteWord, rfl⟩, _, _, ⟨fromWord, rfl⟩, _, _, ⟨name, rfl, rfl, -⟩,
      _, _, ⟨whereWord, rfl⟩, _, _, ⟨condition, rfl, rfl⟩, _, _, ⟨semicolon, rfl, rfl⟩,
      rfl, rfl⟩, hc⟩
    cases hc
    exact ⟨⟨deleteWord, fromWord, name, whereWord, condition, semicolon⟩, rfl, rfl⟩
  · rintro ⟨d, rfl, rfl⟩
    exact ⟨_, _, ⟨(), _, ⟨d.deleteWord, rfl⟩, (), _, ⟨d.fromWord, rfl⟩, _, _,
      ⟨d.name, rfl, rfl, head?_keyword_ne _ rfl⟩, (), _, ⟨d.whereWord, rfl⟩, _, _,
      ⟨d.condition, rfl, rfl⟩, (), _, ⟨d.semicolon, rfl, rfl⟩, rfl, rfl⟩, rfl⟩

theorem head?_clause {α : Type} {text : String} {f : α → List Token}
    {c : Option (Keyword text × α)} {P : Token → Prop} (hw : ∀ w : Keyword text, P w.token)
    (hr : ∀ t ∈ rest.head?, P t) : ∀ t ∈ (clause f c ++ rest).head?, P t := by
  cases c with
  | none => exact hr
  | some c =>
      rintro t ⟨⟩
      exact hw c.1

theorem head?_ending {semicolon : Bool} {P : Token → Prop} (h : P .semicolon) :
    ∀ t ∈ (ending semicolon).head?, P t := by
  cases semicolon with
  | false => rintro t ⟨⟩
  | true => rintro t ⟨⟩; exact h

theorem head?_behind_name (d : Query) : (clause Equation.tokens d.condition ++
    (clause (fun n => [.number n.text]) d.limit ++ ending d.semicolon)).head? ≠ some .period := by
  intro h
  have hne : ∀ t ∈ (clause Equation.tokens d.condition ++
      (clause (fun n => [.number n.text]) d.limit ++ ending d.semicolon)).head?, t ≠ .period :=
    head?_clause (fun w => keyword_ne_of_not_isWord w rfl)
      (head?_clause (fun w => keyword_ne_of_not_isWord w rfl) (head?_ending (by simp)))
  exact hne _ h rfl

theorem head?_behind_condition (d : Query) : ∀ t ∈ (clause (fun n : Limit => [.number n.text]) d.limit ++
    ending d.semicolon).head?, t.isKeyword "WHERE" = false :=
  head?_clause (fun w => isKeyword_ne w (by decide)) (head?_ending rfl)

theorem readSelect_iff {form : Form} : ofTokens readSelect ts = .ok form ↔
    ∃ d : Query, depth d.projection.tokens = 0 ∧ d.tokens = ts ∧ d.form = form := by
  simp only [ofTokens_eq_ok, readSelect, bind_eq_ok, pure_eq_ok, expectKeyword_eq_ok,
    readProjection_eq_ok, tableName_eq_ok, readBehind_eq_ok equality_eq_ok,
    readBehind_eq_ok readLimit_eq_ok, endOfStatement_eq_ok]
  constructor
  · rintro ⟨_, _, ⟨_, _, ⟨selectWord, rfl⟩, _, _, ⟨projection, _, _, rfl, hd, rfl, rfl⟩, _, _,
      ⟨fromWord, hw⟩, _, _, ⟨name, rfl, rfl, -⟩, _, _, ⟨condition, rfl, rfl, -⟩, _, _,
      ⟨limit, rfl, rfl, -⟩, _, _, ⟨semicolon, rfl, rfl⟩, rfl, rfl⟩, hc⟩
    cases hc
    rw [hw]
    exact ⟨⟨selectWord, projection, fromWord, name, condition, limit, semicolon⟩, hd, rfl, rfl⟩
  · rintro ⟨d, hd, rfl, rfl⟩
    exact ⟨_, _, ⟨(), _, ⟨d.selectWord, rfl⟩, _, _, ⟨d.projection, d.fromWord, _, rfl, hd, rfl, rfl⟩,
      (), _, ⟨d.fromWord, rfl⟩, _, _, ⟨d.name, rfl, rfl, head?_behind_name d⟩, _, _,
      ⟨d.condition, rfl, rfl, fun _ => head?_behind_condition d⟩, _, _,
      ⟨d.limit, rfl, rfl, fun _ => head?_ending rfl⟩, (), _, ⟨d.semicolon, rfl, rfl⟩, rfl, rfl⟩, rfl⟩

end Form

end DocQuery.Sql
