import DocQuery.Proofs.Sql.GrammarUnambiguous
import DocQuery.Proofs.Sql.Prediction
import Mathlib.Data.List.Basic
import Mathlib.Order.Bounds.Defs

namespace DocQuery.Sql

open Grammar

namespace Form

open Reading

variable {α δ : Type} {ts rest : List Token}

instance : Nonempty Limit := ⟨⟨"0", 0, by decide⟩⟩

def ClosedProjection : Type := { p : Projection // depth p.tokens = 0 }

theorem foldl_depthBehind_replicate (n k : Nat) :
    (List.replicate k Token.rightParen).foldl depthBehind n = n - k := by
  induction k generalizing n with
  | zero => rfl
  | succ k ih =>
      rw [List.replicate_succ, List.foldl_cons, ih]
      exact Nat.sub_sub n 1 k ▸ by rw [Nat.add_comm]

/-- Tokens without a `FROM` outside parentheses go on to a projection: its parentheses can be closed. -/
theorem exists_closedProjection
    (h : ∀ before u after, ts = before ++ u :: after → depth before = 0 →
      u.isKeyword "FROM" = false) :
    ∃ p : Projection, depth p.tokens = 0 ∧ ts <+: p.tokens := by
  have hclosing : ∀ t ∈ Token.star :: List.replicate (depth ts) Token.rightParen,
      t.isKeyword "FROM" = false := by
    intro t ht
    rcases List.mem_cons.mp ht with rfl | ht
    · rfl
    · rw [List.eq_of_mem_replicate ht]
      rfl
  refine ⟨⟨ts ++ Token.star :: List.replicate (depth ts) Token.rightParen, by simp, ?_⟩, ?_,
    List.prefix_append ..⟩
  · intro before u after he hb
    rcases List.append_eq_append_iff.mp he with ⟨c, rfl, hc⟩ | ⟨c, rfl, hc⟩
    · exact hclosing u (by rw [hc]; simp)
    · cases c with
      | nil => exact hclosing u (by rw [← List.nil_append (Token.star :: _), ← hc]; simp)
      | cons v c =>
          obtain ⟨rfl, -⟩ := List.cons.inj hc
          exact h before u c rfl hb
  · rw [depth, List.foldl_append, List.foldl_cons, foldl_depthBehind_replicate]
    exact Nat.sub_self _

theorem readProjection_from {t : Token} (ht : t.isKeyword "FROM") (others : List Token) :
    readProjection (t :: others) = unexpected .columnList (t :: others) := by
  rw [readProjection, splitProjection, if_pos ⟨rfl, ht⟩]

instance : Nonempty ClosedProjection :=
  have ⟨p, hp, _⟩ := @exists_closedProjection [] (by simp)
  ⟨⟨p, hp⟩⟩

theorem predictive_readProjection :
    Predictive readProjection fun p : ClosedProjection => p.1.tokens := by
  intro ts
  rcases hs : splitProjection 0 ts with ⟨projection, rest⟩
  obtain ⟨rfl, hfrom, hn⟩ := eq_of_splitProjection hs
  cases rest with
  | nil =>
      have hr : readProjection (projection ++ []) = unexpected (.keyword "FROM") [] := by
        rw [readProjection, hs]
      obtain ⟨p, hp, hfront⟩ := exists_closedProjection hn
      refine ⟨fun h => ?_, fun h => ?_⟩
      · rw [hr] at h
        cases h
      · rw [hr] at h
        cases h
        exact ⟨projection, [], rfl, ⟨⟨p, hp⟩, hfront⟩, .here (by simp), by rintro t ⟨⟩⟩
  | cons t rest =>
      obtain ⟨hd, ht⟩ := hfrom t rfl
      cases projection with
      | nil => exact .of_cons (by simp) (readProjection_from ht)
      | cons u projection =>
          let p : Projection := ⟨u :: projection, by simp, hn⟩
          refine .of_taken (x := p.tokens) ⟨p, hd⟩ rfl fun rest' hrest => ?_
          obtain ⟨others, rfl⟩ := List.head?_eq_some_iff.mp hrest
          exact readProjection_eq_ok.mpr ⟨p, ⟨t, ht⟩, others, rfl, hd, rfl, rfl⟩

theorem predictive_readLimit : Predictive readLimit fun l : Limit => [.number l.text] := by
  refine fun ts => ⟨fun h => ?_, fun h => ?_⟩
  · obtain ⟨l, rfl, rfl⟩ := readLimit_eq_ok.mp h
    exact ⟨l, rfl, fun rest' _ => readLimit_eq_ok.mpr ⟨l, rfl, rfl⟩⟩
  · unfold readLimit at h
    split at h
    · split at h <;> cases h
    · cases h

theorem predictive_readBehind (text : String) {r : Reading α} {f : δ → List Token}
    (h : Predictive r f) :
    Predictive (readBehind text r) (@clause text δ f) := by
  intro ts
  by_cases hts : ∃ t ∈ ts.head?, t.isKeyword text = true
  · obtain ⟨t, ht, hk⟩ := hts
    obtain ⟨ts, rfl⟩ := List.head?_eq_some_iff.mp ht
    have heat (ts : List Token) : eatKeyword text (t :: ts) = (.ok true, ts) := if_pos hk
    have hr (ts : List Token) :
        readBehind text r (t :: ts) = (do let x ← r; pure (some x)) ts := by
      rw [readBehind, bind_ok (heat ts), if_pos rfl]
    refine ((h.bind fun _ => predictive_pure _) ts |>.cons hr).mono ?_
    rintro ⟨a, -⟩
    exact ⟨some (⟨t, hk⟩, a), by simp [clause]⟩
  · refine .of_taken (x := none) none rfl fun rest' hrest => ?_
    have hne : ∀ t ∈ rest'.head?, t.isKeyword text = false := by
      intro t ht
      exact Bool.eq_false_iff.mpr fun hk => hts ⟨t, hrest ▸ ht, hk⟩
    rw [clause, List.nil_append, readBehind, bind_ok (eatKeyword_of_ne hne)]
    rfl

end Form

namespace Grammar

open Reading

/-- The tokens that a verb's grammar derives, whether or not an insertion has as many values as columns. -/
inductive Sentence : Grammar → List Token → Prop
  | derived {g : Grammar} (d : Derivation g) (closed : d.Closed) : Sentence g d.tokens
  | unbalanced (d : LooseInsertion) : Sentence insert d.tokens

/-- Tokens that go on to a sentence. -/
def Viable (g : Grammar) (front : List Token) : Prop :=
  ∃ behind, Sentence g (front ++ behind)

theorem predictive_readInsert : Predictive Form.readInsert LooseInsertion.tokens := by
  refine (Predictive.bind (predictive_expectKeyword _) fun _ =>
    (predictive_expectKeyword _).bind fun _ => predictive_tableName.bind fun _ =>
    (predictive_expect _).bind fun _ => (predictive_commaSeparated predictive_identifier).bind fun _ =>
    (predictive_expect _).bind fun _ => (predictive_expectKeyword _).bind fun _ =>
    (predictive_expect _).bind fun _ => (predictive_commaSeparated predictive_valueExpr).bind fun _ =>
    (predictive_expect _).bind fun _ => predictive_endOfStatement.bind fun _ =>
    predictive_pure _).mono ?_
  rintro ⟨insertWord, intoWord, name, -, columns, -, valuesWord, -, values, -, semicolon, -⟩
  exact ⟨⟨insertWord, intoWord, name, columns, valuesWord, values, semicolon⟩,
    by simp [LooseInsertion.tokens]⟩

theorem predictive_readUpdate : Predictive Form.readUpdate Revision.tokens := by
  refine (Predictive.bind (predictive_expectKeyword _) fun _ => predictive_tableName.bind fun _ =>
    (predictive_expectKeyword _).bind fun _ => (predictive_commaSeparated predictive_equality).bind
    fun _ => (predictive_expectKeyword _).bind fun _ => predictive_equality.bind fun _ =>
    predictive_endOfStatement.bind fun _ => predictive_pure _).mono ?_
  rintro ⟨updateWord, name, setWord, assignments, whereWord, condition, semicolon, -⟩
  exact ⟨⟨updateWord, name, setWord, assignments, whereWord, condition, semicolon⟩,
    by simp [Revision.tokens]⟩

theorem predictive_readDelete : Predictive Form.readDelete Removal.tokens := by
  refine (Predictive.bind (predictive_expectKeyword _) fun _ =>
    (predictive_expectKeyword _).bind fun _ => predictive_tableName.bind fun _ =>
    (predictive_expectKeyword _).bind fun _ => predictive_equality.bind fun _ =>
    predictive_endOfStatement.bind fun _ => predictive_pure _).mono ?_
  rintro ⟨deleteWord, fromWord, name, whereWord, condition, semicolon, -⟩
  exact ⟨⟨deleteWord, fromWord, name, whereWord, condition, semicolon⟩, by simp [Removal.tokens]⟩

theorem predictive_readSelect : Predictive Form.readSelect
    fun d : { d : Query // depth d.projection.tokens = 0 } => d.1.tokens := by
  refine (Predictive.bind (predictive_expectKeyword _) fun _ =>
    Form.predictive_readProjection.bind fun _ => (predictive_expectKeyword _).bind fun _ =>
    predictive_tableName.bind fun _ => (Form.predictive_readBehind _ predictive_equality).bind fun _ =>
    (Form.predictive_readBehind _ Form.predictive_readLimit).bind fun _ =>
    predictive_endOfStatement.bind fun _ => predictive_pure _).mono ?_
  rintro ⟨selectWord, ⟨projection, hd⟩, fromWord, name, condition, limit, semicolon, -⟩
  exact ⟨⟨⟨selectWord, projection, fromWord, name, condition, limit, semicolon⟩, hd⟩,
    by simp [Query.tokens]⟩

theorem predictive_reading (g : Grammar) :
    Predictive g.reading fun s : { ts // Sentence g ts } => s.1 := by
  cases g with
  | insert => exact predictive_readInsert.mono fun d => ⟨⟨_, .unbalanced d⟩, rfl⟩
  | update => exact predictive_readUpdate.mono fun d => ⟨⟨_, .derived (.update d) trivial⟩, rfl⟩
  | delete => exact predictive_readDelete.mono fun d => ⟨⟨_, .derived (.delete d) trivial⟩, rfl⟩
  | select => exact predictive_readSelect.mono fun d => ⟨⟨_, .derived (.select d.1) d.2⟩, rfl⟩

variable {g : Grammar} {ts front front' behind : List Token}

theorem Sentence.exists_read (h : Sentence g ts) : ∃ form rest, g.reading ts = (.ok form, rest) := by
  cases h with
  | derived d closed =>
      have hform := ofTokens_iff_derivation.mpr ⟨d, closed, rfl, rfl⟩
      obtain ⟨form, rest, hr, -⟩ := Form.ofTokens_eq_ok.mp hform
      exact ⟨form, rest, hr⟩
  | unbalanced d => exact ⟨d.form, [], Form.readInsert_eq_ok.mpr ⟨d, rfl, rfl, rfl⟩⟩

theorem Viable.of_prefix (h : Viable g front') (hf : front <+: front') : Viable g front := by
  obtain ⟨middle, rfl⟩ := hf
  obtain ⟨behind, hs⟩ := h
  exact ⟨middle ++ behind, by rwa [← List.append_assoc]⟩

theorem Viable.not_of_stopsAt {t : Token} (h : StopsAt g.reading front (t :: behind)) :
    ¬ Viable g (front ++ [t]) := by
  rintro ⟨others, hs⟩
  obtain ⟨form, rest, hr⟩ := hs.exists_read
  obtain ⟨e, rest', he⟩ := h t rfl others
  rw [List.append_assoc, List.singleton_append, he] at hr
  cases hr

theorem isGreatest_viable (hv : Viable g front) (hs : StopsAt g.reading front behind) :
    IsGreatest { k | k ≤ (front ++ behind).length ∧ Viable g ((front ++ behind).take k) }
      front.length := by
  refine ⟨⟨by simp, by rwa [List.take_left]⟩, ?_⟩
  rintro k ⟨hk, hviable⟩
  rcases Nat.lt_or_ge front.length k with hlt | hle
  · cases behind with
    | nil =>
        rw [List.append_nil] at hk
        exact hk
    | cons t behind =>
        have hprefix : front ++ [t] <+: (front ++ t :: behind).take k := by
          refine List.prefix_take_iff.mpr ⟨⟨behind, ?_⟩, ?_⟩
          · rw [List.append_assoc, List.singleton_append]
          · rw [List.length_append, List.length_singleton]
            exact hlt
        exact absurd (hviable.of_prefix hprefix) (Viable.not_of_stopsAt hs)
  · exact hle

theorem ofTokens_eq_unexpected {e : Expectation} {found : Option Token}
    (h : Form.ofTokens g.reading ts = .error (.unexpected e found)) :
    ∃ rest, g.reading ts = (.error (.unexpected e found), rest) := by
  rw [Form.ofTokens] at h
  rcases hr : g.reading ts with ⟨e' | form, rest⟩
  · rw [hr] at h
    cases h
    exact ⟨rest, rfl⟩
  · rw [hr] at h
    cases form with
    | insert table columns values =>
        rw [show Except.bind _ Form.check = Form.check (.insert table columns values) from rfl,
          Form.check] at h
        split at h <;> cases h
    | _ => cases h

/-- An unexpected token is the first one with which the tokens cannot go on to a sentence; if a number
was expected behind a minus sign it is the one after that. -/
theorem unexpected_located {e : Expectation} {found : Option Token}
    (h : Form.ofTokens g.reading ts = .error (.unexpected e found)) :
    ∃ k, IsGreatest { j | j ≤ ts.length ∧ Viable g (ts.take j) } k ∧
      (e ≠ .number → found = ts[k]?) ∧
      (e = .number → found = ts[k + 1]? ∧ (ts.take k).getLast? = some .minus ∧
        ∀ text, ts[k]? ≠ some (.number text)) := by
  obtain ⟨rest, hr⟩ := ofTokens_eq_unexpected h
  obtain ⟨front, behind, rfl, ⟨s, behind', hs⟩, hshows, hstops⟩ :=
    (predictive_reading g ts).stopped hr
  have hget (i : Nat) : (front ++ behind)[front.length + i]? = behind[i]? := by
    rw [List.getElem?_append_right (Nat.le_add_right ..), Nat.add_sub_cancel_left]
  refine ⟨front.length, isGreatest_viable ⟨behind', hs ▸ s.2⟩ hstops, ?_⟩
  cases hshows with
  | here he =>
      refine ⟨fun _ => ?_, fun h => absurd h he⟩
      rw [List.head?_eq_getElem?]
      exact (hget 0).symm
  | afterMinus hne =>
      refine ⟨fun h => absurd rfl h, fun _ => ⟨?_, ?_, fun text ht => hne text ?_⟩⟩
      · rw [List.head?_tail]
        exact (hget 1).symm
      · rw [List.take_left, List.getLast?_concat]
      · rw [List.head?_eq_getElem?, ← hget 0]
        exact ht

theorem unexpected_located_in_values :
    let ts := [.word "INSERT" false, .word "INTO" false, .word "t" false, .leftParen,
      .word "a" false, .rightParen, .word "VALUES" false, .leftParen, .number "1", .comma, .comma,
      .number "2", .rightParen]
    Form.ofTokens insert.reading ts = .error (.unexpected .value (some .comma)) ∧
      ∃ k, IsGreatest { j | j ≤ ts.length ∧ Viable insert (ts.take j) } k ∧ ts[k]? = some .comma := by
  intro ts
  have h : Form.ofTokens insert.reading ts = .error (.unexpected .value (some .comma)) := by
    decide +kernel
  obtain ⟨k, hk, hfound, -⟩ := unexpected_located h
  exact ⟨h, k, hk, (hfound (by simp)).symm⟩

/-- Of a word behind a minus sign the message says nothing; it shows what stands behind the word. -/
theorem word_behind_minus_passed :
    let ts := [.word "DELETE" false, .word "FROM" false, .word "t" false, .word "WHERE" false,
      .word "a" false, .equal, .minus, .word "x" false]
    tokenize "DELETE FROM t WHERE a = - x" = .ok ts ∧
      Form.ofTokens delete.reading ts = .error (.unexpected .number none) ∧
      parse "DELETE FROM t WHERE a = - x" [] = .error (.parse (.unexpected .number none)) ∧
      (ParseError.unexpected .number none).message = "Expected number, found end of statement" ∧
      IsGreatest { j | j ≤ ts.length ∧ Viable delete (ts.take j) } 7 ∧
      displayOr "end of statement" ts[7]? = "'x'" := by
  intro ts
  let front := ts.take 7
  have hviable : Viable delete front := by
    let d : Removal := ⟨⟨.word "DELETE" false, by decide⟩, ⟨.word "FROM" false, by decide⟩,
      ⟨⟨"t", false⟩, []⟩, ⟨.word "WHERE" false, by decide⟩, ⟨⟨"a", false⟩, .negative "1"⟩, false⟩
    exact ⟨[.number "1"], .derived (.delete d) trivial⟩
  have hstops : StopsAt delete.reading front [.word "x" false] := by
    rintro t ⟨⟩ others
    exact ⟨_, _, rfl⟩
  exact ⟨by decide +kernel, by decide +kernel, by decide +kernel, by decide +kernel,
    isGreatest_viable hviable hstops, by decide +kernel⟩

end Grammar

end DocQuery.Sql
