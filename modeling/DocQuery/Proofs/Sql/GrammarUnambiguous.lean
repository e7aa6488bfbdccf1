import DocQuery.Proofs.Sql.GrammarExact
import DocQuery.Sql.Statement

namespace DocQuery.Sql.Grammar

variable {α : Type} {r r' : List Token}

/-- A text of the kind ends where it must, so that what follows it is known too. -/
def PrefixFree (f : α → List Token) : Prop :=
  ∀ a b r r', f a ++ r = f b ++ r' → a = b ∧ r = r'

theorem Keyword.token_inj {text : String} {w w' : Keyword text} (h : w.token = w'.token) :
    w = w' := by
  cases w
  cases w'
  cases h
  rfl

theorem Word.token_inj {w w' : Word} (h : w.token = w'.token) : w = w' := by
  cases w
  cases w'
  cases h
  rfl

theorem prefixFree_word : PrefixFree fun w : Word => [w.token] := by
  intro w w' r r' h
  obtain ⟨hw, hr⟩ := List.cons.inj h
  exact ⟨Word.token_inj hw, hr⟩

theorem prefixFree_value : PrefixFree Value.tokens := by
  intro v v' r r' h
  cases v <;> cases v' <;>
    simp only [Value.tokens, Word.token, List.cons_append, List.nil_append, List.cons.injEq,
      reduceCtorEq, false_and, true_and, Token.string.injEq, Token.number.injEq] at h
  case word.word w w' => exact ⟨congrArg Value.word (Word.token_inj h.1), h.2⟩
  case placeholder.placeholder => exact ⟨rfl, h⟩
  all_goals exact ⟨by rw [h.1], h.2⟩

theorem prefixFree_equation : PrefixFree Equation.tokens := by
  intro e e' r r' h
  obtain ⟨hc, h⟩ := List.cons.inj h
  obtain ⟨hv, hr⟩ := prefixFree_value _ _ _ _ (List.cons.inj h).2
  obtain ⟨column, value⟩ := e
  obtain ⟨column', value'⟩ := e'
  obtain rfl : column = column' := Word.token_inj hc
  obtain rfl : value = value' := hv
  exact ⟨rfl, hr⟩

theorem separated_inj {f : α → List Token} (hf : PrefixFree f) {separator : Token}
    (hr : r.head? ≠ some separator) (hr' : r'.head? ≠ some separator) {as bs : List α}
    (h : (as.flatMap fun a => separator :: f a) ++ r = (bs.flatMap fun a => separator :: f a) ++ r') :
    as = bs ∧ r = r' := by
  -- on both lists at once, as neither is known to be the longer one
  induction as generalizing bs with
  | nil =>
      cases bs with
      | nil => exact ⟨rfl, h⟩
      | cons b bs => exact absurd (by rw [show r = _ from h]; rfl) hr
  | cons a as ih =>
      cases bs with
      | nil => exact absurd (by rw [show r' = _ from h.symm]; rfl) hr'
      | cons b bs =>
          simp only [List.flatMap_cons, List.cons_append, List.append_assoc, List.cons.injEq,
            true_and] at h
          obtain ⟨rfl, hs⟩ := hf _ _ _ _ h
          obtain ⟨rfl, ht⟩ := ih hs
          exact ⟨rfl, ht⟩

theorem Name.tokens_inj {n n' : Name} (hr : r.head? ≠ some .period)
    (hr' : r'.head? ≠ some .period) (h : n.tokens ++ r = n'.tokens ++ r') : n = n' ∧ r = r' := by
  obtain ⟨first, others⟩ := n
  obtain ⟨first', others'⟩ := n'
  obtain ⟨hw, hs⟩ := List.cons.inj h
  obtain rfl : first = first' := Word.token_inj hw
  obtain ⟨rfl, ht⟩ := separated_inj prefixFree_word hr hr' hs
  exact ⟨rfl, ht⟩

theorem Series.tokens_inj {f : α → List Token} (hf : PrefixFree f) {s s' : Series α}
    (hr : r.head? ≠ some .comma) (hr' : r'.head? ≠ some .comma)
    (h : s.tokens f ++ r = s'.tokens f ++ r') : s = s' ∧ r = r' := by
  obtain ⟨first, others⟩ := s
  obtain ⟨first', others'⟩ := s'
  simp only [Series.tokens, List.append_assoc] at h
  obtain ⟨rfl, hs⟩ := hf _ _ _ _ h
  obtain ⟨rfl, ht⟩ := separated_inj hf hr hr' hs
  exact ⟨rfl, ht⟩

theorem ending_inj {b b' : Bool} (h : ending b = ending b') : b = b' := by
  cases b <;> cases b' <;> first | rfl | cases h

theorem clause_inj {text : String} {f : α → List Token} (hf : PrefixFree f)
    {c c' : Option (Keyword text × α)} (hr : ∀ t ∈ r.head?, t.isKeyword text = false)
    (hr' : ∀ t ∈ r'.head?, t.isKeyword text = false) (h : clause f c ++ r = clause f c' ++ r') :
    c = c' ∧ r = r' := by
  have clash {r : List Token} (hr : ∀ t ∈ r.head?, t.isKeyword text = false)
      {c : Keyword text × α} {s : List Token} (h : r = c.1.token :: s) : False := by
    have hc := hr c.1.token (by rw [h]; rfl)
    rw [c.1.spells] at hc
    cases hc
  cases c with
  | none =>
      cases c' with
      | none => exact ⟨rfl, h⟩
      | some c' => exact (clash hr h).elim
  | some c =>
      cases c' with
      | none => exact (clash hr' h.symm).elim
      | some c' =>
          obtain ⟨word, a⟩ := c
          obtain ⟨word', a'⟩ := c'
          obtain ⟨hw, hs⟩ := List.cons.inj h
          obtain rfl : word = word' := Keyword.token_inj hw
          obtain ⟨rfl, ht⟩ := hf _ _ _ _ hs
          exact ⟨rfl, ht⟩

theorem prefixFree_limit : PrefixFree fun l : Limit => [.number l.text] := by
  intro l l' r r' h
  obtain ⟨text, value, hv⟩ := l
  obtain ⟨text', value', hv'⟩ := l'
  obtain ⟨ht, hr⟩ := List.cons.inj h
  obtain rfl : text = text' := Token.number.inj ht
  obtain rfl : value = value' := Option.some.inj (hv.symm.trans hv')
  exact ⟨rfl, hr⟩

theorem Projection.tokens_inj {p p' : Projection} (hp : depth p.tokens = 0)
    (hp' : depth p'.tokens = 0) {w w' : Keyword "FROM"}
    (h : p.tokens ++ w.token :: r = p'.tokens ++ w'.token :: r') : p = p' ∧ w = w' ∧ r = r' := by
  have hs : Form.splitProjection 0 (p.tokens ++ w.token :: r) = _ :=
    Form.splitProjection_append p.no_from hp w.spells
  rw [h, Form.splitProjection_append p'.no_from hp' w'.spells] at hs
  obtain ⟨ht, hr⟩ := Prod.mk.inj hs
  obtain ⟨hw, hr⟩ := List.cons.inj hr
  obtain ⟨tokens, _, _⟩ := p
  obtain ⟨tokens', _, _⟩ := p'
  obtain rfl : tokens' = tokens := ht
  exact ⟨rfl, Keyword.token_inj hw.symm, hr.symm⟩

theorem Insertion.tokens_inj {d d' : Insertion} (h : d.tokens = d'.tokens) : d = d' := by
  obtain ⟨insertWord, intoWord, name, columns, valuesWord, values, _, semicolon⟩ := d
  obtain ⟨insertWord', intoWord', name', columns', valuesWord', values', _, semicolon'⟩ := d'
  simp only [Insertion.tokens, List.cons.injEq] at h
  obtain ⟨h1, h2, hname⟩ := h
  obtain ⟨rfl, hcolumns⟩ := Name.tokens_inj (by simp) (by simp) hname
  obtain ⟨rfl, hvalues⟩ :=
    Series.tokens_inj prefixFree_word (by simp) (by simp) (List.cons.inj hcolumns).2
  simp only [List.cons.injEq, true_and] at hvalues
  obtain ⟨rfl, hend⟩ := Series.tokens_inj prefixFree_value (by simp) (by simp) hvalues.2
  obtain rfl := ending_inj (List.cons.inj hend).2
  obtain rfl := Keyword.token_inj h1
  obtain rfl := Keyword.token_inj h2
  obtain rfl := Keyword.token_inj hvalues.1
  rfl

theorem Revision.tokens_inj {d d' : Revision} (h : d.tokens = d'.tokens) : d = d' := by
  obtain ⟨updateWord, name, setWord, assignments, whereWord, condition, semicolon⟩ := d
  obtain ⟨updateWord', name', setWord', assignments', whereWord', condition', semicolon'⟩ := d'
  have hset (w : Keyword "SET") (ts) : (w.token :: ts).head? ≠ some .period :=
    Form.head?_keyword_ne w rfl
  have hwhere (w : Keyword "WHERE") (ts) : (w.token :: ts).head? ≠ some .comma :=
    Form.head?_keyword_ne w rfl
  obtain ⟨h1, hname⟩ := List.cons.inj h
  obtain ⟨rfl, hs⟩ := Name.tokens_inj (hset _ _) (hset _ _) hname
  obtain ⟨h2, hassignments⟩ := List.cons.inj hs
  obtain ⟨rfl, hw⟩ := Series.tokens_inj prefixFree_equation (hwhere _ _) (hwhere _ _) hassignments
  obtain ⟨h3, hcondition⟩ := List.cons.inj hw
  obtain ⟨rfl, hend⟩ := prefixFree_equation _ _ _ _ hcondition
  obtain rfl := ending_inj hend
  obtain rfl := Keyword.token_inj h1
  obtain rfl := Keyword.token_inj h2
  obtain rfl := Keyword.token_inj h3
  rfl

theorem Removal.tokens_inj {d d' : Removal} (h : d.tokens = d'.tokens) : d = d' := by
  obtain ⟨deleteWord, fromWord, name, whereWord, condition, semicolon⟩ := d
  obtain ⟨deleteWord', fromWord', name', whereWord', condition', semicolon'⟩ := d'
  have hwhere (w : Keyword "WHERE") (ts) : (w.token :: ts).head? ≠ some .period :=
    Form.head?_keyword_ne w rfl
  simp only [Removal.tokens, List.cons.injEq] at h
  obtain ⟨h1, h2, hname⟩ := h
  obtain ⟨rfl, hw⟩ := Name.tokens_inj (hwhere _ _) (hwhere _ _) hname
  obtain ⟨h3, hcondition⟩ := List.cons.inj hw
  obtain ⟨rfl, hend⟩ := prefixFree_equation _ _ _ _ hcondition
  obtain rfl := ending_inj hend
  obtain rfl := Keyword.token_inj h1
  obtain rfl := Keyword.token_inj h2
  obtain rfl := Keyword.token_inj h3
  rfl

theorem Query.tokens_inj {d d' : Query} (hd : depth d.projection.tokens = 0)
    (hd' : depth d'.projection.tokens = 0) (h : d.tokens = d'.tokens) : d = d' := by
  have hperiod (d : Query) : (clause Equation.tokens d.condition ++
      (clause (fun n => [.number n.text]) d.limit ++ ending d.semicolon)).head? ≠ some .period :=
    Form.head?_behind_name d
  have hwhere (d : Query) : ∀ t ∈ (clause (fun n : Limit => [.number n.text]) d.limit ++
      ending d.semicolon).head?, t.isKeyword "WHERE" = false :=
    Form.head?_behind_condition d
  obtain ⟨selectWord, projection, fromWord, name, condition, limit, semicolon⟩ := d
  obtain ⟨selectWord', projection', fromWord', name', condition', limit', semicolon'⟩ := d'
  obtain ⟨h1, hprojection⟩ := List.cons.inj h
  obtain ⟨rfl, rfl, hname⟩ := Projection.tokens_inj hd hd' hprojection
  obtain ⟨rfl, hcondition⟩ := Name.tokens_inj (hperiod _) (hperiod _) hname
  obtain ⟨rfl, hlimit⟩ := clause_inj prefixFree_equation (hwhere _) (hwhere _) hcondition
  obtain ⟨rfl, hend⟩ :=
    clause_inj prefixFree_limit (Form.head?_ending rfl) (Form.head?_ending rfl) hlimit
  obtain rfl := ending_inj hend
  obtain rfl := Keyword.token_inj h1
  rfl

theorem Derivation.tokens_inj {g : Grammar} {d d' : Derivation g} (hd : d.Closed)
    (hd' : d'.Closed) (h : d.tokens = d'.tokens) : d = d' := by
  cases d with
  | insert d => cases d' with | insert d' => rw [Insertion.tokens_inj h]
  | update d => cases d' with | update d' => rw [Revision.tokens_inj h]
  | delete d => cases d' with | delete d' => rw [Removal.tokens_inj h]
  | select d => cases d' with | select d' => rw [Query.tokens_inj hd hd' h]

theorem ofTokens_iff_derivation {g : Grammar} {ts : List Token} {form : Form} :
    Form.ofTokens g.reading ts = .ok form ↔
      ∃ d : Derivation g, d.Closed ∧ d.tokens = ts ∧ d.form = form := by
  cases g with
  | insert =>
      rw [show Form.ofTokens Grammar.insert.reading ts = .ok form ↔ _ from Form.readInsert_iff]
      constructor
      · rintro ⟨d, h⟩; exact ⟨.insert d, trivial, h⟩
      · rintro ⟨d, -, h⟩; cases d with | insert d => exact ⟨d, h⟩
  | update =>
      rw [show Form.ofTokens Grammar.update.reading ts = .ok form ↔ _ from Form.readUpdate_iff]
      constructor
      · rintro ⟨d, h⟩; exact ⟨.update d, trivial, h⟩
      · rintro ⟨d, -, h⟩; cases d with | update d => exact ⟨d, h⟩
  | delete =>
      rw [show Form.ofTokens Grammar.delete.reading ts = .ok form ↔ _ from Form.readDelete_iff]
      constructor
      · rintro ⟨d, h⟩; exact ⟨.delete d, trivial, h⟩
      · rintro ⟨d, -, h⟩; cases d with | delete d => exact ⟨d, h⟩
  | select =>
      rw [show Form.ofTokens Grammar.select.reading ts = .ok form ↔ _ from Form.readSelect_iff]
      constructor
      · rintro ⟨d, h⟩; exact ⟨.select d, h⟩
      · rintro ⟨d, h⟩; cases d with | select d => exact ⟨d, h⟩

theorem parseAs_ne_parse_iff {statement : String} {ts : List Token}
    (h : tokenize statement = .ok ts) (verb : Verb) (r : Reading Form) (args : Arguments) :
    (∀ e, parseAs verb r statement args ≠ .error (.parse e)) ↔
      ∃ form, Form.ofTokens r ts = .ok form := by
  have hf : formOf r statement = Form.ofTokens r ts := by rw [formOf, h]; rfl
  rw [parseAs, hf]
  cases Form.ofTokens r ts with
  | error e => simp
  | ok form =>
      simp only [Except.ok.injEq, exists_eq', iff_true]
      intro e
      cases form.fill verb args with
      | error e' => intro h; cases h
      | ok intent => intro h; cases h

/-- Each verb takes exactly the tokens that its grammar derives with a closed projection. There is
one such derivation, and the form is read off it. -/
theorem reading_exact (g : Grammar) (ts : List Token) :
    ((∃ form, Form.ofTokens g.reading ts = .ok form) ↔
      ∃ d : Derivation g, d.Closed ∧ d.tokens = ts) ∧
    (∀ d d' : Derivation g, d.Closed → d'.Closed → d.tokens = ts → d'.tokens = ts → d = d') ∧
    (∀ d : Derivation g, d.Closed → d.tokens = ts → Form.ofTokens g.reading ts = .ok d.form) ∧
    ∀ statement, tokenize statement = .ok ts → ∀ verb args,
      (∀ e, parseAs verb g.reading statement args ≠ .error (.parse e)) ↔
        ∃ d : Derivation g, d.Closed ∧ d.tokens = ts := by
  have hiff : (∃ form, Form.ofTokens g.reading ts = .ok form) ↔
      ∃ d : Derivation g, d.Closed ∧ d.tokens = ts := by
    simp only [ofTokens_iff_derivation]
    constructor
    · rintro ⟨form, d, hd, ht, -⟩
      exact ⟨d, hd, ht⟩
    · rintro ⟨d, hd, ht⟩
      exact ⟨d.form, d, hd, ht, rfl⟩
  refine ⟨hiff, ?_, ?_, ?_⟩
  · intro d d' hd hd' h h'
    exact Derivation.tokens_inj hd hd' (h.trans h'.symm)
  · intro d hd h
    exact ofTokens_iff_derivation.mpr ⟨d, hd, h, rfl⟩
  · intro statement h verb args
    rw [parseAs_ne_parse_iff h, hiff]

/-- Without the condition that the projection closes its parentheses, the grammar derives a query
whose only `FROM` stands inside of them. It is not read. -/
theorem unclosed_projection_not_read :
    (∃ d : Derivation .select,
      d.tokens = [.word "SELECT" false, .leftParen, .word "FROM" false, .word "t" false]) ∧
    ¬ ∃ form, Form.ofTokens Grammar.select.reading
      [.word "SELECT" false, .leftParen, .word "FROM" false, .word "t" false] = .ok form := by
  constructor
  · have hp : ∀ before t after, [Token.leftParen] = before ++ t :: after → depth before = 0 →
        t.isKeyword "FROM" = false := by
      intro before t after h _
      obtain ⟨rfl, rfl, rfl⟩ : before = [] ∧ t = .leftParen ∧ after = [] := by
        cases before <;> simp_all
      rfl
    exact ⟨.select ⟨⟨.word "SELECT" false, by decide⟩, ⟨[.leftParen], by simp, hp⟩,
      ⟨.word "FROM" false, by decide⟩, ⟨⟨"t", false⟩, []⟩, none, none, false⟩, rfl⟩
  · rintro ⟨form, h⟩
    cases h

end DocQuery.Sql.Grammar
