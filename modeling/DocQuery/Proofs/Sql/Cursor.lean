import DocQuery.Proofs.Sql.Prediction

namespace DocQuery.Sql.Reading

open Grammar

variable {α β δ : Type} {r : Reading α}

/-- What a reading leaves is an end of what it was given, also when it fails. -/
def Forward (r : Reading α) : Prop :=
  ∀ ts, (r ts).2 <:+ ts

theorem Forward.bind {next : α → Reading β} (hr : Forward r) (hnext : ∀ x, Forward (next x)) :
    Forward (r >>= next) := by
  intro ts
  have hmid := hr ts
  rcases h : r ts with ⟨e | x, mid⟩
  · rw [h] at hmid
    rwa [bind_error h]
  · rw [h] at hmid
    rw [bind_ok h]
    exact (hnext x mid).trans hmid

theorem forward_pure (x : α) : Forward (pure x) :=
  fun _ => List.suffix_rfl

/-- A reading that takes the first token, or gives a reply of a kind and leaves all tokens. -/
def TakesOneUnless (declined : Except ParseError α → Prop) (r : Reading α) : Prop :=
  ∀ ts, (declined (r ts).1 ∧ (r ts).2 = ts) ∨ (¬ declined (r ts).1 ∧ ∃ t, ts = t :: (r ts).2)

section

variable {declined : Except ParseError α → Prop} {ts : List Token}

theorem TakesOneUnless.forward (h : TakesOneUnless declined r) : Forward r := by
  intro ts
  rcases h ts with ⟨-, hts⟩ | ⟨-, t, ht⟩
  · exact hts.symm ▸ List.suffix_rfl
  · exact ⟨[t], ht.symm⟩

theorem TakesOneUnless.keeps (h : TakesOneUnless declined r) (hr : declined (r ts).1) :
    (r ts).2 = ts := by
  rcases h ts with ⟨-, hts⟩ | ⟨hn, -⟩
  · exact hts
  · exact absurd hr hn

end

def IsFalse (reply : Except ParseError Bool) : Prop := reply = .ok false

def IsError (reply : Except ParseError α) : Prop := ∃ e, reply = .error e

theorem not_isError_ok (x : α) : ¬ IsError (.ok x) := by
  rintro ⟨e, ⟨⟩⟩

theorem takesOne_eat (t : Token) : TakesOneUnless IsFalse (eat t) := by
  intro ts
  cases ts with
  | nil => exact .inl ⟨rfl, rfl⟩
  | cons u ts =>
      rw [eat]
      split
      · exact .inr ⟨by simp [IsFalse], u, rfl⟩
      · exact .inl ⟨rfl, rfl⟩

theorem takesOne_eatKeyword (keyword : String) : TakesOneUnless IsFalse (eatKeyword keyword) := by
  intro ts
  cases ts with
  | nil => exact .inl ⟨rfl, rfl⟩
  | cons t ts =>
      rw [eatKeyword]
      split
      · exact .inr ⟨by simp [IsFalse], t, rfl⟩
      · exact .inl ⟨rfl, rfl⟩

theorem takesOne_expect (t : Token) : TakesOneUnless IsError (expect t) := by
  intro ts
  cases ts with
  | nil => exact .inl ⟨⟨_, rfl⟩, rfl⟩
  | cons u ts =>
      rw [expect]
      split
      · exact .inr ⟨not_isError_ok (), u, rfl⟩
      · exact .inl ⟨⟨_, rfl⟩, rfl⟩

theorem takesOne_expectKeyword (keyword : String) :
    TakesOneUnless IsError (expectKeyword keyword) := by
  intro ts
  cases ts with
  | nil => exact .inl ⟨⟨_, rfl⟩, rfl⟩
  | cons t ts =>
      rw [expectKeyword]
      split
      · exact .inr ⟨not_isError_ok (), t, rfl⟩
      · exact .inl ⟨⟨_, rfl⟩, rfl⟩

theorem takesOne_identifier : TakesOneUnless IsError identifier := by
  intro ts
  unfold identifier
  split
  · exact .inr ⟨not_isError_ok _, _, rfl⟩
  · exact .inl ⟨⟨_, rfl⟩, rfl⟩

theorem forward_qualified : Forward qualified := by
  intro ts
  fun_induction qualified ts with
  | case1 value quoted ts values rest h ih | case2 value quoted ts e rest h ih =>
      rw [h] at ih
      exact ih.trans ((List.suffix_cons _ _).trans (List.suffix_cons _ _))
  | case3 ts => exact List.suffix_cons _ _
  | case4 ts => exact List.suffix_rfl

theorem forward_tableName : Forward tableName :=
  (takesOne_identifier.forward.bind fun _ => forward_qualified.bind fun _ => forward_pure _).bind
    fun _ => forward_pure _

theorem forward_valueExpr : Forward valueExpr := by
  intro ts
  unfold valueExpr
  split
  · exact List.suffix_cons _ _
  · exact List.suffix_cons _ _
  · exact List.suffix_cons _ _
  · exact (List.suffix_cons _ _).trans (List.suffix_cons _ _)
  · exact (List.tail_suffix _).trans (List.suffix_cons _ _)
  · split <;> exact List.suffix_cons _ _
  · exact List.suffix_rfl

theorem forward_equality : Forward equality :=
  takesOne_identifier.forward.bind fun _ => (takesOne_expect _).forward.bind fun _ =>
    forward_valueExpr.bind fun _ => forward_pure _

theorem forward_moreItems {item : Reading α} (h : Forward item) (n : Nat) :
    Forward (moreItems item n) := by
  induction n with
  | zero => exact forward_pure []
  | succ n ih =>
      refine (takesOne_eat .comma).forward.bind fun more => ?_
      split
      · exact h.bind fun _ => ih.bind fun _ => forward_pure _
      · exact forward_pure []

theorem forward_commaSeparated {item : Reading α} (h : Forward item) :
    Forward (commaSeparated item) :=
  h.bind fun _ => Forward.bind (fun ts => forward_moreItems h ts.length ts) fun _ => forward_pure _

theorem forward_noMoreTokens : Forward noMoreTokens := by
  intro ts
  cases ts with
  | nil => exact List.suffix_rfl
  | cons t ts => exact List.suffix_rfl

theorem forward_endOfStatement : Forward endOfStatement :=
  (takesOne_eat .semicolon).forward.bind fun _ => forward_noMoreTokens

/-- A reading that takes one token at least. What it gives and how far it goes depends on the tokens
that it takes and on the one behind them. -/
def ReadsPhrase (r : Reading α) : Prop :=
  ∀ ts x, (r ts).1 = .ok x → ∃ used, used ≠ [] ∧ ts = used ++ (r ts).2 ∧
    ∀ rest, rest.head? = (r ts).2.head? → r (used ++ rest) = (.ok x, rest)

theorem Predictive.readsPhrase {f : δ → List Token} (h : Predictive r f) (hf : ∀ a, f a ≠ []) :
    ReadsPhrase r := by
  intro ts x hx
  obtain ⟨a, hts, ha⟩ := (h ts).taken (Prod.ext hx rfl)
  exact ⟨f a, hf a, hts, ha⟩

theorem readsPhrase_commaSeparated {item : Reading α} {f : δ → List Token} (h : Predictive item f)
    (hf : ∀ a, f a ≠ []) : ReadsPhrase (commaSeparated item) :=
  (predictive_commaSeparated h).readsPhrase fun s => List.append_ne_nil_of_left_ne_nil (hf s.first) _

theorem Value.tokens_ne_nil (v : Value) : v.tokens ≠ [] := by
  cases v <;> simp [Value.tokens]

/-- One call on the tokens that are left. -/
inductive Step where
  | peek
  | advance
  | check (token : Token)
  | eat (token : Token)
  | expect (token : Token)
  | checkKeyword (keyword : String)
  | eatKeyword (keyword : String)
  | expectKeyword (keyword : String)
  | identifier
  | tableName
  | valueExpr
  | equality
  | identifiers
  | valueExprs
  | equalities
  | endOfStatement
  | unexpected (expected : Expectation)

namespace Step

abbrev Reply : Step → Type
  | peek | advance => Option Token
  | check _ | eat _ | checkKeyword _ | eatKeyword _ => Bool
  | expect _ | expectKeyword _ | endOfStatement | unexpected _ => Unit
  | identifier | tableName => String
  | valueExpr => Expr
  | equality => Equality
  | identifiers => List String
  | valueExprs => List Expr
  | equalities => List Equality

def reading : (s : Step) → Reading s.Reply
  | peek => Reading.peek
  | advance => Reading.advance
  | check token => Reading.check token
  | eat token => Reading.eat token
  | expect token => Reading.expect token
  | checkKeyword keyword => Reading.checkKeyword keyword
  | eatKeyword keyword => Reading.eatKeyword keyword
  | expectKeyword keyword => Reading.expectKeyword keyword
  | identifier => Reading.identifier
  | tableName => Reading.tableName
  | valueExpr => Reading.valueExpr
  | equality => Reading.equality
  | identifiers => commaSeparated Reading.identifier
  | valueExprs => commaSeparated Reading.valueExpr
  | equalities => commaSeparated Reading.equality
  | endOfStatement => Reading.endOfStatement
  | unexpected expected => Reading.unexpected expected

def looks : Step → Bool
  | peek | check _ | checkKeyword _ | unexpected _ => true
  | _ => false

def Declined : (s : Step) → Except ParseError s.Reply → Prop
  | eat _, reply | eatKeyword _, reply => IsFalse reply
  | expect _, reply | expectKeyword _, reply => IsError reply
  | identifier, reply => IsError reply
  | _, _ => False

def isPhrase : Step → Bool
  | identifier | tableName | valueExpr | equality | identifiers | valueExprs | equalities => true
  | _ => false

theorem forward (s : Step) : Forward s.reading := by
  cases s with
  | peek | check _ | checkKeyword _ | unexpected _ => exact fun _ => List.suffix_rfl
  | advance => exact fun ts => List.tail_suffix ts
  | eat t => exact (takesOne_eat t).forward
  | expect t => exact (takesOne_expect t).forward
  | eatKeyword keyword => exact (takesOne_eatKeyword keyword).forward
  | expectKeyword keyword => exact (takesOne_expectKeyword keyword).forward
  | identifier => exact takesOne_identifier.forward
  | tableName => exact forward_tableName
  | valueExpr => exact forward_valueExpr
  | equality => exact forward_equality
  | identifiers => exact forward_commaSeparated takesOne_identifier.forward
  | valueExprs => exact forward_commaSeparated forward_valueExpr
  | equalities => exact forward_commaSeparated forward_equality
  | endOfStatement => exact forward_endOfStatement

variable {s : Step} {ts : List Token}

theorem keeps_of_looks (h : s.looks) : (s.reading ts).2 = ts := by
  cases s with
  | peek | check _ | checkKeyword _ | unexpected _ => rfl
  | _ => cases h

theorem keeps_of_declined (h : s.Declined (s.reading ts).1) : (s.reading ts).2 = ts := by
  cases s with
  | eat t => exact (takesOne_eat t).keeps h
  | eatKeyword keyword => exact (takesOne_eatKeyword keyword).keeps h
  | expect t => exact (takesOne_expect t).keeps h
  | expectKeyword keyword => exact (takesOne_expectKeyword keyword).keeps h
  | identifier => exact takesOne_identifier.keeps h
  | _ => exact h.elim

theorem readsPhrase (h : s.isPhrase) : ReadsPhrase s.reading := by
  cases s with
  | identifier => exact predictive_identifier.readsPhrase (by simp)
  | tableName => exact predictive_tableName.readsPhrase (by simp [Name.tokens])
  | valueExpr => exact predictive_valueExpr.readsPhrase Value.tokens_ne_nil
  | equality => exact predictive_equality.readsPhrase (by simp [Equation.tokens])
  | identifiers => exact readsPhrase_commaSeparated predictive_identifier (by simp)
  | valueExprs => exact readsPhrase_commaSeparated predictive_valueExpr Value.tokens_ne_nil
  | equalities => exact readsPhrase_commaSeparated predictive_equality (by simp [Equation.tokens])
  | _ => cases h

end Step

/-- The tokens that are left behind some calls, whether these succeed or fail. -/
def left (steps : List Step) (tokens : List Token) : List Token :=
  steps.foldl (fun ts s => (s.reading ts).2) tokens

def position (tokens ts : List Token) : Nat := tokens.length - ts.length

theorem left_append (steps more : List Step) (tokens : List Token) :
    left (steps ++ more) tokens = left more (left steps tokens) :=
  List.foldl_append

theorem left_concat (steps : List Step) (s : Step) (tokens : List Token) :
    left (steps ++ [s]) tokens = (s.reading (left steps tokens)).2 :=
  left_append steps [s] tokens

theorem left_suffix (steps : List Step) (tokens : List Token) : left steps tokens <:+ tokens := by
  induction steps generalizing tokens with
  | nil => exact List.suffix_rfl
  | cons s steps ih => exact (ih _).trans (s.forward tokens)

/-- However calls follow one another, the position goes forward within the tokens. A call that only
looks or that declines leaves it, and a phrase that is read moves it and depends on no more than one
token behind the phrase. -/
theorem cursor_discipline (tokens : List Token) (steps : List Step) (s : Step) :
    (position tokens (left steps tokens) ≤ tokens.length ∧
      left steps tokens = tokens.drop (position tokens (left steps tokens))) ∧
    (∀ more, position tokens (left steps tokens) ≤ position tokens (left (steps ++ more) tokens)) ∧
    (s.looks ∨ s.Declined (s.reading (left steps tokens)).1 →
      left (steps ++ [s]) tokens = left steps tokens) ∧
    (s.isPhrase → ∀ x, (s.reading (left steps tokens)).1 = .ok x → ∃ used, used ≠ [] ∧
      left steps tokens = used ++ left (steps ++ [s]) tokens ∧
      ∀ rest, rest.head? = (left (steps ++ [s]) tokens).head? →
        s.reading (used ++ rest) = (.ok x, rest)) := by
  rw [left_concat]
  refine ⟨⟨Nat.sub_le .., ?_⟩, fun more => ?_, ?_, fun hs => s.readsPhrase hs _⟩
  · exact List.suffix_iff_eq_drop.mp (left_suffix steps tokens)
  · have hlength := (left_suffix more (left steps tokens)).length_le
    rw [← left_append] at hlength
    exact Nat.sub_le_sub_left hlength _
  · rintro (hs | hs)
    · exact Step.keeps_of_looks hs
    · exact Step.keeps_of_declined hs

end DocQuery.Sql.Reading
