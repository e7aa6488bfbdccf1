import DocQuery.Proofs.Sql.GrammarExact
import DocQuery.Proofs.Sql.LeadingVerb
import DocQuery.Proofs.Sql.Template

namespace DocQuery.Sql

open Grammar Search

/-- The keyword that a statement of a verb starts with; a count is written as a query. -/
def Verb.keyword : Verb → String
  | count => "SELECT"
  | verb => verb.name

def Accepts (verb : Verb) (r : Reading Form) (statement : String) : Prop :=
  ∃ args intent, parseAs verb r statement args = .ok intent

variable {ts : List Token}

theorem keyword_of_reading {verb : Verb} {r : Reading Form} {form : Form}
    (hr : verb.reading? = some r) (h : Form.ofTokens r ts = .ok form) :
    (∃ t ∈ ts.head?, t.isKeyword verb.keyword) ∧ (form.template verb).verb = verb := by
  cases verb with
  | insert =>
      cases hr
      obtain ⟨d, rfl, rfl⟩ := Form.readInsert_iff.mp h
      exact ⟨⟨_, rfl, d.insertWord.spells⟩, rfl⟩
  | update =>
      cases hr
      obtain ⟨d, rfl, rfl⟩ := Form.readUpdate_iff.mp h
      exact ⟨⟨_, rfl, d.updateWord.spells⟩, rfl⟩
  | delete =>
      cases hr
      obtain ⟨d, rfl, rfl⟩ := Form.readDelete_iff.mp h
      exact ⟨⟨_, rfl, d.deleteWord.spells⟩, rfl⟩
  | select =>
      cases hr
      obtain ⟨d, -, rfl, rfl⟩ := Form.readSelect_iff.mp h
      exact ⟨⟨_, rfl, d.selectWord.spells⟩, rfl⟩
  | count =>
      cases hr
      obtain ⟨d, -, rfl, rfl⟩ := Form.readSelect_iff.mp h
      exact ⟨⟨_, rfl, d.selectWord.spells⟩, rfl⟩
  | unknown => cases hr

theorem formOf_eq_ok {r : Reading Form} {statement : String} {form : Form} :
    formOf r statement = .ok form ↔
      ∃ ts, tokenize statement = .ok ts ∧ Form.ofTokens r ts = .ok form := by
  rw [formOf]
  cases tokenize statement with
  | error e => simp [bind, Except.bind]
  | ok ts => simp [bind, Except.bind]

theorem exists_of_accepts {verb : Verb} {r : Reading Form} {statement : String}
    (h : Accepts verb r statement) :
    ∃ ts form, tokenize statement = .ok ts ∧ Form.ofTokens r ts = .ok form := by
  obtain ⟨args, intent, hp⟩ := h
  rw [parseAs] at hp
  cases hf : formOf r statement with
  | error e => rw [hf] at hp; cases hp
  | ok form =>
      obtain ⟨ts, hts, hform⟩ := formOf_eq_ok.mp hf
      exact ⟨ts, form, hts, hform⟩

theorem parse_of_classify {statement : String} {verb : Verb} {r : Reading Form}
    (hc : classify statement = verb) (hr : verb.reading? = some r) (args : Arguments) :
    parse statement args = parseAs verb r statement args := by
  rw [parse, hc]
  simp only [hr]

/-- A statement that is taken for another verb than that of its first word is an error. -/
theorem parse_misled {statement : String} (verb : Verb) {verb' : Verb} {r : Reading Form} {form : Form}
    (hts : tokenize statement = .ok ts) (hr : verb.reading? = some r)
    (hform : Form.ofTokens r ts = .ok form) (hc : classify statement = verb')
    (hkeyword : verb.keyword.toList.map Char.toLower ≠ verb'.keyword.toList.map Char.toLower) :
    ∃ e, ∀ args, parse statement args = .error (.parse e) := by
  cases hr' : verb'.reading? with
  | none => exact ⟨_, fun args => by simp only [parse, hc, hr']; rfl⟩
  | some r' =>
      cases hf : formOf r' statement with
      | error e => exact ⟨e, fun args => by rw [parse_of_classify hc hr', parseAs, hf]⟩
      | ok form' =>
          obtain ⟨ts', hts', hform'⟩ := formOf_eq_ok.mp hf
          obtain rfl : ts = ts' := Except.ok.inj (hts.symm.trans hts')
          obtain ⟨⟨t, ht, hword⟩, -⟩ := keyword_of_reading hr hform
          obtain ⟨⟨t', ht', hword'⟩, -⟩ := keyword_of_reading hr' hform'
          obtain rfl : t = t' := Option.some.inj (ht.symm.trans ht')
          have hne := Form.isKeyword_ne ⟨t, hword⟩ hkeyword
          exact absurd hword' (by rw [hne]; decide)

theorem parse_insertion {statement : String} (h : Accepts .insert Form.readInsert statement)
    (args : Arguments) : parse statement args = parseAs .insert Form.readInsert statement args := by
  obtain ⟨ts, form, hts, hform⟩ := exists_of_accepts h
  obtain ⟨d, rfl, -⟩ := Form.readInsert_iff.mp hform
  exact parse_of_classify ((classify_of_tokenize hts).trans (verbOf_insertion d)) rfl args

theorem parse_revision {statement : String} (h : Accepts .update Form.readUpdate statement)
    (args : Arguments) : parse statement args = parseAs .update Form.readUpdate statement args := by
  obtain ⟨ts, form, hts, hform⟩ := exists_of_accepts h
  obtain ⟨d, rfl, -⟩ := Form.readUpdate_iff.mp hform
  have hverb := verbOf_revision d (tokenize_tight hts)
  exact parse_of_classify ((classify_of_tokenize hts).trans hverb) rfl args

theorem skeleton_of_tokenize {statement : String} (h : tokenize statement = .ok ts) :
    (skeleton statement).toList = skeletonOf ts := by
  rw [skeleton, h]
  rfl

theorem parse_removal {statement : String} (h : Accepts .delete Form.readDelete statement) :
    if occurs (keywords "UPDATE" none) (skeleton statement).toList then
      ∃ e, ∀ args, parse statement args = .error (.parse e)
    else ∀ args, parse statement args = parseAs .delete Form.readDelete statement args := by
  obtain ⟨ts, form, hts, hform⟩ := exists_of_accepts h
  obtain ⟨d, rfl, -⟩ := Form.readDelete_iff.mp hform
  have hc := (classify_of_tokenize hts).trans (verbOf_removal d (tokenize_tight hts))
  rw [skeleton_of_tokenize hts]
  split
  · rename_i hu
    rw [if_pos hu] at hc
    exact parse_misled .delete hts rfl hform hc (by decide)
  · rename_i hu
    rw [if_neg hu] at hc
    exact parse_of_classify hc rfl

theorem reading?_of_isQuery {verb : Verb} (h : verb.isQuery) :
    verb.reading? = some Form.readSelect := by
  cases verb with
  | select | count => rfl
  | _ => cases h

theorem parse_query {statement : String} {verb : Verb} (h : Accepts verb Form.readSelect statement) :
    if misleads (skeleton statement).toList then
      ∃ e, ∀ args, parse statement args = .error (.parse e)
    else (classify statement).isQuery ∧
      ∀ args, parse statement args = parseAs (classify statement) Form.readSelect statement args := by
  obtain ⟨ts, form, hts, hform⟩ := exists_of_accepts h
  obtain ⟨d, -, rfl, -⟩ := Form.readSelect_iff.mp hform
  have hc := classify_of_tokenize hts
  have hverb := verbOf_query d
  rw [skeleton_of_tokenize hts]
  split
  · rename_i hm
    rw [if_pos hm, ← hc] at hverb
    have hkeyword : (Verb.keyword .select).toList.map Char.toLower ≠
        (classify statement).keyword.toList.map Char.toLower := by
      revert hverb
      cases classify statement <;> decide
    exact parse_misled .select hts rfl hform rfl hkeyword
  · rename_i hm
    rw [if_neg hm, ← hc] at hverb
    exact ⟨hverb, parse_of_classify rfl (reading?_of_isQuery hverb)⟩

theorem parse_of_tokenize_error {statement : String} {e : ParseError}
    (h : tokenize statement = .error e) :
    (∃ flaw l, e = .lexical flaw l) ∧
      ∃ e' ∈ [e, .unrecognized (echo statement)], ∀ args, parse statement args = .error (.parse e') := by
  constructor
  · rw [tokenize] at h
    split at h
    · cases h
    · cases h
      exact ⟨_, _, rfl⟩
  · cases hr : (classify statement).reading? with
    | none =>
        refine ⟨.unrecognized (echo statement), by simp, fun args => ?_⟩
        rw [parse]
        simp only [hr]
    | some r =>
        refine ⟨e, by simp, fun args => ?_⟩
        have hf : formOf r statement = .error e := by
          rw [formOf, h]
          rfl
        rw [parse_of_classify rfl hr, parseAs, hf]

theorem parse_eq_ok {statement : String} {args : Arguments} {intent : Intent}
    (h : parse statement args = .ok intent) :
    (∃ ts, tokenize statement = .ok ts ∧ ∃ t ∈ ts.head?, t.isKeyword intent.verb.keyword) ∧
      ∃ r, intent.verb.reading? = some r ∧ parseAs intent.verb r statement args = .ok intent := by
  cases hr : (classify statement).reading? with
  | none =>
      rw [parse] at h
      simp only [hr] at h
      cases h
  | some r =>
      rw [parse_of_classify rfl hr] at h
      have hbind := h
      rw [parseAs_eq] at hbind
      cases hf : formOf r statement with
      | error e => rw [hf] at hbind; cases hbind
      | ok form =>
          rw [hf] at hbind
          obtain ⟨ts, hts, hform⟩ := formOf_eq_ok.mp hf
          obtain ⟨hword, hverb⟩ := keyword_of_reading hr hform
          have hintent : intent.verb = classify statement := by
            rw [Template.eq_fill_of_bind hbind]
            exact hverb
          rw [hintent]
          exact ⟨⟨ts, hts, hword⟩, r, hr, h⟩

/-- A statement is read as the verb of its first word or not at all. What the grammar of a verb takes
is read with it, unless the keywords of another verb come first; then it is an error, and so is a
text that has no tokens. -/
theorem dispatch_exact (statement : String) :
    (∀ args intent, parse statement args = .ok intent →
      (∃ ts, tokenize statement = .ok ts ∧ ∃ t ∈ ts.head?, t.isKeyword intent.verb.keyword) ∧
      ∃ r, intent.verb.reading? = some r ∧ parseAs intent.verb r statement args = .ok intent) ∧
    (Accepts .insert Form.readInsert statement →
      ∀ args, parse statement args = parseAs .insert Form.readInsert statement args) ∧
    (Accepts .update Form.readUpdate statement →
      ∀ args, parse statement args = parseAs .update Form.readUpdate statement args) ∧
    (Accepts .delete Form.readDelete statement →
      if occurs (keywords "UPDATE" none) (skeleton statement).toList then
        ∃ e, ∀ args, parse statement args = .error (.parse e)
      else ∀ args, parse statement args = parseAs .delete Form.readDelete statement args) ∧
    (∀ verb, Accepts verb Form.readSelect statement →
      if misleads (skeleton statement).toList then
        ∃ e, ∀ args, parse statement args = .error (.parse e)
      else (classify statement).isQuery ∧ ∀ args,
        parse statement args = parseAs (classify statement) Form.readSelect statement args) ∧
    ∀ e, tokenize statement = .error e → (∃ flaw l, e = .lexical flaw l) ∧
      ∃ e' ∈ [e, .unrecognized (echo statement)], ∀ args,
        parse statement args = .error (.parse e') :=
  ⟨fun _ _ => parse_eq_ok, parse_insertion, parse_revision, parse_removal, fun _ => parse_query,
    fun _ => parse_of_tokenize_error⟩

end DocQuery.Sql
