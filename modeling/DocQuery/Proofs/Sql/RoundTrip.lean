import DocQuery.Proofs.Sql.DraftText
import DocQuery.Proofs.Sql.GrammarUnambiguous
import DocQuery.Proofs.Sql.Template

namespace DocQuery.Sql

open Grammar

variable {args : Arguments} {numbering : Numbering}

theorem parse_of_tokenize {statement : String} {ts : List Token} (h : tokenize statement = .ok ts)
    {r : Reading Form} (hr : (verbOf (skeletonOf ts)).reading? = some r) {form : Form}
    (hf : Form.ofTokens r ts = .ok form) (args : Arguments) :
    parse statement args = (form.template (verbOf (skeletonOf ts))).bind args := by
  have hform : formOf r statement = .ok form := by
    rw [formOf, h]
    exact hf
  simp only [parse, classify_of_tokenize h, hr, parseAs_eq, hform]

theorem Draft.derivation_closed (d : Draft) : d.derivation.Closed := by
  cases d <;> trivial

theorem Draft.reading (d : Draft) : d.verb.reading? = some d.grammar.reading := by
  cases d <;> rfl

theorem Draft.ofTokens (d : Draft) :
    Form.ofTokens d.grammar.reading d.tokens = .ok d.derivation.form :=
  ofTokens_iff_derivation.mpr ⟨d.derivation, d.derivation_closed, rfl, rfl⟩

theorem Written.value_slot (w : Written) (before after : Arguments) :
    (w.tree.expr.slot before.length).value (before ++ (w.arguments ++ after)) = w.value := by
  cases w with
  | argument value => simp [tree, Value.expr, Expr.slot, Slot.value, arguments, Written.value]
  | text value => rfl
  | null => rfl

theorem Written.arity_expr (w : Written) : w.tree.expr.arity = w.arguments.length := by
  cases w <;> rfl

def equalities (row : List Entry) : List Equality :=
  row.map fun e => (e.1, e.2.tree.expr)

theorem valuesOf_placeholders (row : List Entry) (before after : Arguments) :
    valuesOf (before ++ (row.flatMap (fun e => e.2.arguments) ++ after))
      (slotsFrom .placeholders before.length (equalities row)) = row.map Entry.member := by
  induction row generalizing before with
  | nil => rfl
  | cons e row ih =>
      obtain ⟨column, w⟩ := e
      have hv := w.value_slot before (row.flatMap (fun e => e.2.arguments) ++ after)
      have ht := ih (before ++ w.arguments)
      rw [List.length_append, ← w.arity_expr, List.append_assoc] at ht
      simp only [equalities, List.map_cons, slotsFrom, valuesOf, List.flatMap_cons, List.append_assoc,
        Numbering.next, Entry.member] at hv ht ⊢
      rw [hv, ht]

theorem placeholders_equalities (row : List Entry) :
    placeholders (equalities row) = (row.flatMap fun e => e.2.arguments).length := by
  induction row with
  | nil => rfl
  | cons e row ih =>
      rw [equalities, List.map_cons, placeholders_cons, List.flatMap_cons, List.length_append,
        e.2.arity_expr, ← ih]
      rfl

theorem lt_positionalArity {es : List Expr} {k : Nat} (h : es[k]? = some .placeholder) :
    k < positionalArity es := by
  induction es generalizing k with
  | nil => simp at h
  | cons e es ih =>
      rw [positionalArity]
      cases k with
      | zero =>
          obtain rfl : e = .placeholder := by simpa using h
          split <;> simp [Expr.arity, Expr.isPlaceholder]
      | succ k =>
          have hk := ih (k := k) (by simpa using h)
          split <;> omega

theorem valuesOf_positions (row : List Entry) (index : Nat)
    (h : ∀ k column value, row[k]? = some (column, .argument value) →
      args.getD (index + k) .null = value) :
    valuesOf args (slotsFrom .positions index (equalities row)) = row.map Entry.member := by
  induction row generalizing index with
  | nil => rfl
  | cons e row ih =>
      obtain ⟨column, w⟩ := e
      have hv : (w.tree.expr.slot index).value args = w.value := by
        cases w with
        | argument value => exact h 0 column value rfl
        | text value => rfl
        | null => rfl
      have ht := ih (index + 1) fun k column value hk => by
        rw [Nat.add_right_comm]
        exact h (k + 1) column value (by simpa using hk)
      simp only [equalities, List.map_cons, slotsFrom, valuesOf, Numbering.next, Entry.member] at ht ⊢
      rw [hv, ht]

theorem Name.table_quoted (table : String) : (Name.quoted table).table = table :=
  String.intercalate_singleton

theorem Draft.form_insert (table : String) (row : Series Entry) (unused : Nat → Json) :
    (insert table row unused).derivation.form =
      .insert table (row.items.map (·.1)) (row.items.map fun e => e.2.tree.expr) := by
  simp [derivation, Derivation.form, Insertion.form, Name.table_quoted, Series.items_map,
    Function.comp_def]

theorem Draft.form_update (table : String) (row : Series Entry) (condition : Entry) :
    (update table row condition).derivation.form =
      .update table (equalities row.items) (condition.1, condition.2.tree.expr) := by
  simp [derivation, Derivation.form, Revision.form, Name.table_quoted, Series.items_map, equalities,
    Function.comp_def, Entry.equation, Equation.equality]

theorem Draft.form_delete (table : String) (condition : Entry) :
    (delete table condition).derivation.form = .delete table (condition.1, condition.2.tree.expr) := by
  simp [derivation, Derivation.form, Removal.form, Name.table_quoted, Entry.equation,
    Equation.equality]

theorem Draft.form_query (projection : Projection) (table : String) (condition : Option Entry)
    (limit : Option (Fin 0x10000000000000000)) :
    (query projection table condition limit).form =
      .select projection.tokens table (condition.map fun e => (e.1, e.2.tree.expr))
        (limit.map Fin.val) := by
  simp [query, Query.form, Name.table_quoted, Entry.equation, Equation.equality, Limit.ofFin,
    Function.comp_def]

theorem Draft.bind_insert (table : String) (row : Series Entry) (unused : Nat → Json) :
    ((insert table row unused).derivation.form.template .insert).bind
      (insert table row unused).arguments = .ok (insert table row unused).intent := by
  have hlength : (insert table row unused).arguments.length =
      positionalArity (row.items.map fun e => e.2.tree.expr) := by
    rw [arguments, List.length_map, List.length_range]
  have hvalues : valuesOf (insert table row unused).arguments
      (slotsFrom .positions 0 (equalities row.items)) = row.items.map Entry.member := by
    apply valuesOf_positions
    intro k column value hk
    have hlt : k < positionalArity (row.items.map fun e => e.2.tree.expr) :=
      lt_positionalArity (by rw [List.getElem?_map, hk]; rfl)
    rw [Nat.zero_add, arguments, List.getD_eq_getElem?_getD, List.getElem?_map,
      List.getElem?_range hlt]
    simp [positional, hk]
  rw [form_insert, Template.bind_eq_ok hlength]
  simp only [Form.template, Template.fill, List.zip_map', Option.map_some, Option.map_none]
  rw [show (row.items.map fun e => (e.1, e.2.tree.expr)) = equalities row.items from rfl, hvalues]
  rfl

theorem Draft.bind_update (table : String) (row : Series Entry) (condition : Entry) :
    ((update table row condition).derivation.form.template .update).bind
      (update table row condition).arguments = .ok (update table row condition).intent := by
  have hlength : (update table row condition).arguments.length =
      placeholders (equalities row.items) + condition.2.tree.expr.arity := by
    rw [arguments, List.length_append, placeholders_equalities, condition.2.arity_expr]
  have hvalues : valuesOf (update table row condition).arguments
      (slotsFrom .placeholders 0 (equalities row.items)) = row.items.map Entry.member :=
    valuesOf_placeholders row.items [] condition.2.arguments
  have hcondition : (condition.2.tree.expr.slot (placeholders (equalities row.items))).value
      (update table row condition).arguments = condition.2.value := by
    rw [placeholders_equalities, arguments, ← List.append_nil condition.2.arguments]
    exact condition.2.value_slot _ []
  rw [form_update, Template.bind_eq_ok hlength]
  simp only [Form.template, Template.fill, hvalues, hcondition, Option.map_some, Option.map_none]
  rfl

theorem Draft.bind_delete (table : String) (condition : Entry) :
    ((delete table condition).derivation.form.template .delete).bind (delete table condition).arguments =
      .ok (delete table condition).intent := by
  have hlength : (delete table condition).arguments.length = condition.2.tree.expr.arity :=
    condition.2.arity_expr.symm
  have hcondition : (condition.2.tree.expr.slot 0).value (delete table condition).arguments =
      condition.2.value := by
    rw [arguments, ← List.append_nil condition.2.arguments]
    exact condition.2.value_slot [] []
  rw [form_delete, Template.bind_eq_ok hlength]
  simp only [Form.template, Template.fill, hcondition, Option.map_some, Option.map_none]
  rfl

theorem Draft.bind_query (verb : Verb) (projection : List Token) (table : String)
    (condition : Option Entry) (limit : Option Nat) :
    ((Form.select projection table (condition.map fun e => (e.1, e.2.tree.expr)) limit).template
      verb).bind (condition.toList.flatMap fun e => e.2.arguments) =
      .ok { verb := if verb = .count then .count else .select, table := table, values := none,
            setValues := none, predicate := condition.map Entry.predicate,
            limit := if verb = .count then none else limit } := by
  cases condition with
  | none => exact Template.bind_eq_ok rfl
  | some e =>
      have hlength : (e.2.arguments ++ []).length = e.2.tree.expr.arity := by
        rw [List.append_nil, e.2.arity_expr]
      have hcondition : (e.2.tree.expr.slot 0).value (e.2.arguments ++ []) = e.2.value :=
        e.2.value_slot [] []
      rw [Option.map_some, Option.toList_some, List.flatMap_singleton, ← List.append_nil e.2.arguments,
        Template.bind_eq_ok hlength]
      simp only [Form.template, Template.fill, hcondition, Option.map_some, Option.map_none]
      rfl

theorem Draft.bind (d : Draft) :
    (d.derivation.form.template d.verb).bind d.arguments = .ok d.intent := by
  cases d with
  | insert table row unused => exact bind_insert table row unused
  | update table row condition => exact bind_update table row condition
  | delete table condition => exact bind_delete table condition
  | select table condition limit =>
      have hf : (select table condition limit).derivation.form = _ :=
        form_query .all table condition limit
      rw [hf]
      exact bind_query .select _ table condition _
  | count table condition =>
      have hf : (count table condition).derivation.form = _ :=
        form_query .countOfAll table condition none
      rw [hf]
      exact bind_query .count _ table condition _

theorem Draft.parse_eq (d : Draft) {statement : String} (h : Spells d.tokens statement.toList) :
    parse statement d.arguments = .ok d.intent := by
  have hr : (verbOf (skeletonOf d.tokens)).reading? = some d.grammar.reading := by
    rw [d.verbOf_skeleton, d.reading]
  rw [parse_of_tokenize (Draft.tokenize h) hr d.ofTokens, d.verbOf_skeleton]
  exact d.bind

/-- Whatever intent is written, with blanks wherever they may stand, is parsed as that intent. Each
intent that statements can have is written in some way. -/
theorem parse_spelling :
    (∀ intent : Intent, intent.Expressible ↔ ∃ d : Draft, d.intent = intent) ∧
    (∀ d : Draft, Spells d.tokens (spaced d.tokens)) ∧
    ∀ (d : Draft) (statement : String), Spells d.tokens statement.toList →
      parse statement d.arguments = .ok d.intent :=
  ⟨Intent.expressible_iff, fun d => spells_spaced d.tokens, fun d _ h => d.parse_eq h⟩

end DocQuery.Sql
