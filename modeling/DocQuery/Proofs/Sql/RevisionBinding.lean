import DocQuery.Proofs.Sql.PositionalBinding
import Mathlib.Data.List.Count

namespace DocQuery.Sql

open Grammar

namespace Grammar.Revision

def columnNames (d : Revision) : List String := d.assignments.items.map (·.column.value)

def assigned (d : Revision) : List Expr := d.assignments.items.map (·.value.expr)

def arity (d : Revision) : Nat := d.assigned.count .placeholder + d.condition.value.expr.arity

inductive Place where
  | assignment (i : Nat)
  | condition

def expr? (d : Revision) : Place → Option Expr
  | .assignment i => d.assigned[i]?
  | .condition => some d.condition.value.expr

/-- The argument for a placeholder. Those of the assignments take the arguments in their order, and
that of the condition takes the last one. -/
def index (d : Revision) : Place → Nat
  | .assignment i => d.assigned.countBefore .placeholder i
  | .condition => d.arity - 1

/-- New values and a condition with what an update and its arguments have for them. A column that is
assigned several times has its last value. -/
structure Binds (d : Revision) (args : Arguments) (values : Row) (predicate : Predicate) : Prop where
  columns : ∀ column, (values.get? column).isSome ↔ column ∈ d.columnNames
  values : ∀ i column (e : Expr), d.columnNames[i]? = some column →
    d.expr? (.assignment i) = some e → (∀ j, i < j → d.columnNames[j]? ≠ some column) →
      values.get? column = e.at? args (d.index (.assignment i))
  column : predicate.column = d.condition.column.value
  value : some predicate.value = d.condition.value.expr.at? args (d.index .condition)
  last : d.expr? .condition = some .placeholder → args.getLast? = some predicate.value

end Grammar.Revision

variable {statement : String} {args : Arguments}

theorem existsUnique_countBefore {es : List Expr} {n : Nat} (h : n < es.count .placeholder) :
    ∃! i, es[i]? = some .placeholder ∧ es.countBefore .placeholder i = n := by
  have hlt := List.idxOfNth_lt_length_of_lt_count h
  refine ⟨es.idxOfNth .placeholder n, ⟨?_, List.countBefore_idxOfNth_of_lt_count h⟩, ?_⟩
  · rw [List.getElem?_eq_getElem hlt, List.getElem_idxOfNth_eq]
  · rintro i ⟨hi, rfl⟩
    obtain ⟨hlength, he⟩ := List.getElem?_eq_some_iff.mp hi
    exact (List.idxOfNth_countBefore_of_lt_length_of_beq (by rw [he, beq_self_eq_true])).symm

theorem countBefore_lt_count {es : List Expr} {i : Nat} (h : es[i]? = some .placeholder) :
    es.countBefore .placeholder i < es.count .placeholder := by
  obtain ⟨hlength, he⟩ := List.getElem?_eq_some_iff.mp h
  exact List.countBefore_lt_count_of_lt_length_of_beq (by rw [he, beq_self_eq_true])

theorem Expr.arity_placeholder : Expr.placeholder.arity = 1 := rfl

theorem Expr.eq_placeholder_of_arity {e : Expr} (h : 0 < e.arity) : e = .placeholder := by
  cases e with
  | placeholder => rfl
  | constant value => cases h

theorem placeholders_eq_count (es : List Equality) :
    placeholders es = (es.map (·.2)).count .placeholder := by
  induction es with
  | nil => rfl
  | cons e es ih =>
      rw [placeholders_cons, ih, List.map_cons, List.count_cons, Nat.add_comm]
      cases e.2 <;> rfl

theorem valuesOf_placeholders_getElem? (index i : Nat) (es : List Equality) :
    (valuesOf args (slotsFrom .placeholders index es))[i]? = es[i]?.map fun e =>
      (e.1, (e.2.slot (index + (es.map (·.2)).countBefore .placeholder i)).value args) := by
  -- for every number of arguments that the assignments in front take
  induction es generalizing index i with
  | nil => rfl
  | cons e es ih =>
      cases i with
      | zero => rw [List.countBefore_zero]; rfl
      | succ i =>
          have htail := ih (index + e.2.arity) i
          have hcount : index + e.2.arity + (es.map (·.2)).countBefore .placeholder i =
              index + ((e :: es).map (·.2)).countBefore .placeholder (i + 1) := by
            rw [List.map_cons, List.countBefore_cons_succ, Nat.add_assoc, Nat.add_comm e.2.arity]
            cases e.2 <;> rfl
          rw [hcount] at htail
          exact htail

theorem accepted_update_iff : (∃ args intent, parse statement args = .ok intent ∧ intent.verb = .update) ↔
    ∃ d : Revision, tokenize statement = .ok d.tokens := by
  constructor
  · rintro ⟨args, intent, hp, hverb⟩
    obtain ⟨d, hts, -⟩ := exists_revision hp hverb
    exact ⟨d, hts⟩
  · rintro ⟨d, hts⟩
    exact ⟨_, _, (parse_of_revision hts _).trans (Template.bind_replicate _), rfl⟩

namespace Grammar.Revision

variable {d : Revision}

theorem index_lt_arity {place : Place} (h : d.expr? place = some .placeholder) :
    d.index place < d.arity := by
  cases place with
  | assignment i => exact Nat.lt_of_lt_of_le (countBefore_lt_count h) (Nat.le_add_right _ _)
  | condition =>
      have hcondition : d.condition.value.expr = .placeholder := Option.some.inj h
      rw [index, arity, hcondition, Expr.arity_placeholder]
      omega

theorem existsUnique_place {n : Nat} (h : n < d.arity) :
    ∃! place, d.expr? place = some .placeholder ∧ d.index place = n := by
  by_cases hn : n < d.assigned.count .placeholder
  · obtain ⟨i, hi, hunique⟩ := existsUnique_countBefore hn
    refine ⟨.assignment i, hi, ?_⟩
    rintro (j | _) ⟨hplace, hindex⟩
    · rw [hunique j ⟨hplace, hindex⟩]
    · have hcondition : d.condition.value.expr = .placeholder := Option.some.inj hplace
      rw [index, arity, hcondition, Expr.arity_placeholder] at hindex
      omega
  · rw [arity] at h
    have hcondition := Expr.eq_placeholder_of_arity (e := d.condition.value.expr) (by omega)
    rw [hcondition, Expr.arity_placeholder] at h
    have hindex : d.index .condition = n := by
      rw [index, arity, hcondition, Expr.arity_placeholder]
      omega
    refine ⟨.condition, ⟨congrArg some hcondition, hindex⟩, ?_⟩
    rintro (j | _) ⟨hplace, hother⟩
    · exact absurd (hother ▸ countBefore_lt_count hplace) hn
    · rfl

theorem placeholders_assignments (d : Revision) :
    placeholders (d.assignments.items.map Equation.equality) = d.assigned.count .placeholder := by
  rw [placeholders_eq_count, List.map_map]
  rfl

theorem arity_template (d : Revision) : (d.form.template .update).arity = d.arity :=
  congrArg (· + d.condition.value.expr.arity) d.placeholders_assignments

theorem slot_condition (d : Revision) :
    d.condition.value.expr.slot (placeholders (d.assignments.items.map Equation.equality)) =
      d.condition.value.expr.slot (d.index .condition) := by
  rw [placeholders_assignments, index, arity]
  cases d.condition.value.expr <;> rfl

def bindings (d : Revision) (args : Arguments) : List (String × Json) :=
  valuesOf args (slotsFrom .placeholders 0 (d.assignments.items.map Equation.equality))

theorem bindings_getElem? {i : Nat} {b : String × Json} : (d.bindings args)[i]? = some b ↔
    ∃ e, d.columnNames[i]? = some b.1 ∧ d.assigned[i]? = some e ∧
      (e.slot (d.index (.assignment i))).value args = b.2 := by
  rw [bindings, valuesOf_placeholders_getElem?, Nat.zero_add, List.map_map, List.getElem?_map,
    Option.map_map, columnNames, assigned, List.getElem?_map, List.getElem?_map]
  cases d.assignments.items[i]? with
  | none => simp
  | some a => simp [Prod.ext_iff, Equation.equality, index, assigned, Function.comp_def]

theorem value_predicate (h : args.length = d.arity) : some (d.predicate args).value =
    d.condition.value.expr.at? args (d.index .condition) := by
  rw [predicate, slot_condition, Expr.at?_eq]
  intro hcondition
  rw [h]
  exact index_lt_arity (congrArg some hcondition)

theorem binds (h : args.length = d.arity) : d.Binds args (d.setValues args) (d.predicate args) where
  columns := d.setValues_isSome_iff args
  values i column e hc he hlast := by
    refine get?_of_bindings (fun i b => bindings_getElem?) hc he hlast ?_
    rintro rfl
    rw [h]
    exact index_lt_arity he
  column := rfl
  value := value_predicate h
  last hcondition := by
    rw [value_predicate h, Option.some.inj hcondition, List.getLast?_eq_getElem?, h]
    rfl

end Grammar.Revision

/-- The accepted updates take one argument for each placeholder. In the order of the text, the
placeholders of the assignments take the arguments from the first one on, and the placeholder of the
condition takes the last one. Each argument is for one placeholder. The assigned columns get the
values of their last assignments. -/
theorem update_binds_in_order (statement : String) :
    ((∃ args intent, parse statement args = .ok intent ∧ intent.verb = .update) ↔
      ∃ d : Revision, tokenize statement = .ok d.tokens) ∧
    ∀ d : Revision, tokenize statement = .ok d.tokens →
      (∀ place, d.expr? place = some .placeholder → d.index place < d.arity) ∧
      (∀ n, n < d.arity → ∃! place, d.expr? place = some .placeholder ∧ d.index place = n) ∧
      (∀ args, args.length ≠ d.arity →
        parse statement args = .error (.binding (.countMismatch d.arity args.length))) ∧
      ∀ args, args.length = d.arity → ∃ values predicate,
        parse statement args = .ok (.update d.name.table values predicate) ∧
        d.Binds args values predicate := by
  refine ⟨accepted_update_iff, fun d hts => ⟨fun place => Revision.index_lt_arity,
    fun n => Revision.existsUnique_place, fun args h => ?_, fun args h => ?_⟩⟩
  · rw [← d.arity_template] at h ⊢
    rw [parse_of_revision hts]
    exact if_neg h
  · refine ⟨d.setValues args, d.predicate args, ?_, Revision.binds h⟩
    rw [← d.arity_template] at h
    rw [parse_of_revision hts]
    exact Template.bind_eq_ok h

/-- UPDATE t SET a = ?, b = 'x', a = ? WHERE id = ? -/
def revisionOfRepeated : Revision where
  updateWord := .bare "UPDATE"
  name := ⟨⟨"t", false⟩, []⟩
  setWord := .bare "SET"
  assignments := ⟨⟨⟨"a", false⟩, .placeholder⟩,
    [⟨⟨"b", false⟩, .string "x"⟩, ⟨⟨"a", false⟩, .placeholder⟩]⟩
  whereWord := .bare "WHERE"
  condition := ⟨⟨"id", false⟩, .placeholder⟩
  semicolon := false

theorem update_binds_in_order_of_repeated :
    let statement := "UPDATE t SET a = ?, b = 'x', a = ? WHERE id = ?"
    parse statement [.null, .null] = .error (.binding (.countMismatch 3 2)) ∧
      ∃ values predicate,
        parse statement [.null, .bool true, .bool false] = .ok (.update "t" values predicate) ∧
        values.get? "a" = some (.bool true) ∧ values.get? "b" = some (.string "x") ∧
        predicate = ⟨"id", .bool false⟩ := by
  intro statement
  have hts : tokenize statement = .ok revisionOfRepeated.tokens := by decide +kernel
  obtain ⟨-, hbinds⟩ := update_binds_in_order statement
  obtain ⟨-, -, hcount, hbind⟩ := hbinds revisionOfRepeated hts
  obtain ⟨values, predicate, hparse, hvalues⟩ := hbind [.null, .bool true, .bool false] rfl
  refine ⟨hcount [.null, .null] (by decide), values, predicate, hparse, ?_, ?_, ?_⟩
  · exact hvalues.values 2 "a" .placeholder rfl rfl (ne_of_not_mem_drop (by decide))
  · exact hvalues.values 1 "b" (.constant (.string "x")) rfl rfl (ne_of_not_mem_drop (by decide))
  · have hvalue : some (Json.bool false) = some predicate.value := hvalues.last rfl
    cases predicate
    rw [Predicate.mk.injEq]
    exact ⟨hvalues.column, (Option.some.inj hvalue).symm⟩

end DocQuery.Sql
