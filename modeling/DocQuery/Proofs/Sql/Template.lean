import DocQuery.Sql.Statement
import Mathlib.Logic.Basic

namespace DocQuery.Sql

/-- Where a value of an intent comes from. -/
inductive Slot where
  | constant (value : Json)
  | argument (index : Nat)

/-- An intent with slots in the place of its values, and the number of arguments it takes. -/
structure Template where
  verb : Verb
  table : String
  values : Option (List (String × Slot))
  setValues : Option (List (String × Slot))
  predicate : Option (String × Slot)
  limit : Option Nat
  arity : Nat

def Slot.value (args : Arguments) : Slot → Json
  | constant value => value
  | argument index => args.getD index .null

def Slot.Below (n : Nat) : Slot → Prop
  | constant _ => True
  | argument index => index < n

def valuesOf (args : Arguments) (slots : List (String × Slot)) : List (String × Json) :=
  slots.map fun s => (s.1, s.2.value args)

namespace Template

def fill (t : Template) (args : Arguments) : Intent :=
  { verb := t.verb
    table := t.table
    values := t.values.map fun slots => TextMap.ofList (valuesOf args slots)
    setValues := t.setValues.map fun slots => TextMap.ofList (valuesOf args slots)
    predicate := t.predicate.map fun s => ⟨s.1, s.2.value args⟩
    limit := t.limit }

def bind (t : Template) (args : Arguments) : Except StatementError Intent :=
  if args.length = t.arity then .ok (t.fill args)
  else .error (.binding (.countMismatch t.arity args.length))

def slots (t : Template) : List (String × Slot) :=
  t.values.getD [] ++ t.setValues.getD [] ++ t.predicate.toList

def Closed (t : Template) : Prop := ∀ s ∈ t.slots, s.2.Below t.arity

end Template

def Expr.slot (index : Nat) : Expr → Slot
  | placeholder => .argument index
  | constant value => .constant value

def slotsFrom (numbering : Numbering) (index : Nat) : List Equality → List (String × Slot)
  | [] => []
  | (column, e) :: es =>
    (column, e.slot index) :: slotsFrom numbering (numbering.next index e) es

/-- The template of a form. The argument of the condition of an update stands behind those of the
assignments. -/
def Form.template (query : Verb) : Form → Template
  | .insert table columns values =>
    { verb := .insert, table := table,
      values := some (slotsFrom .positions 0 (columns.zip values)),
      setValues := none, predicate := none, limit := none, arity := positionalArity values }
  | .update table assignments (column, e) =>
    { verb := .update, table := table, values := none,
      setValues := some (slotsFrom .placeholders 0 assignments),
      predicate := some (column, e.slot (placeholders assignments)), limit := none,
      arity := placeholders assignments + e.arity }
  | .delete table (column, e) =>
    { verb := .delete, table := table, values := none, setValues := none,
      predicate := some (column, e.slot 0), limit := none, arity := e.arity }
  | .select _ table condition limit =>
    { verb := if query = .count then .count else .select, table := table, values := none,
      setValues := none, predicate := condition.map fun c => (c.1, c.2.slot 0),
      limit := if query = .count then none else limit,
      arity := (condition.map fun c => c.2.arity).getD 0 }

/-- What arguments must not change: everything but the values. -/
structure Frame where
  verb : Verb
  table : String
  columns : Option (List String)
  setColumns : Option (List String)
  predicateColumn : Option String
  limit : Option Nat

def Intent.frame (intent : Intent) : Frame :=
  { verb := intent.verb
    table := intent.table
    columns := intent.values.map TextMap.keys
    setColumns := intent.setValues.map TextMap.keys
    predicateColumn := intent.predicate.map (·.column)
    limit := intent.limit }

variable {args : Arguments} {numbering : Numbering} {n : Nat}

theorem Slot.Below.mono {s : Slot} {m n : Nat} (h : s.Below m) (hmn : m ≤ n) : s.Below n := by
  cases s with
  | constant value => trivial
  | argument index => exact Nat.lt_of_lt_of_le h hmn

theorem Expr.slot_below (e : Expr) (index : Nat) : (e.slot index).Below (index + e.arity) := by
  cases e with
  | placeholder => exact Nat.lt_succ_self index
  | constant value => trivial

theorem at?_eq_ok (h : n < args.length) : args.at? n = .ok (args.getD n .null) := by
  simp [Arguments.at?, h]

theorem last_eq_ok (h : args.length = n + 1) : args.last = .ok (args.getD n .null) := by
  simp [Arguments.last, List.getLast?_eq_getElem?, h]

theorem expectCount_of_length (h : args.length = n) : args.expectCount n = .ok () := by
  simp [Arguments.expectCount, h]

theorem expectCount_of_length_ne (h : args.length ≠ n) :
    args.expectCount n = .error (.countMismatch n args.length) := by
  simp [Arguments.expectCount, h]

theorem Expr.fill_eq_ok (e : Expr) (index : Nat) {argument : Except BindingError Json}
    (h : e = .placeholder → argument = .ok (args.getD index .null)) :
    e.fill argument = .ok ((e.slot index).value args) := by
  cases e with
  | placeholder => exact h rfl
  | constant value => rfl

theorem fillRow_eq_ok (es : List Equality) (index : Nat) (row : Row)
    (h : ∀ s ∈ slotsFrom numbering index es, s.2.Below args.length) :
    fillRow numbering args index es row =
      .ok (row.insertAll (valuesOf args (slotsFrom numbering index es))) := by
  -- for every row that the columns in front have made
  induction es generalizing index row with
  | nil => rfl
  | cons c es ih =>
      obtain ⟨column, e⟩ := c
      simp only [slotsFrom, List.mem_cons, forall_eq_or_imp] at h
      have he : e.fill (args.at? index) = .ok ((e.slot index).value args) := by
        refine e.fill_eq_ok index fun hp => ?_
        subst hp
        exact at?_eq_ok h.1
      simp only [fillRow, he]
      exact ih _ _ h.2

theorem placeholders_cons (column : String) (e : Expr) (es : List Equality) :
    placeholders ((column, e) :: es) = e.arity + placeholders es := by
  cases e <;> simp [placeholders, Expr.arity, Expr.isPlaceholder, Nat.add_comm]

theorem slotsFrom_placeholders_below (es : List Equality) (index : Nat) :
    ∀ s ∈ slotsFrom .placeholders index es, s.2.Below (index + placeholders es) := by
  induction es generalizing index with
  | nil => intro s hs; cases hs
  | cons c es ih =>
      obtain ⟨column, e⟩ := c
      intro s hs
      rw [placeholders_cons, ← Nat.add_assoc]
      rcases List.mem_cons.mp hs with rfl | hs
      · exact (e.slot_below index).mono (Nat.le_add_right _ _)
      · exact ih _ s hs

theorem slotsFrom_positions_below (columns : List String) (es : List Expr) (index n : Nat)
    (h : positionalArity es = 0 ∨ index + positionalArity es ≤ n) :
    ∀ s ∈ slotsFrom .positions index (columns.zip es), s.2.Below n := by
  induction es generalizing columns index with
  | nil => intro s hs; simp [slotsFrom] at hs
  | cons e es ih =>
      cases columns with
      | nil => intro s hs; simp [slotsFrom] at hs
      | cons column columns =>
          intro s hs
          rw [positionalArity] at h
          rcases List.mem_cons.mp hs with rfl | hs
          · cases e with
            | constant value => trivial
            | placeholder =>
                change index < n
                split at h <;> simp [Expr.arity, Expr.isPlaceholder] at h <;> omega
          · refine ih columns (index + 1) ?_ s hs
            split at h
            · left; assumption
            · right; omega

theorem Form.template_closed (query : Verb) (form : Form) : (form.template query).Closed := by
  intro s hs
  cases form with
  | insert table columns values =>
      have h : s ∈ slotsFrom .positions 0 (columns.zip values) := by
        simpa [template, Template.slots] using hs
      exact slotsFrom_positions_below columns values 0 _ (Or.inr (Nat.le_of_eq (Nat.zero_add _))) s h
  | update table assignments condition =>
      have h : s ∈ slotsFrom .placeholders 0 assignments ∨
          s = (condition.1, condition.2.slot (placeholders assignments)) := by
        simpa [template, Template.slots] using hs
      rcases h with h | rfl
      · have hb := slotsFrom_placeholders_below assignments 0 s h
        rw [Nat.zero_add] at hb
        exact hb.mono (Nat.le_add_right _ _)
      · exact condition.2.slot_below _
  | delete table condition =>
      have h : s = (condition.1, condition.2.slot 0) := by
        simpa [template, Template.slots] using hs
      subst h
      simpa [template] using condition.2.slot_below 0
  | select projection table condition limit =>
      cases condition with
      | none => simp [template, Template.slots] at hs
      | some condition =>
          have h : s = (condition.1, condition.2.slot 0) := by
            simpa [template, Template.slots] using hs
          subst h
          simpa [template] using condition.2.slot_below 0

theorem fillCondition_eq_ok (column : String) (e : Expr) (h : args.length = e.arity) :
    fillCondition args (column, e) = .ok ⟨column, (e.slot 0).value args⟩ := by
  have he : e.fill (args.at? 0) = .ok ((e.slot 0).value args) := by
    refine e.fill_eq_ok 0 fun hp => at?_eq_ok ?_
    subst hp
    rw [h]
    exact Nat.one_pos
  simp only [fillCondition, expectCount_of_length h, he]
  rfl

theorem Form.fill_eq_ok (query : Verb) (form : Form)
    (h : args.length = (form.template query).arity) :
    form.fill query args = .ok ((form.template query).fill args) := by
  have hc := form.template_closed query
  rw [Template.Closed, ← h] at hc
  cases form with
  | insert table columns values =>
      have hs : ∀ s ∈ slotsFrom .positions 0 (columns.zip values), s.2.Below args.length :=
        fun s hs => hc s (by simpa [template, Template.slots] using hs)
      have hn : args.expectCount (positionalArity values) = .ok () := expectCount_of_length h
      rw [fill, hn, fillRow_eq_ok _ _ _ hs]
      rfl
  | update table assignments condition =>
      obtain ⟨column, e⟩ := condition
      have hs : ∀ s ∈ slotsFrom .placeholders 0 assignments, s.2.Below args.length :=
        fun s hs => hc s (by simp [template, Template.slots, hs])
      -- the last argument is the one behind those of the assignments
      have he : e.fill args.last = .ok ((e.slot (placeholders assignments)).value args) := by
        refine e.fill_eq_ok _ fun hp => last_eq_ok ?_
        subst hp
        exact h
      have hn : args.expectCount (placeholders assignments + e.arity) = .ok () :=
        expectCount_of_length h
      rw [fill, hn, fillRow_eq_ok _ _ _ hs, he]
      rfl
  | delete table condition =>
      obtain ⟨column, e⟩ := condition
      rw [fill, fillCondition_eq_ok column e h]
      rfl
  | select projection table condition limit =>
      have hp : fillCondition? args condition =
          .ok (((Form.select projection table condition limit).template query).fill args).predicate := by
        cases condition with
        | none =>
            have hn : args.expectCount 0 = .ok () := expectCount_of_length h
            rw [fillCondition?, hn]
            rfl
        | some condition => rw [fillCondition?, fillCondition_eq_ok condition.1 condition.2 h]; rfl
      rw [fill, hp]
      by_cases hq : query = .count
      · subst hq; rfl
      · simp only [if_neg hq, template, Template.fill]; rfl

theorem Form.fill_eq_error (query : Verb) (form : Form)
    (h : args.length ≠ (form.template query).arity) :
    form.fill query args = .error (.countMismatch (form.template query).arity args.length) := by
  have hn := expectCount_of_length_ne h
  cases form with
  | insert table columns values =>
      change (args.expectCount (positionalArity values) >>= _) = _
      rw [show args.expectCount (positionalArity values) = _ from hn]
      rfl
  | update table assignments condition =>
      change (args.expectCount (placeholders assignments + condition.2.arity) >>= _) = _
      rw [show args.expectCount (placeholders assignments + condition.2.arity) = _ from hn]
      rfl
  | delete table condition =>
      rw [fill, fillCondition, show args.expectCount condition.2.arity = _ from hn]
      rfl
  | select projection table condition limit =>
      cases condition with
      | none => rw [fill, fillCondition?, show args.expectCount 0 = _ from hn]; rfl
      | some condition =>
          rw [fill, fillCondition?, fillCondition,
            show args.expectCount condition.2.arity = _ from hn]
          rfl

theorem Template.frame_fill (t : Template) (args args' : Arguments) :
    (t.fill args).frame = (t.fill args').frame := by
  have hk (slots : List (String × Slot)) : (TextMap.ofList (valuesOf args slots)).keys =
      (TextMap.ofList (valuesOf args' slots)).keys :=
    TextMap.keys_insertAll_congr (by simp [valuesOf]) rfl
  simp [fill, Intent.frame, Function.comp_def, hk]

theorem Template.eq_fill_of_bind {t : Template} {intent : Intent} (h : t.bind args = .ok intent) :
    intent = t.fill args := by
  rw [bind] at h
  split at h
  · cases h; rfl
  · cases h

theorem Template.bind_eq_ok {t : Template} (h : args.length = t.arity) :
    t.bind args = .ok (t.fill args) :=
  if_pos h

theorem Template.bind_replicate (t : Template) :
    t.bind (List.replicate t.arity .null) = .ok (t.fill (List.replicate t.arity .null)) :=
  Template.bind_eq_ok List.length_replicate

theorem Template.bind_ne_missingArgument (t : Template) (index supplied : Nat) :
    t.bind args ≠ .error (.binding (.missingArgument index supplied)) := by
  rw [bind]
  split <;> simp

theorem parseAs_eq (verb : Verb) (r : Reading Form) (statement : String) (args : Arguments) :
    parseAs verb r statement args =
      match formOf r statement with
      | .error e => .error (.parse e)
      | .ok form => (form.template verb).bind args := by
  rw [parseAs]
  cases formOf r statement with
  | error e => rfl
  | ok form =>
      by_cases h : args.length = (form.template verb).arity
      · simp only [form.fill_eq_ok verb h, Template.bind, if_pos h]; rfl
      · simp only [form.fill_eq_error verb h, Template.bind, if_neg h]; rfl

theorem parse_cases (statement : String) :
    (∃ e, ∀ args, parse statement args = .error (.parse e)) ∨
      ∃ t : Template, t.Closed ∧ ∀ args, parse statement args = t.bind args := by
  cases hr : (classify statement).reading? with
  | none => exact Or.inl ⟨_, fun args => by simp only [parse, hr]; rfl⟩
  | some r =>
      cases hf : formOf r statement with
      | error e => exact Or.inl ⟨e, fun args => by simp only [parse, hr, parseAs_eq, hf]⟩
      | ok form =>
          refine Or.inr ⟨form.template _, form.template_closed (classify statement), ?_⟩
          intro args
          simp only [parse, hr, parseAs_eq, hf]

/-- A statement is either wrong whatever its arguments are, or it has one template whose slots they
fill. No argument is ever missing behind the count, and no argument changes more than a value. -/
theorem parse_error_xor_template (statement : String) :
    Xor (∃ e, ∀ args, parse statement args = .error (.parse e))
      (∃ t : Template, t.Closed ∧ ∀ args, parse statement args = t.bind args) ∧
    (∀ args index supplied,
      parse statement args ≠ .error (.binding (.missingArgument index supplied))) ∧
    ∀ args args' intent intent', parse statement args = .ok intent →
      parse statement args' = .ok intent' → intent.frame = intent'.frame := by
  rcases parse_cases statement with ⟨e, he⟩ | ⟨t, hc, ht⟩
  · simp only [he]
    refine ⟨Or.inl ⟨⟨e, fun _ => rfl⟩, ?_⟩, ?_, ?_⟩
    · rintro ⟨t, -, ht⟩
      exact absurd (ht _) (by rw [t.bind_replicate]; simp)
    · simp
    · simp
  · simp only [ht]
    refine ⟨Or.inr ⟨⟨t, hc, fun _ => rfl⟩, ?_⟩, ?_, ?_⟩
    · rintro ⟨e, he⟩
      exact absurd (he _) (by rw [t.bind_replicate]; simp)
    · intro args index supplied
      exact t.bind_ne_missingArgument index supplied
    · intro args args' intent intent' h h'
      rw [Template.eq_fill_of_bind h, Template.eq_fill_of_bind h']
      exact t.frame_fill args args'

end DocQuery.Sql
