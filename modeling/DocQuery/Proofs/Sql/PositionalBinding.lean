import DocQuery.Proofs.Sql.Binding

namespace DocQuery.Sql

open Grammar

/-- The number of arguments of a list of values: none without placeholders, and otherwise all up to
the position of the last one. -/
inductive IsArity (es : List Expr) : Nat → Prop
  | none (h : Expr.placeholder ∉ es) : IsArity es 0
  | last (i : Nat) (h : es[i]? = some .placeholder)
      (hlast : ∀ j, i < j → es[j]? ≠ some .placeholder) : IsArity es (i + 1)

def Expr.at? (args : Arguments) (index : Nat) : Expr → Option Json
  | placeholder => args[index]?
  | constant value => some value

namespace Grammar.Insertion

def columnNames (d : Insertion) : List String := d.columns.items.map (·.value)

def expressions (d : Insertion) : List Expr := d.values.items.map Value.expr

/-- A row with the columns of an insertion, each with what stands at the last position of the column. -/
structure Binds (d : Insertion) (args : Arguments) (row : Row) : Prop where
  columns : ∀ column, (row.get? column).isSome ↔ column ∈ d.columnNames
  values : ∀ i column (e : Expr), d.columnNames[i]? = some column → d.expressions[i]? = some e →
    (∀ j, i < j → d.columnNames[j]? ≠ some column) → row.get? column = e.at? args i

end Grammar.Insertion

variable {args args' : Arguments} {es : List Expr} {m n : Nat}

theorem IsArity.unique (hm : IsArity es m) (hn : IsArity es n) : m = n := by
  cases hm with
  | none hm =>
      cases hn with
      | none hn => rfl
      | last j hj hlast => exact absurd (List.mem_of_getElem? hj) hm
  | last i hi hlast =>
      cases hn with
      | none hn => exact absurd (List.mem_of_getElem? hi) hn
      | last j hj hlast' =>
          rcases Nat.lt_trichotomy i j with h | h | h
          · exact absurd hj (hlast j h)
          · rw [h]
          · exact absurd hi (hlast' i h)

theorem positionalArity_le_iff :
    positionalArity es ≤ n ↔ ∀ i, es[i]? = some .placeholder → i < n := by
  refine ⟨fun h i hi => Nat.lt_of_lt_of_le (lt_positionalArity hi) h, fun h => ?_⟩
  induction es generalizing n with
  | nil => exact Nat.zero_le n
  | cons e es ih =>
      have htail : positionalArity es ≤ n - 1 := ih fun i hi => by
        have hlt := h (i + 1) hi
        omega
      rw [positionalArity]
      split
      · cases e with
        | placeholder => exact h 0 rfl
        | constant value => exact Nat.zero_le n
      · omega

theorem isArity_positionalArity (es : List Expr) : IsArity es (positionalArity es) := by
  cases hn : positionalArity es with
  | zero =>
      refine .none fun hmem => ?_
      obtain ⟨i, hi⟩ := List.mem_iff_getElem?.mp hmem
      have hlt := lt_positionalArity hi
      omega
  | succ n =>
      have hlt {i : Nat} (hi : es[i]? = some .placeholder) : i < n + 1 := by
        rw [← hn]
        exact lt_positionalArity hi
      refine .last n ?_ fun j hj hp => Nat.lt_irrefl n (Nat.lt_of_lt_of_le hj (Nat.le_of_lt_succ (hlt hp)))
      -- without a placeholder at the last position there would be fewer of them
      by_contra hne
      have hle : positionalArity es ≤ n := positionalArity_le_iff.mpr fun i hi => by
        have hi' := hlt hi
        have : i ≠ n := by
          rintro rfl
          exact hne hi
        omega
      omega

theorem valuesOf_positions_getElem? (index i : Nat) (es : List Equality) :
    (valuesOf args (slotsFrom .positions index es))[i]? =
      es[i]?.map fun e => (e.1, (e.2.slot (index + i)).value args) := by
  induction es generalizing index i with
  | nil => rfl
  | cons e es ih =>
      cases i with
      | zero => rfl
      | succ i =>
          have htail := ih (index + 1) i
          rw [Nat.add_right_comm] at htail
          exact htail

theorem Expr.at?_eq (e : Expr) {n : Nat} (h : e = .placeholder → n < args.length) :
    e.at? args n = some ((e.slot n).value args) := by
  cases e with
  | constant value => rfl
  | placeholder =>
      have hn := h rfl
      simp [Expr.slot, Slot.value, Expr.at?, hn]

theorem get?_of_bindings {bindings : List (String × Json)} {columns : List String} {index : Nat → Nat}
    (hbindings : ∀ (i : Nat) (b : String × Json), bindings[i]? = some b ↔
      ∃ e : Expr, columns[i]? = some b.1 ∧ es[i]? = some e ∧ (e.slot (index i)).value args = b.2)
    {i : Nat} {column : String} {e : Expr} (hc : columns[i]? = some column) (he : es[i]? = some e)
    (hlast : ∀ j, i < j → columns[j]? ≠ some column) (hlt : e = .placeholder → index i < args.length) :
    (TextMap.ofList bindings).get? column = e.at? args (index i) := by
  have hbinding : bindings[i]? = some (column, (e.slot (index i)).value args) :=
    (hbindings i _).mpr ⟨e, hc, he, rfl⟩
  rw [e.at?_eq hlt, TextMap.get?_ofList_of_last hbinding]
  intro j w hj hw
  obtain ⟨-, hcolumn, -⟩ := (hbindings j _).mp hw
  exact hlast j hj hcolumn

namespace Grammar.Insertion

variable {d : Insertion}

theorem length_expressions (d : Insertion) : d.expressions.length = d.columnNames.length := by
  rw [expressions, columnNames, List.length_map, List.length_map, d.balanced]

def bindings (d : Insertion) (args : Arguments) : List (String × Json) :=
  valuesOf args (slotsFrom .positions 0 (d.columnNames.zip d.expressions))

theorem map_fst_bindings (d : Insertion) (args : Arguments) :
    (d.bindings args).map (·.1) = d.columnNames := by
  rw [bindings, map_fst_valuesOf]
  exact List.map_fst_zip (Nat.le_of_eq d.length_expressions.symm)

theorem bindings_getElem? {i : Nat} {b : String × Json} : (d.bindings args)[i]? = some b ↔
    ∃ e, d.columnNames[i]? = some b.1 ∧ d.expressions[i]? = some e ∧ (e.slot i).value args = b.2 := by
  rw [bindings, valuesOf_positions_getElem?, Nat.zero_add, Option.map_eq_some_iff]
  constructor
  · rintro ⟨⟨c, e⟩, hzip, rfl⟩
    obtain ⟨hc, he⟩ := List.getElem?_zip_eq_some.mp hzip
    exact ⟨e, hc, he, rfl⟩
  · rintro ⟨e, hc, he, hv⟩
    exact ⟨(b.1, e), List.getElem?_zip_eq_some.mpr ⟨hc, he⟩, Prod.ext rfl hv⟩

theorem fill_eq (d : Insertion) (args : Arguments) : (d.form.template .insert).fill args =
    .insert d.name.table (TextMap.ofList (d.bindings args)) := rfl

theorem binds (h : args.length = positionalArity d.expressions) :
    d.Binds args (TextMap.ofList (d.bindings args)) where
  columns column := by
    rw [TextMap.get?_ofList_isSome_iff, map_fst_bindings]
  values i column e hc he hlast := by
    refine get?_of_bindings (fun i b => bindings_getElem?) hc he hlast ?_
    rintro rfl
    rw [h]
    exact lt_positionalArity he

theorem bindings_congr (h : ∀ i : Nat, d.expressions[i]? = some .placeholder → args'[i]? = args[i]?) :
    d.bindings args' = d.bindings args := by
  apply List.ext_getElem?
  intro i
  apply Option.ext
  rintro ⟨column, value⟩
  rw [bindings_getElem?, bindings_getElem?]
  refine exists_congr fun e => and_congr_right fun _ => and_congr_right fun he => ?_
  cases e with
  | constant value => rfl
  | placeholder =>
      change args'.getD i .null = value ↔ args.getD i .null = value
      rw [List.getD_eq_getElem?_getD, List.getD_eq_getElem?_getD, h i he]

end Grammar.Insertion

/-- The accepted insertions take as many arguments as there are positions up to the last
placeholder. Each listed column gets what stands at its last position, and arguments at the
positions of constants are not looked at. -/
theorem insert_binds_by_position (statement : String) :
    ((∃ args intent, parse statement args = .ok intent ∧ intent.verb = .insert) ↔
      ∃ d : Insertion, tokenize statement = .ok d.tokens) ∧
    ∀ d : Insertion, tokenize statement = .ok d.tokens →
      ∃ arity, IsArity d.expressions arity ∧
        (∀ args, args.length ≠ arity →
          parse statement args = .error (.binding (.countMismatch arity args.length))) ∧
        ∀ args, args.length = arity →
          (∃ row, parse statement args = .ok (.insert d.name.table row) ∧ d.Binds args row) ∧
          ∀ args', args'.length = arity →
            (∀ i : Nat, d.expressions[i]? = some .placeholder → args'[i]? = args[i]?) →
            parse statement args' = parse statement args := by
  refine ⟨accepted_insert_iff, fun d hts => ?_⟩
  have hparse {args : Arguments} (h : args.length = positionalArity d.expressions) :
      parse statement args = .ok (.insert d.name.table (TextMap.ofList (d.bindings args))) := by
    rw [parse_of_insertion hts, ← d.fill_eq]
    exact Template.bind_eq_ok h
  refine ⟨positionalArity d.expressions, isArity_positionalArity d.expressions, fun args h => ?_,
    fun args h => ⟨⟨_, hparse h, Insertion.binds h⟩, fun args' h' hagree => ?_⟩⟩
  · rw [parse_of_insertion hts]
    exact if_neg h
  · rw [hparse h, hparse h', Insertion.bindings_congr hagree]

theorem ne_of_not_mem_drop {columns : List String} {i : Nat} {column : String}
    (h : column ∉ columns.drop (i + 1)) : ∀ j, i < j → columns[j]? ≠ some column := by
  intro j hj hcolumn
  refine h (List.mem_iff_getElem?.mpr ⟨j - (i + 1), ?_⟩)
  rw [List.getElem?_drop, ← hcolumn]
  congr 1
  omega

/-- INSERT INTO t (a, b, a, c) VALUES (?, 'x', ?, NULL) -/
def insertionOfRepeated : Insertion where
  insertWord := .bare "INSERT"
  intoWord := .bare "INTO"
  name := ⟨⟨"t", false⟩, []⟩
  columns := ⟨⟨"a", false⟩, [⟨"b", false⟩, ⟨"a", false⟩, ⟨"c", false⟩]⟩
  valuesWord := .bare "VALUES"
  values := ⟨.placeholder, [.string "x", .placeholder, .word ⟨"NULL", false⟩]⟩
  balanced := rfl
  semicolon := false

theorem insert_binds_by_position_of_repeated :
    let statement := "INSERT INTO t (a, b, a, c) VALUES (?, 'x', ?, NULL)"
    parse statement [.null] = .error (.binding (.countMismatch 3 1)) ∧
      ∃ row, parse statement [.bool true, .bool true, .bool false] = .ok (.insert "t" row) ∧
        row.get? "a" = some (.bool false) ∧ row.get? "b" = some (.string "x") ∧
        row.get? "c" = some .null ∧
        parse statement [.bool true, .null, .bool false] = .ok (.insert "t" row) := by
  intro statement
  have hts : tokenize statement = .ok insertionOfRepeated.tokens := by decide +kernel
  obtain ⟨-, hbinds⟩ := insert_binds_by_position statement
  obtain ⟨arity, harity, hcount, hbind⟩ := hbinds insertionOfRepeated hts
  obtain rfl : arity = 3 := harity.unique (isArity_positionalArity _)
  obtain ⟨⟨row, hrow, hvalues⟩, hunused⟩ := hbind [.bool true, .bool true, .bool false] rfl
  refine ⟨hcount [.null] (by decide), row, hrow, ?_, ?_, ?_, ?_⟩
  · exact hvalues.values 2 "a" .placeholder rfl rfl (ne_of_not_mem_drop (by decide))
  · exact hvalues.values 1 "b" (.constant (.string "x")) rfl rfl (ne_of_not_mem_drop (by decide))
  · exact hvalues.values 3 "c" (.constant .null) rfl rfl (ne_of_not_mem_drop (by decide))
  · rw [hunused [.bool true, .null, .bool false] rfl ?_]
    · exact hrow
    · intro i hi
      rcases i with _ | _ | _ | i
      · rfl
      · cases hi
      · rfl
      · rfl

end DocQuery.Sql
