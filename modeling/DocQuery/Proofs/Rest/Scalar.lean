import DocQuery.Proofs.Decimal.Rounding
import DocQuery.Proofs.Json.RoundTrip
import DocQuery.Proofs.Rest.Query
import DocQuery.Proofs.Store.Session
import DocQuery.Proofs.Store.Table

namespace DocQuery

open Store (Call)

namespace Store.Call

def values? : Call → Option Row
  | insert _ values | update _ values _ => some values
  | delete _ _ | select _ _ _ | selectSingle _ _ | count _ _ => none

def carried : Call → Call
  | insert table values => insert table values
  | update table values filter => update table values filter.carried
  | delete table filter => delete table filter.carried
  | select table filter limit => select table (filter.map Predicate.carried) limit
  | selectSingle table filter => selectSingle table (filter.map Predicate.carried)
  | count table filter => count table (filter.map Predicate.carried)

end Store.Call

namespace Json

/-- A value without parts. The integers are those that no other integer is taken for. -/
def Scalar : Json → Prop
  | .null | .bool _ | .string _ => True
  | .number (.int n _ _) => n.natAbs ≤ 2 ^ 53
  | .number (.float _) | .array _ | .object _ => False

instance : DecidablePred Scalar
  | .null | .bool _ | .string _ => isTrue trivial
  | .number (.int n _ _) => inferInstanceAs (Decidable (n.natAbs ≤ 2 ^ 53))
  | .number (.float _) | .array _ | .object _ => isFalse id

theorem reads_scalar {v : Json} (h : v.Scalar) {depth : Nat} : Reader.Reads depth v := by
  cases v with
  | null => exact Reader.reads_null
  | bool b => exact Reader.reads_bool b
  | string s => exact Reader.reads_string s
  | number x =>
      cases x with
      | int n lower upper => exact Reader.reads_int lower upper
      | float x => exact h.elim
  | array items => exact h.elim
  | object members => exact h.elim

/-- A filter finds the same scalars after its value has been carried as a text. -/
theorem looselyEqual_carried {a b : Json} (ha : a.Scalar) (hb : b.Scalar) :
    a.looselyEqual b.carried = a.looselyEqual b := by
  cases b with
  | null => rfl
  | string s => rfl
  | bool y =>
      cases a with
      | null => rfl
      | bool x => cases x <;> cases y <;> rfl
      | string s => exact Bool.or_self _
      | number x => rfl
      | array items => exact ha.elim
      | object members => exact ha.elim
  | number y =>
      cases y with
      | float y => exact hb.elim
      | int k lower upper =>
          cases a with
          | null => rfl
          | bool x => rfl
          | string s => exact Bool.or_self _
          | array items => exact ha.elim
          | object members => exact ha.elim
          | number x =>
              cases x with
              | float x => exact ha.elim
              | int j lower' upper' =>
                  -- texts and values tell integers of this size apart alike
                  have htext : (toString j == toString k) = true ↔ j = k := by
                    rw [beq_iff_eq]
                    exact ⟨int_of_text lower' upper' lower upper, congrArg toString⟩
                  have hvalue := Binary64.same_ofInt_ofInt_iff ha hb
                  exact Bool.eq_iff_iff.mpr (htext.trans hvalue.symm)
  | array items => exact hb.elim
  | object members => exact hb.elim

end Json

namespace Row

def Scalar (row : Row) : Prop :=
  ∀ e ∈ row.entries, e.2.Scalar

instance (row : Row) : Decidable row.Scalar :=
  List.decidableBAll _ row.entries

variable {row values : Row}

theorem Scalar.of_get? (h : row.Scalar) {column : String} {v : Json} (hv : row.get? column = some v) :
    v.Scalar :=
  h (column, v) (mem_of_lookupEntry hv)

theorem Scalar.insert (h : row.Scalar) {column : String} {v : Json} (hv : v.Scalar) :
    Scalar (row.insert column v) := by
  intro e he
  rcases mem_insertEntry he with rfl | he
  · exact hv
  · exact h e he

theorem Scalar.overlay (h : row.Scalar) (hvalues : values.Scalar) : Scalar (row.overlay values) := by
  have hall (entries : List (String × Json)) (row : Row) (hentries : ∀ e ∈ entries, e.2.Scalar)
      (h : row.Scalar) : Scalar (row.insertAll entries) := by
    induction entries generalizing row with
    | nil => exact h
    | cons e entries ih =>
        exact ih _ (fun x hx => hentries x (List.mem_cons_of_mem _ hx))
          (h.insert (hentries e List.mem_cons_self))
  exact hall values.entries row hvalues h

theorem Scalar.holds_carried (h : row.Scalar) {filter : Predicate} (hf : filter.value.Scalar) :
    filter.carried.holds row = filter.holds row := by
  have hvalue : ((row.get? filter.column).getD .null).Scalar := by
    cases hv : row.get? filter.column with
    | none => trivial
    | some v => exact h.of_get? hv
  exact Json.looselyEqual_carried hvalue hf

theorem Scalar.wanted_carried (h : row.Scalar) {filter : Option Predicate}
    (hf : ∀ p ∈ filter, p.value.Scalar) :
    row.wanted (filter.map Predicate.carried) = row.wanted filter := by
  cases filter with
  | none => rfl
  | some p => exact h.holds_carried (hf p rfl)

theorem Scalar.reads (h : row.Scalar) {depth : Nat} : Json.Reader.Reads (depth + 1) (.ofRow row) :=
  Json.Reader.reads_row fun e he => Json.reads_scalar (h e he)

end Row

namespace Store

namespace Table

def Scalar (t : Table) : Prop :=
  ∀ row ∈ t.rows, row.Scalar

variable {t : Table} {values : Row} {filter : Predicate}

theorem Scalar.filter_carried (h : t.Scalar) (hf : filter.value.Scalar) :
    t.rows.filter filter.carried.holds = t.rows.filter filter.holds :=
  List.filter_congr fun row hrow => (h row hrow).holds_carried hf

theorem Scalar.updated_carried (h : t.Scalar) (hf : filter.value.Scalar) :
    t.updated values filter.carried = t.updated values filter := by
  rw [updated, updated, h.filter_carried hf]

theorem Scalar.update_carried (h : t.Scalar) (hf : filter.value.Scalar) :
    t.update values filter.carried = t.update values filter := by
  have hrows : t.rows.map (revise values filter.carried) = t.rows.map (revise values filter) :=
    List.map_congr_left fun row hrow => by rw [revise, revise, (h row hrow).holds_carried hf]
  rw [update, update, hrows, h.updated_carried hf]

theorem Scalar.delete_carried (h : t.Scalar) (hf : filter.value.Scalar) :
    t.delete filter.carried = t.delete filter := by
  have hrows : t.rows.filter (fun row => !filter.carried.holds row) =
      t.rows.filter fun row => !filter.holds row :=
    List.filter_congr fun row hrow => by rw [(h row hrow).holds_carried hf]
  rw [delete, delete, hrows]

theorem Scalar.filter_wanted_carried (h : t.Scalar) {filter : Option Predicate}
    (hf : ∀ p ∈ filter, p.value.Scalar) :
    t.rows.filter (Row.wanted (filter.map Predicate.carried)) = t.rows.filter (Row.wanted filter) :=
  List.filter_congr fun row hrow => (h row hrow).wanted_carried hf

theorem Scalar.select_carried (h : t.Scalar) {filter : Option Predicate}
    (hf : ∀ p ∈ filter, p.value.Scalar) (limit : Option Nat) :
    t.select (filter.map Predicate.carried) limit = t.select filter limit := by
  simp only [Table.select, h.filter_wanted_carried hf]

theorem Scalar.count_carried (h : t.Scalar) {filter : Option Predicate}
    (hf : ∀ p ∈ filter, p.value.Scalar) :
    t.count (filter.map Predicate.carried) = t.count filter := by
  rw [count, count, h.filter_wanted_carried hf]

theorem Scalar.updated (h : t.Scalar) (hvalues : values.Scalar) :
    ∀ row ∈ t.updated values filter, row.Scalar := by
  intro row hrow
  obtain ⟨old, hold, rfl⟩ := List.mem_map.mp hrow
  exact (h old (List.mem_filter.mp hold).1).overlay hvalues

theorem Scalar.select (h : t.Scalar) (filter : Option Predicate) (limit : Option Nat) :
    ∀ row ∈ t.select filter limit, row.Scalar := by
  intro row hrow
  have hwanted : row ∈ t.rows.filter (Row.wanted filter) := by
    cases limit with
    | none => exact hrow
    | some n => exact List.mem_of_mem_take hrow
  exact h row (List.mem_filter.mp hwanted).1

theorem Scalar.pushed (hvalues : values.Scalar)
    (hid : (t.push .serial values).2.1.lastId.toInt.natAbs ≤ 2 ^ 53) :
    (t.push .serial values).1.Scalar := by
  cases hi : values.id? with
  | none =>
      rw [push_of_id?_eq_none t hi] at hid ⊢
      exact hvalues.insert hid
  | some id =>
      rw [push_of_id?_eq_some t hi]
      exact hvalues

theorem Scalar.push (h : t.Scalar) (hvalues : values.Scalar)
    (hid : (t.push .serial values).2.1.lastId.toInt.natAbs ≤ 2 ^ 53) :
    (t.push .serial values).2.1.Scalar := by
  intro row hrow
  rw [rows_push] at hrow
  rcases List.mem_append.mp hrow with hrow | hrow
  · exact h row hrow
  · obtain rfl := List.mem_singleton.mp hrow
    exact Scalar.pushed hvalues hid

theorem Scalar.update (h : t.Scalar) (hvalues : values.Scalar) : (t.update values filter).Scalar := by
  intro row hrow
  rw [rows_update] at hrow
  obtain ⟨old, hold, rfl⟩ := List.mem_map.mp hrow
  rw [revise]
  split
  · exact (h old hold).overlay hvalues
  · exact h old hold

theorem Scalar.delete (h : t.Scalar) : (t.delete filter).Scalar :=
  fun row hrow => h row (List.mem_filter.mp hrow).1

end Table

/-- All ids that were given out or seen are small enough to be told apart. -/
def Database.SmallIds (db : Database) : Prop :=
  ∀ name, (db.table name).lastId.toInt.natAbs ≤ 2 ^ 53

/-- What a run keeps: ids are serial, and all values are scalars. -/
structure Database.Tame (db : Database) : Prop where
  serial : db.ids = .serial
  scalar : ∀ name, (db.table name).Scalar

namespace Database

variable {db : Database}

theorem tame_empty : Tame (.empty .serial) :=
  ⟨rfl, fun _ _ h => (List.not_mem_nil h).elim⟩

theorem change_congr (db : Database) (name : String) {f g : Table → Table}
    (h : f (db.table name) = g (db.table name)) : db.change name f = db.change name g := by
  rw [change, change]
  cases ht : db.tables.get? name with
  | none => rfl
  | some t =>
      have htable : db.table name = t := by rw [table, ht, Option.getD_some]
      rw [htable] at h
      simp only [h]

theorem scalar_answer (h : db.Tame) {call : Call} (hvalues : ∀ row ∈ call.values?, row.Scalar)
    (hids : (answer call db).2.SmallIds) (name : String) : ((answer call db).2.table name).Scalar := by
  cases call with
  | insert key values =>
      have htable : (answer (.insert key values) db).2.table name = _ := table_of_insert name key values
      have hname := hids name
      rw [htable] at hname ⊢
      rw [h.serial] at hname ⊢
      split at hname
      · rename_i he
        rw [if_pos he]
        exact (h.scalar key).push (hvalues values rfl) hname
      · rename_i he
        rw [if_neg he]
        exact h.scalar name
  | update key values filter =>
      have hscalar := h.scalar name
      rcases table_change db name key (·.update values filter) with he | ⟨-, he⟩
      · exact he ▸ hscalar
      · exact he ▸ hscalar.update (hvalues values rfl)
  | delete key filter =>
      have hscalar := h.scalar name
      rcases table_change db name key (·.delete filter) with he | ⟨-, he⟩
      · exact he ▸ hscalar
      · exact he ▸ hscalar.delete
  | select key filter limit => exact h.scalar name
  | selectSingle key filter => exact h.scalar name
  | count key filter => exact h.scalar name

theorem Tame.answer (h : db.Tame) {call : Call} (hvalues : ∀ row ∈ call.values?, row.Scalar)
    (hids : (answer call db).2.SmallIds) : (answer call db).2.Tame where
  serial := answer_ids call h.serial
  scalar := scalar_answer h hvalues hids

theorem Tame.update_carried (h : db.Tame) {filter : Predicate} (hf : filter.value.Scalar)
    (name : String) (values : Row) :
    db.update name values filter.carried = db.update name values filter := by
  rw [update, update, (h.scalar name).updated_carried hf,
    change_congr db name (g := (·.update values filter)) ((h.scalar name).update_carried hf)]

theorem Tame.delete_carried (h : db.Tame) {filter : Predicate} (hf : filter.value.Scalar)
    (name : String) : db.delete name filter.carried = db.delete name filter := by
  rw [delete, delete, (h.scalar name).filter_carried hf,
    change_congr db name (g := (·.delete filter)) ((h.scalar name).delete_carried hf)]

theorem Tame.selectSingle_carried (h : db.Tame) {filter : Option Predicate}
    (hf : ∀ p ∈ filter, p.value.Scalar) (name : String) :
    db.selectSingle name (filter.map Predicate.carried) = db.selectSingle name filter := by
  rw [selectSingle, selectSingle, (h.scalar name).select_carried hf]

end Database

end Store

end DocQuery
