import DocQuery.Store.Memory
import Mathlib.Data.List.Basic

namespace DocQuery.Store

theorem toInt_max (m n : Int64) : (max m n).toInt = max m.toInt n.toInt := by
  change (if m ≤ n then n else m).toInt = _
  rw [apply_ite Int64.toInt, Int.max_def]
  simp only [Int64.le_iff_toInt_le]

theorem max_minValue (n : Int64) : max n Int64.minValue = n := by
  rw [← Int64.toInt_inj, toInt_max]
  exact Int.max_eq_left n.minValue_le_toInt

theorem max_max_self (m n : Int64) : max (max m n) n = max m n := by
  rw [← Int64.toInt_inj, toInt_max, toInt_max]
  exact Int.max_eq_left (Int.le_max_right _ _)

/-- How far an id moves a counter. Only an integer with sign of 64 bits moves it. -/
def serialOf : Json → Int64
  | .number (.int n _ _) => if n < 0x8000000000000000 then .ofInt n else .minValue
  | _ => .minValue

namespace Table

variable {t : Table} {row : Row}

@[ext]
theorem ext {u : Table} (hrows : t.rows = u.rows) (hlast : t.lastId = u.lastId) : t = u := by
  cases t
  cases u
  exact congr (congrArg Table.mk hrows) hlast

theorem observe_eq (t : Table) (id : Json) : t.observe id = ⟨t.rows, max t.lastId (serialOf id)⟩ := by
  cases id with
  | number m =>
      cases m with
      | int n lower upper =>
          rw [observe, serialOf]
          split
          · rfl
          · rw [max_minValue]
      | float x => exact congrArg (Table.mk t.rows) (max_minValue _).symm
  | _ => exact congrArg (Table.mk t.rows) (max_minValue _).symm

theorem rows_observe (t : Table) (id : Json) : (t.observe id).rows = t.rows := by
  rw [observe_eq]

theorem lastId_le_observe (t : Table) (id : Json) : t.lastId ≤ (t.observe id).lastId := by
  rw [observe_eq, Int64.le_iff_toInt_le, toInt_max]
  exact Int.le_max_left _ _

theorem le_lastId_observe (t : Table) {n : Int} {lower : -0x8000000000000000 ≤ n}
    {upper : n < 0x10000000000000000} (h : n < 0x8000000000000000) :
    n ≤ (t.observe (.number (.int n lower upper))).lastId.toInt := by
  rw [observe_eq, toInt_max, serialOf, if_pos h, Int64.toInt_ofInt_of_le lower h]
  exact Int.le_max_right _ _

/-- A row needs an id, and the counter stands at the largest integer. -/
def Overflows (t : Table) (row : Row) : Prop :=
  row.id? = none ∧ t.lastId = Int64.maxValue

instance (t : Table) (row : Row) : Decidable (t.Overflows row) :=
  inferInstanceAs (Decidable (_ ∧ _))

theorem toInt_nextId (h : t.lastId ≠ Int64.maxValue) : t.nextId.toInt = t.lastId.toInt + 1 := by
  have hle := t.lastId.toInt_le
  have hne : t.lastId.toInt ≠ Int64.maxValue.toInt := fun he => h (Int64.toInt.inj he)
  rw [Int64.toInt_maxValue] at hle hne
  have hlow := t.lastId.le_toInt
  rw [nextId, Int64.toInt_add, Int64.toInt_one]
  exact Int.bmod_eq_of_le (by omega) (by omega)

example : (Table.mk [] Int64.maxValue).nextId = Int64.minValue := by decide

def identified (t : Table) (values : Row) : Row :=
  values.insert idColumn (.ofInt64 t.nextId)

theorem get?_identified (t : Table) (values : Row) :
    (t.identified values).get? idColumn = some (.ofInt64 t.nextId) := by
  rw [identified, TextMap.get?_insert, if_pos rfl]

theorem id?_identified (t : Table) (values : Row) :
    (t.identified values).id? = some (.ofInt64 t.nextId) := by
  rw [Row.id?, get?_identified]
  rfl

theorem push_of_id?_eq_none (t : Table) (h : row.id? = none) :
    t.push .serial row = (t.identified row, ⟨t.rows ++ [t.identified row], t.nextId⟩, .serial) := by
  simp only [Table.push, identify, h, identified]

theorem push_of_id?_eq_some (t : Table) {id : Json} (h : row.id? = some id) :
    t.push .serial row = (row, ⟨t.rows ++ [row], (t.observe id).lastId⟩, .serial) := by
  simp only [Table.push, identify, h, rows_observe]

theorem rows_push (t : Table) (ids : IdSource) (row : Row) :
    (t.push ids row).2.1.rows = t.rows ++ [(t.push ids row).1] := by
  have hrows : ((t.identify ids row).2.1).rows = t.rows := by
    rw [identify.eq_def]
    split
    · exact rows_observe t _
    · rfl
    · rfl
  exact congrArg (· ++ [(t.identify ids row).1]) hrows

theorem length_push (t : Table) (ids : IdSource) (row : Row) :
    (t.push ids row).2.1.rows.length = t.rows.length + 1 := by
  rw [rows_push, List.length_append, List.length_singleton]

theorem lastId_push (t : Table) (row : Row) : (t.push .serial row).2.1.lastId =
    row.id?.elim t.nextId fun id => max t.lastId (serialOf id) := by
  cases h : row.id? with
  | none => rw [push_of_id?_eq_none t h, Option.elim_none]
  | some id => rw [push_of_id?_eq_some t h, observe_eq, Option.elim_some]

theorem lastId_le_push (h : ¬ t.Overflows row) : t.lastId ≤ (t.push .serial row).2.1.lastId := by
  rw [lastId_push, Int64.le_iff_toInt_le]
  cases hid : row.id? with
  | none =>
      rw [Option.elim_none, toInt_nextId fun hlast => h ⟨hid, hlast⟩]
      exact Int.le_add_one (Int.le_refl _)
  | some id =>
      rw [Option.elim_some, toInt_max]
      exact Int.le_max_left _ _

theorem rows_update (t : Table) (values : Row) (filter : Predicate) :
    (t.update values filter).rows = t.rows.map (revise values filter) := by
  unfold Table.update
  cases values.get? idColumn with
  | none => rfl
  | some id =>
      simp only
      split
      · rfl
      · rw [rows_observe]

theorem update_empty (values : Row) (filter : Predicate) : empty.update values filter = empty := by
  rw [Table.update]
  cases values.get? idColumn <;> rfl

theorem lastId_update (t : Table) (values : Row) (filter : Predicate) :
    (t.update values filter).lastId =
      if (t.updated values filter).isEmpty then t.lastId
      else max t.lastId ((values.get? idColumn).elim Int64.minValue serialOf) := by
  rw [Table.update]
  cases values.get? idColumn with
  | none => rw [Option.elim_none, max_minValue, ite_self]
  | some id =>
      rw [Option.elim_some, apply_ite lastId, observe_eq]

theorem lastId_le_update (t : Table) (values : Row) (filter : Predicate) :
    t.lastId ≤ (t.update values filter).lastId := by
  rw [lastId_update]
  split
  · exact Int64.le_refl _
  · rw [Int64.le_iff_toInt_le, toInt_max]
    exact Int.le_max_left _ _

theorem lastId_update_of_mem {row : Row} (hrow : row ∈ t.rows) {values : Row} {filter : Predicate}
    (hf : filter.holds row) {id : Json} (hid : values.get? idColumn = some id) :
    (t.update values filter).lastId =
      ((Table.mk (t.rows.map (revise values filter)) t.lastId).observe id).lastId := by
  have hne : (t.updated values filter).isEmpty = false := by
    rw [List.isEmpty_eq_false_iff_exists_mem]
    exact ⟨row.overlay values, List.mem_map.mpr ⟨row, List.mem_filter.mpr ⟨hrow, hf⟩, rfl⟩⟩
  simp only [Table.update, hid, hne, Bool.false_eq_true, if_false]

theorem length_delete (t : Table) (filter : Predicate) :
    (t.rows.filter filter.holds).length + (t.delete filter).rows.length = t.rows.length :=
  (List.length_eq_length_filter_add filter.holds).symm

end Table

end DocQuery.Store
