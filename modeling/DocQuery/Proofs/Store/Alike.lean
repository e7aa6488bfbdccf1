import DocQuery.Proofs.Store.Commutation
import DocQuery.Proofs.Store.Unchanged
import Mathlib.Data.List.Sort

namespace DocQuery.Store

variable {db db' : Database} {extra : String → Prop}

namespace Database

theorem mem_tableNames_iff {name : String} :
    name ∈ db.tableNames ↔ (db.tables.get? name).isSome :=
  TextMap.mem_keys_iff

theorem mem_tableNames_insert {name key : String} {values : Row} :
    name ∈ (db.insert key values).2.tableNames ↔ name ∈ db.tableNames ∨ name = key := by
  rw [mem_tableNames_iff, mem_tableNames_iff, insert, TextMap.get?_insert]
  by_cases h : name = key <;> simp [h]

theorem mem_tableNames_change {name key : String} {f : Table → Table} :
    name ∈ (db.change key f).tableNames ↔ name ∈ db.tableNames := by
  rw [mem_tableNames_iff, mem_tableNames_iff, isSome_get?_change]

theorem tableNames_eq_of_mem_iff (h : ∀ name, name ∈ db.tableNames ↔ name ∈ db'.tableNames) :
    db.tableNames = db'.tableNames :=
  (List.pairwise_map.mpr db.tables.ascending).eq_of_mem_iff
    (List.pairwise_map.mpr db'.tables.ascending) h

end Database

/-- Two databases that no call tells apart. A table without rows whose counter stands at its start is
as good as none, and of such tables the second database has some more. -/
structure Alike (extra : String → Prop) (db db' : Database) : Prop where
  ids : db.ids = db'.ids
  table : ∀ name, db.table name = db'.table name
  names : ∀ name, name ∈ db'.tableNames ↔ name ∈ db.tableNames ∨ extra name

namespace Alike

theorem insert (h : Alike extra db db') (name : String) (values : Row) :
    Alike extra (db.insert name values).2 (db'.insert name values).2 where
  ids := by
    change ((db.table name).push db.ids values).2.2 = ((db'.table name).push db'.ids values).2.2
    rw [h.table, h.ids]
  table key := by rw [Database.table_of_insert, Database.table_of_insert, h.table, h.table, h.ids]
  names key := by
    rw [Database.mem_tableNames_insert, Database.mem_tableNames_insert, h.names, or_right_comm]

theorem change (h : Alike extra db db') (name : String) {f : Table → Table}
    (hf : f .empty = .empty) : Alike extra (db.change name f) (db'.change name f) where
  ids := (db.ids_change name f).trans (h.ids.trans (db'.ids_change name f).symm)
  table key := by
    rw [db.table_of_change key name hf, db'.table_of_change key name hf, h.table, h.table]
  names key := Database.mem_tableNames_change.trans
    ((h.names key).trans (or_congr_left Database.mem_tableNames_change.symm))

theorem answer (h : Alike extra db db') (c : Call) :
    (Database.answer c db).1 = (Database.answer c db').1 ∧
      Alike extra (Database.answer c db).2 (Database.answer c db').2 := by
  refine ⟨Database.reply_congr h.ids (h.table c.table), ?_⟩
  cases c with
  | insert name values => exact h.insert name values
  | update name values filter => exact h.change name (Table.update_empty values filter)
  | delete name filter => exact h.change name rfl
  | select name filter limit => exact h
  | selectSingle name filter => exact h
  | count name filter => exact h

theorem carryOut (h : Alike extra db db') {α : Type} (nothing : α)
    (shape : (call : Call) → Except Store.Error call.Reply → Except DocQuery.Error α) (plan : Plan) :
    (plan.carryOut Database.server nothing shape db).1 =
        (plan.carryOut Database.server nothing shape db').1 ∧
      Alike extra (plan.carryOut Database.server nothing shape db).2
        (plan.carryOut Database.server nothing shape db').2 := by
  cases plan with
  | fail e => exact ⟨rfl, h⟩
  | idle => exact ⟨rfl, h⟩
  | call c => exact ⟨congrArg (shape c) (h.answer c).1, (h.answer c).2⟩

/-- The one operation that may show a difference asks for the names of the tables. -/
theorem perform (h : Alike extra db db') (settings : EngineSettings) (o : Operation) :
    (o ≠ .tableNames ∨ (∀ name, ¬ extra name) →
        (o.perform settings db).1 = (o.perform settings db').1) ∧
      Alike extra (o.perform settings db).2 (o.perform settings db').2 := by
  cases o with
  | parse text args => exact ⟨fun _ => rfl, h⟩
  | ask mode text args =>
      obtain ⟨hresult, hafter⟩ := h.carryOut mode.empty mode.shape (.ofStatement settings mode text args)
      simp only [Operation.perform, Engine.ask_eq]
      exact ⟨fun _ => hresult, hafter⟩
  | update table values filter =>
      obtain ⟨houtcome, hafter⟩ := h.carryOut .nothing Outcome.shape
        (.ofIntent (.update table values filter) .run)
      simp only [Operation.perform, Engine.update, Engine.executeIntent_eq]
      exact ⟨fun _ => congrArg (Except.map _) houtcome, hafter⟩
  | intent i mode =>
      obtain ⟨hresult, hafter⟩ := h.carryOut .nothing Outcome.shape (.ofIntent i mode)
      simp only [Operation.perform, Engine.executeIntent_eq]
      exact ⟨fun _ => hresult, hafter⟩
  | pipeline executors i mode =>
      obtain ⟨hresult, hafter⟩ := h.carryOut .nothing Outcome.shape (.ofExecutors executors i mode)
      simp only [Operation.perform, execute_eq]
      exact ⟨fun _ => hresult, hafter⟩
  | call c => exact ⟨fun _ => (h.answer c).1, (h.answer c).2⟩
  | tableNames =>
      refine ⟨fun hsame => ?_, h⟩
      have hextra := hsame.resolve_left fun hne => hne rfl
      refine congrArg Except.ok (Database.tableNames_eq_of_mem_iff fun name => ?_)
      rw [h.names, or_iff_left (hextra name)]

theorem run (h : Alike extra db db') (settings : EngineSettings) (os : List Operation) :
    Alike extra (Operation.run settings os db) (Operation.run settings os db') := by
  induction os generalizing db db' with
  | nil => exact h
  | cons o os ih => exact ih (h.perform settings o).2

end Alike

end DocQuery.Store
