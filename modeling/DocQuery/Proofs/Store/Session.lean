import DocQuery.Proofs.Store.Seed
import DocQuery.Proofs.Store.Unchanged

namespace DocQuery

open Sql (Arguments)
open Store (Database)

variable {db : Database} {name : String}

/-- A plan to insert a row for which a table needs an id beyond the largest integer. -/
def Plan.Overflows (db : Database) (name : String) : Plan → Prop
  | call (.insert table values) => table = name ∧ (db.table name).Overflows values
  | _ => False

namespace Store

/-- The databases with serial ids that sessions come to, from an empty one or from a seed, as long as
the ids of a table do not run out. -/
inductive Reachable (name : String) : Database → Prop
  | empty : Reachable name (.empty .serial)
  | seeded (document : Json) (db : Database) (h : Database.ofJson document = .ok db)
      (hroom : Table.empty.Room (Database.seededRows document name)) : Reachable name db
  | step (db : Database) (h : Reachable name db) (settings : EngineSettings) (o : Operation)
      (hroom : ¬ (o.plan settings).Overflows db name) : Reachable name (o.perform settings db).2

namespace Database

theorem table_insert (ids : IdSource) (tables : TextMap Table) (name key : String) (t : Table) :
    (Database.mk ids (tables.insert key t)).table name =
      if name = key then t else (Database.mk ids tables).table name := by
  rw [table, TextMap.get?_insert]
  by_cases h : name = key
  · rw [if_pos h, if_pos h, Option.getD_some]
  · rw [if_neg h, if_neg h, table]

theorem table_change (db : Database) (name key : String) (f : Table → Table) :
    (db.change key f).table name = db.table name ∨
      name = key ∧ (db.change key f).table name = f (db.table name) := by
  rw [change]
  cases ht : db.tables.get? key with
  | none => exact Or.inl rfl
  | some t =>
      by_cases h : name = key
      · subst h
        refine Or.inr ⟨rfl, ?_⟩
        rw [table_insert, if_pos rfl, table, ht, Option.getD_some]
      · refine Or.inl ?_
        simp only [table_insert, if_neg h]

theorem ids_change (db : Database) (key : String) (f : Table → Table) :
    (db.change key f).ids = db.ids := by
  rw [change]
  cases db.tables.get? key <;> rfl

theorem table_of_change (db : Database) (name key : String) {f : Table → Table}
    (h : f .empty = .empty) :
    (db.change key f).table name = if name = key then f (db.table key) else db.table name := by
  cases ht : db.tables.get? key with
  | none =>
      have hkey : db.table key = .empty := by rw [table, ht, Option.getD_none]
      simp only [change, ht, hkey, h]
      split
      · rename_i hname
        rw [hname, hkey]
      · rfl
  | some t =>
      have hkey : db.table key = t := by rw [table, ht, Option.getD_some]
      simp only [change, ht, table_insert, hkey]

theorem table_of_update (db : Database) (name key : String) (values : Row) (filter : Predicate) :
    (db.update key values filter).2.table name =
      if name = key then (db.table key).update values filter else db.table name :=
  table_of_change db name key (Table.update_empty values filter)

theorem table_of_delete (db : Database) (name key : String) (filter : Predicate) :
    (db.delete key filter).2.table name =
      if name = key then (db.table key).delete filter else db.table name :=
  table_of_change db name key rfl

theorem table_of_insert (name key : String) (values : Row) :
    (db.insert key values).2.table name =
      if name = key then ((db.table key).push db.ids values).2.1 else db.table name :=
  table_insert _ _ _ _ _

theorem answer_table (call : Call) (db : Database) (name : String) :
    ((answer call db).2.table name = db.table name) ∨
    (∃ values, call = .insert name values ∧
      (answer call db).2.table name = ((db.table name).push db.ids values).2.1) ∨
    (∃ values filter, (answer call db).2.table name = (db.table name).update values filter) ∨
    ∃ filter, (answer call db).2.table name = (db.table name).delete filter := by
  cases call with
  | insert key values =>
      have h : (answer (.insert key values) db).2.table name = _ := table_of_insert name key values
      by_cases hk : name = key
      · subst hk
        exact Or.inr (Or.inl ⟨values, rfl, by rw [h, if_pos rfl]⟩)
      · exact Or.inl (by rw [h, if_neg hk])
  | update key values filter =>
      rcases table_change db name key (·.update values filter) with h | ⟨-, h⟩
      · exact Or.inl h
      · exact Or.inr (Or.inr (Or.inl ⟨values, filter, h⟩))
  | delete key filter =>
      rcases table_change db name key (·.delete filter) with h | ⟨-, h⟩
      · exact Or.inl h
      · exact Or.inr (Or.inr (Or.inr ⟨filter, h⟩))
  | select key filter limit => exact Or.inl rfl
  | selectSingle key filter => exact Or.inl rfl
  | count key filter => exact Or.inl rfl

theorem answer_ids (call : Call) (h : db.ids = .serial) : (answer call db).2.ids = .serial := by
  cases call with
  | insert key values =>
      change ((db.table key).push db.ids values).2.2 = .serial
      rw [h]
      simp only [Table.push, Table.identify]
      cases values.id? with
      | none => rfl
      | some id => rfl
  | update key values filter => exact (ids_change db key _).trans h
  | delete key filter => exact (ids_change db key _).trans h
  | select key filter limit => exact h
  | selectSingle key filter => exact h
  | count key filter => exact h

theorem lastId_le_answer (h : db.ids = .serial) {call : Call}
    (hroom : ¬ (Plan.call call).Overflows db name) :
    (db.table name).lastId ≤ ((answer call db).2.table name).lastId := by
  rcases answer_table call db name with ht | ⟨values, rfl, ht⟩ | ⟨values, filter, ht⟩ | ⟨filter, ht⟩
  · rw [ht]
    exact Int64.le_refl _
  · rw [ht, h]
    exact Table.lastId_le_push fun hfull => hroom ⟨rfl, hfull⟩
  · rw [ht]
    exact Table.lastId_le_update _ values filter
  · rw [ht]
    exact Int64.le_refl _

end Database

/-- What holds of an empty table and survives every change of a table holds in all sessions. -/
theorem Reachable.table_invariant {P : Table → Prop} (hempty : P .empty)
    (hpush : ∀ t row, P t → ¬ t.Overflows row → P (t.push .serial row).2.1)
    (hupdate : ∀ t values filter, P t → P (t.update values filter))
    (hdelete : ∀ t filter, P t → P (t.delete filter)) (h : Reachable name db) :
    db.ids = .serial ∧ P (db.table name) := by
  induction h with
  | empty => exact ⟨rfl, hempty⟩
  | seeded document db h hroom =>
      rw [Database.table_eq_seedTable h]
      exact ⟨(Database.table_ofJson h name).1, seedTable_invariant hempty hpush hroom⟩
  | step db h settings o hroom ih =>
      obtain ⟨hids, ht⟩ := ih
      rcases o.perform_state settings db with hs | ⟨call, hcall, hs, -⟩
      · rw [hs]
        exact ⟨hids, ht⟩
      · rw [hs]
        rw [hcall] at hroom
        refine ⟨Database.answer_ids call hids, ?_⟩
        rcases Database.answer_table call db name with h | ⟨values, rfl, h⟩ | ⟨values, filter, h⟩ |
          ⟨filter, h⟩
        · rw [h]
          exact ht
        · rw [h, hids]
          exact hpush _ values ht fun hfull => hroom ⟨rfl, hfull⟩
        · rw [h]
          exact hupdate _ values filter ht
        · rw [h]
          exact hdelete _ filter ht

variable {text : String} {args : Arguments}

theorem run_insert (settings : EngineSettings) {values : Row}
    (hp : Sql.parse text args = .ok (.insert name values)) (db : Database) :
    (Engine.mk settings Database.server).run text args db =
      (.ok ⟨((db.table name).push db.ids values).1.id?, 1⟩, (db.insert name values).2) := by
  have hask : (Engine.mk settings Database.server).ask .run text args db = _ :=
    Engine.ask_of_parse settings Database.server hp rfl rfl db
  exact hask

theorem run_update (settings : EngineSettings) {values : Row} {filter : Predicate}
    (hp : Sql.parse text args = .ok (.update name values filter)) (db : Database) :
    (Engine.mk settings Database.server).run text args db =
      (.ok ⟨((db.table name).updated values filter).head?.bind Row.id?,
        ((db.table name).updated values filter).length⟩, (db.update name values filter).2) := by
  have hask : (Engine.mk settings Database.server).ask .run text args db = _ :=
    Engine.ask_of_parse settings Database.server hp rfl rfl db
  exact hask

theorem run_delete (settings : EngineSettings) {filter : Predicate}
    (hp : Sql.parse text args = .ok (.delete name filter)) (db : Database) :
    (Engine.mk settings Database.server).run text args db =
      (.ok ⟨none, ((db.table name).rows.filter filter.holds).length⟩,
        (db.delete name filter).2) := by
  have hask : (Engine.mk settings Database.server).ask .run text args db = _ :=
    Engine.ask_of_parse settings Database.server hp rfl rfl db
  exact hask

theorem selectSingle_eq (db : Database) (name : String) (filter : Option Predicate) :
    db.selectSingle name filter =
      match ((db.table name).rows.filter (Row.wanted filter)).head? with
      | some row => .ok row
      | none => .error (.notFound name) := by
  rw [Database.selectSingle, Table.select]
  cases (db.table name).rows.filter (Row.wanted filter) with
  | nil => rfl
  | cons row rows => rfl

theorem get_select (settings : EngineSettings) {filter : Option Predicate} {limit : Option Nat}
    (hp : Sql.parse text args = .ok (.select name filter limit)) (db : Database) :
    (Engine.mk settings Database.server).get text args db =
      (.ok ((db.table name).rows.filter (Row.wanted filter)).head?, db) := by
  have hask : (Engine.mk settings Database.server).ask .get text args db =
      (Mode.shape .get (.selectSingle name filter) (db.selectSingle name filter), db) :=
    Engine.ask_of_parse settings Database.server hp rfl rfl db
  refine hask.trans ?_
  rw [selectSingle_eq]
  cases ((db.table name).rows.filter (Row.wanted filter)).head? with
  | none => rfl
  | some row => rfl

theorem all_select (settings : EngineSettings) {filter : Option Predicate} {limit : Option Nat}
    (hp : Sql.parse text args = .ok (.select name filter limit)) (db : Database) :
    (Engine.mk settings Database.server).all text args db =
      (.ok ((db.table name).select filter limit), db) := by
  have hask : (Engine.mk settings Database.server).ask .all text args db = _ :=
    Engine.ask_of_parse settings Database.server hp rfl rfl db
  exact hask

theorem get_count (settings : EngineSettings) {filter : Option Predicate}
    (hp : Sql.parse text args = .ok (.count name filter)) (db : Database) :
    (Engine.mk settings Database.server).get text args db =
      (.ok (some (Row.ofCount ((db.table name).count filter))), db) := by
  have hask : (Engine.mk settings Database.server).ask .get text args db = _ :=
    Engine.ask_of_parse settings Database.server hp rfl rfl db
  exact hask

theorem all_count (settings : EngineSettings) {filter : Option Predicate}
    (hp : Sql.parse text args = .ok (.count name filter)) (db : Database) :
    (Engine.mk settings Database.server).all text args db =
      (.ok [Row.ofCount ((db.table name).count filter)], db) := by
  have hask : (Engine.mk settings Database.server).ask .all text args db = _ :=
    Engine.ask_of_parse settings Database.server hp rfl rfl db
  exact hask

end Store

end DocQuery
