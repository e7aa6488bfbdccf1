import DocQuery.Proofs.Sql.Sources
import DocQuery.Proofs.Store.Updates

namespace DocQuery

open Sql (Arguments)
open Sql.Grammar
open Store (Database Table)

variable {db db' : Database} {text name : String} {args : Arguments} {filter : Predicate}

namespace Store

/-- A database before and behind a deletion. -/
structure Deleted (name : String) (filter : Predicate) (db db' : Database) : Prop where
  rows : (db'.table name).rows = (db.table name).rows.filter fun row => !filter.holds row
  others : ∀ other, other ≠ name → db'.tables.get? other = db.tables.get? other
  tables : ∀ table, (db'.tables.get? table).isSome = (db.tables.get? table).isSome
  lastIds : ∀ table, (db'.table table).lastId = (db.table table).lastId
  ids : db'.ids = db.ids

theorem Database.deleted_delete (db : Database) (name : String) (filter : Predicate) :
    Deleted name filter db (db.delete name filter).2 where
  rows := by
    rw [table_of_delete, if_pos rfl]
    rfl
  others other h := get?_change_of_ne h _
  tables table := isSome_get?_change db name table _
  lastIds table := by
    rw [table_of_delete]
    split
    · rename_i h
      rw [h]
      rfl
    · rfl
  ids := ids_change db name _

theorem Deleted.wanted_eq_nil (h : Deleted name filter db db') :
    (db'.table name).rows.filter (Row.wanted (some filter)) = [] := by
  rw [h.rows, List.filter_filter, List.filter_eq_nil_iff]
  intro row _
  change ¬ (filter.holds row && !filter.holds row) = true
  simp

theorem Deleted.select_eq_nil (h : Deleted name filter db db') (limit : Option Nat) :
    (db'.table name).select (some filter) limit = [] := by
  cases limit with
  | none => exact h.wanted_eq_nil
  | some n =>
      change List.take n ((db'.table name).rows.filter (Row.wanted (some filter))) = []
      rw [h.wanted_eq_nil, List.take_nil]

theorem Deleted.count_eq_zero (h : Deleted name filter db db') :
    (db'.table name).count (some filter) = 0 := by
  rw [Table.count, h.wanted_eq_nil]
  rfl

end Store

/-- An accepted deletion reports the number that the count of its rows gave before. Behind it the
count is zero and the list is empty, and all other rows, tables and counters are as they were. -/
theorem delete_effect (settings : EngineSettings) (db : Database) :
    let engine := Engine.mk settings Database.server
    (∀ text args intent, Sql.parse text args = .ok intent → intent.verb = .delete →
      ∃ d : Removal, Sql.tokenize text = .ok d.tokens ∧
        intent = .delete d.name.table (d.predicate args) ∧
        ∀ text' (q : Query), Sql.tokenize text' = .ok q.tokens → q.About d →
          (q.projection.IsCount →
            Sql.parse text' args = .ok (.count d.name.table (some (d.predicate args)))) ∧
          (q.projection.IsAll → Sql.parse text' args =
            .ok (.select d.name.table (some (d.predicate args)) (q.limit.map fun l => l.2.value)))) ∧
    ∀ name filter,
      let changes := (db.table name).rows.countP filter.holds
      ∃ db', Store.Deleted name filter db db' ∧
      (∀ text args, Sql.parse text args = .ok (.delete name filter) →
        engine.run text args db = (.ok ⟨none, changes⟩, db')) ∧
      (∀ text args, Sql.parse text args = .ok (.count name (some filter)) →
        ∃ before behind : Row, before.keys = ["count"] ∧ behind.keys = ["count"] ∧
          before.get? "count" = some (.ofNat changes) ∧ behind.get? "count" = some (.ofNat 0) ∧
          engine.all text args db = (.ok [before], db) ∧
          engine.get text args db = (.ok (some before), db) ∧
          engine.all text args db' = (.ok [behind], db') ∧
          engine.get text args db' = (.ok (some behind), db')) ∧
      ∀ text args limit, Sql.parse text args = .ok (.select name (some filter) limit) →
        engine.all text args db' = (.ok [], db') ∧ engine.get text args db' = (.ok none, db') := by
  intro engine
  refine ⟨fun text args intent hp hverb => ?_, fun name filter => ?_⟩
  · obtain ⟨d, hts, hupdate, hargs, hintent⟩ := Sql.exists_removal hp hverb
    exact ⟨d, hts, hintent, fun text' q hq habout => habout.parse hts hupdate hargs hq⟩
  · have hdeleted := Database.deleted_delete db name filter
    rw [List.countP_eq_length_filter]
    refine ⟨_, hdeleted, fun text args hp => Store.run_delete settings hp db,
      fun text args hp => ⟨_, _, Row.keys_ofCount _, Row.keys_ofCount _, Row.get?_ofCount _,
        Row.get?_ofCount _, ?_, ?_, ?_, ?_⟩, fun text args limit hp => ⟨?_, ?_⟩⟩
    · exact Store.all_count settings hp db
    · exact Store.get_count settings hp db
    · rw [Store.all_count settings hp, hdeleted.count_eq_zero]
    · rw [Store.get_count settings hp, hdeleted.count_eq_zero]
    · rw [Store.all_select settings hp, hdeleted.select_eq_nil]
    · rw [Store.get_select settings hp, hdeleted.wanted_eq_nil]
      rfl

theorem delete_effect_of_null :
    let engine := Engine.mk .standard Database.server
    let row : Row := .ofList [("a", .ofNat 1)]
    let db : Database := ⟨.serial, .ofList [("t", ⟨[.empty, row, .ofList [("a", .null)]], 5⟩)]⟩
    ∃ db' counted, counted.get? "count" = some (.ofNat 2) ∧
      engine.all "SELECT COUNT ( * ) FROM \"t\" WHERE \"a\" = ?" [.null] db = (.ok [counted], db) ∧
      engine.run "DELETE FROM \"t\" WHERE \"a\" = ?" [.null] db = (.ok ⟨none, 2⟩, db') ∧
      (db'.table "t").rows = [row] ∧ (db'.table "t").lastId = 5 := by
  intro engine row db
  have hdelete : Sql.parse "DELETE FROM \"t\" WHERE \"a\" = ?" [.null] =
      .ok (.delete "t" ⟨"a", .null⟩) :=
    Sql.Draft.parse_eq (.delete "t" ("a", .argument .null)) (Sql.spells_spaced
      [.word "DELETE" false, .word "FROM" false, .word "t" true, .word "WHERE" false,
        .word "a" true, .equal, .placeholder])
  have hcount : Sql.parse "SELECT COUNT ( * ) FROM \"t\" WHERE \"a\" = ?" [.null] =
      .ok (.count "t" (some ⟨"a", .null⟩)) :=
    Sql.Draft.parse_eq (.count "t" (some ("a", .argument .null))) (Sql.spells_spaced
      [.word "SELECT" false, .word "COUNT" false, .leftParen, .star, .rightParen, .word "FROM" false,
        .word "t" true, .word "WHERE" false, .word "a" true, .equal, .placeholder])
  obtain ⟨-, heffect⟩ := delete_effect .standard db
  obtain ⟨db', hdeleted, hrun, hcounted, -⟩ := heffect "t" ⟨"a", .null⟩
  have hchanges : (db.table "t").rows.countP (Predicate.mk "a" .null).holds = 2 := by decide +kernel
  rw [hchanges] at hrun hcounted
  obtain ⟨counted, -, -, -, htwo, -, hall, -⟩ := hcounted _ _ hcount
  refine ⟨db', counted, htwo, hall, hrun _ _ hdelete, ?_, ?_⟩
  · rw [hdeleted.rows]
    decide +kernel
  · rw [hdeleted.lastIds]
    decide +kernel

end DocQuery
