import DocQuery.Proofs.Sql.Binding
import DocQuery.Proofs.Store.Commutation
import DocQuery.Proofs.Store.Unchanged

namespace DocQuery

open Sql (Arguments)
open Sql.Grammar
open Store (Database Table)

variable {db db' : Database} {name : String} {values row : Row} {filter : Predicate}

/-- What an update may make of a row: a row that satisfies the filter as it was takes the new values
and keeps its other columns, and no other row changes. -/
inductive Row.Revised (values : Row) (filter : Predicate) (row : Row) : Row → Prop
  | kept (h : filter.holds row = false) : Revised values filter row row
  | changed (row' : Row) (h : filter.holds row = true)
      (hcolumns : ∀ column, row'.get? column = (values.get? column).or (row.get? column)) :
      Revised values filter row row'

def Row.newId? (row values : Row) : Option Json :=
  ((values.get? idColumn).or (row.get? idColumn)).filter fun id => !id.isNull

namespace Store

structure Updated (name : String) (values : Row) (filter : Predicate) (db : Database)
    (result : RunResult) (db' : Database) : Prop where
  changes : result.changes = (db.table name).rows.countP filter.holds
  id : result.id = ((db.table name).rows.find? filter.holds).bind (Row.newId? · values)
  rows : List.Forall₂ (Row.Revised values filter) (db.table name).rows (db'.table name).rows
  others : ∀ other, other ≠ name → db'.tables.get? other = db.tables.get? other
  tables : ∀ table, (db'.tables.get? table).isSome = (db.tables.get? table).isSome
  ids : db'.ids = db.ids

theorem id?_overlay (values row : Row) : Row.id? (row.overlay values) = row.newId? values := by
  rw [Row.id?, TextMap.get?_overlay, Row.newId?]
  cases (values.get? idColumn).or (row.get? idColumn) with
  | none => rfl
  | some id => cases id <;> rfl

theorem Table.revised_revise (values : Row) (filter : Predicate) (row : Row) :
    Row.Revised values filter row (revise values filter row) := by
  rw [revise]
  cases h : filter.holds row with
  | true => exact .changed _ h fun column => TextMap.get?_overlay row values column
  | false => exact .kept h

namespace Database

theorem updated_update (db : Database) (name : String) (values : Row) (filter : Predicate) :
    Updated name values filter db
      ⟨((db.table name).updated values filter).head?.bind Row.id?,
        ((db.table name).updated values filter).length⟩ (db.update name values filter).2 where
  changes := Table.length_updated _ _ _
  id := by
    change ((db.table name).updated values filter).head?.bind Row.id? = _
    rw [Table.updated, List.head?_map, List.head?_filter, Option.bind_map]
    congr 1
    funext row
    exact id?_overlay values row
  rows := by
    rw [table_of_update, if_pos rfl, Table.rows_update, List.forall₂_map_right_iff, List.forall₂_same]
    exact fun row _ => Table.revised_revise values filter row
  others other h := get?_change_of_ne h _
  tables table := isSome_get?_change db name table _
  ids := ids_change db name _

end Database

end Store

/-- An accepted update has the assigned columns and the condition of its tokens. Run as a statement
or called for directly, it changes the rows that satisfied the condition before, and nothing else,
and it reports their number and the id that the first of them has then. -/
theorem update_effect (settings : EngineSettings) (db : Database) :
    let engine := Engine.mk settings Database.server
    (∀ text args intent, Sql.parse text args = .ok intent → intent.verb = .update →
      ∃ d : Revision, Sql.tokenize text = .ok d.tokens ∧
        intent = .update d.name.table (d.setValues args) (d.predicate args) ∧
        ∀ column, ((d.setValues args).get? column).isSome ↔
          column ∈ d.assignments.items.map (·.column.value)) ∧
    ∀ name values filter, ∃ result db',
      engine.update name values filter db = (.ok result, db') ∧
      (∀ text args, Sql.parse text args = .ok (.update name values filter) →
        engine.run text args db = (.ok result, db')) ∧
      Store.Updated name values filter db result db' := by
  intro engine
  refine ⟨fun text args intent hp hverb => ?_, fun name values filter => ?_⟩
  · obtain ⟨d, hts, hintent⟩ := Sql.exists_revision hp hverb
    exact ⟨d, hts, hintent, d.setValues_isSome_iff args⟩
  · exact ⟨_, _, rfl, fun text args hp => Store.run_update settings hp db,
      Database.updated_update db name values filter⟩

def threeRowsWithIds : Database :=
  ⟨.serial, .ofList [("t", ⟨[(1, 7), (2, 8), (3, 7)].map fun (id, a) =>
    .ofList [(idColumn, .ofNat id), ("a", .ofNat a)], 3⟩)]⟩

theorem update_effect_of_two_rows :
    let values : Row := .ofList [("a", .ofNat 8), (idColumn, .null)]
    ∃ db', (Engine.mk .standard Database.server).run
        "UPDATE \"t\" SET \"a\" = ? , \"id\" = NULL WHERE \"a\" = ?"
        [.ofNat 8, .ofNat 7] threeRowsWithIds = (.ok ⟨none, 2⟩, db') ∧
      (db'.table "t").rows = [values, .ofList [(idColumn, .ofNat 2), ("a", .ofNat 8)], values] := by
  intro values
  have hp : Sql.parse "UPDATE \"t\" SET \"a\" = ? , \"id\" = NULL WHERE \"a\" = ?"
      [.ofNat 8, .ofNat 7] = .ok (.update "t" values ⟨"a", .ofNat 7⟩) :=
    Sql.Draft.parse_eq (.update "t" ⟨("a", .argument (.ofNat 8)), [(idColumn, .null)]⟩
      ("a", .argument (.ofNat 7))) (Sql.spells_spaced [.word "UPDATE" false, .word "t" true,
        .word "SET" false, .word "a" true, .equal, .placeholder, .comma, .word "id" true, .equal,
        .word "NULL" false, .word "WHERE" false, .word "a" true, .equal, .placeholder])
  obtain ⟨-, heffect⟩ := update_effect .standard threeRowsWithIds
  obtain ⟨result, db', hupdate, hrun, hupdated⟩ := heffect "t" values ⟨"a", .ofNat 7⟩
  have hresult : result = ⟨none, 2⟩ := by
    cases result
    rw [RunResult.mk.injEq]
    exact ⟨hupdated.id.trans (by decide +kernel), hupdated.changes.trans (by decide +kernel)⟩
  rw [hresult] at hrun hupdate
  refine ⟨db', hrun _ _ hp, ?_⟩
  rw [← (Prod.mk.inj hupdate).2]
  decide +kernel

end DocQuery
