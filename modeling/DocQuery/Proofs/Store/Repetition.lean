import DocQuery.Proofs.Store.Updates

namespace DocQuery

open Sql (Arguments)
open Store (Database Table)

variable {values : Row} {filter : Predicate}

/-- A row that satisfies the condition still does so with the new values. -/
def Predicate.survives (filter : Predicate) (values : Row) : Bool :=
  match values.get? filter.column with
  | some value => value.looselyEqual filter.value
  | none => true

namespace Store.Table

variable {t : Table}

theorem overlay_overlay (row values : Row) : (row.overlay values).overlay values = row.overlay values := by
  refine TextMap.ext fun column => ?_
  rw [TextMap.get?_overlay, TextMap.get?_overlay, ← Option.or_assoc, Option.or_self]

theorem holds_overlay {row : Row} (h : filter.holds row = true) :
    filter.holds (row.overlay values) = filter.survives values := by
  rw [Predicate.holds, TextMap.get?_overlay, Predicate.survives]
  cases values.get? filter.column with
  | none => exact h
  | some value => rfl

theorem revise_of_holds {row : Row} (h : filter.holds row = true) :
    revise values filter row = row.overlay values :=
  if_pos h

theorem revise_of_not_holds {row : Row} (h : filter.holds row = false) :
    revise values filter row = row := by
  rw [revise, h]
  rfl

theorem holds_revise_self (values : Row) (filter : Predicate) (row : Row) :
    filter.holds (revise values filter row) = (filter.holds row && filter.survives values) := by
  cases h : filter.holds row with
  | true => rw [revise_of_holds h, holds_overlay h, Bool.true_and]
  | false => rw [revise_of_not_holds h, h, Bool.false_and]

theorem revise_revise (values : Row) (filter : Predicate) (row : Row) :
    revise values filter (revise values filter row) = revise values filter row := by
  cases h : filter.holds row with
  | false => rw [revise_of_not_holds h, revise_of_not_holds h]
  | true =>
      rw [revise_of_holds h, revise]
      split
      · exact overlay_overlay row values
      · rfl

theorem updated_update (t : Table) (values : Row) (filter : Predicate) :
    (t.update values filter).updated values filter =
      if filter.survives values then t.updated values filter else [] := by
  have hmeets : filter.holds ∘ revise values filter =
      fun row => filter.holds row && filter.survives values := by
    funext row
    exact holds_revise_self values filter row
  rw [updated, rows_update, List.filter_map, hmeets, List.map_map]
  cases filter.survives values with
  | false => simp
  | true =>
      simp only [Bool.and_true, if_true, updated]
      refine List.map_congr_left fun row hrow => ?_
      rw [Function.comp_apply, revise_of_holds (List.mem_filter.mp hrow).2, overlay_overlay]

theorem update_update (t : Table) (values : Row) (filter : Predicate) :
    (t.update values filter).update values filter = t.update values filter := by
  apply Table.ext
  · simp only [rows_update, List.map_map]
    exact List.map_congr_left fun row _ => revise_revise values filter row
  · rw [lastId_update (t.update values filter), updated_update]
    by_cases hnone : (t.updated values filter).isEmpty = true
    · rw [List.isEmpty_iff.mp hnone, ite_self]
      rfl
    · -- whether or not a row is met again, the id was counted the first time
      rw [lastId_update t, if_neg hnone, max_max_self, ite_self]

end Store.Table

namespace Store.Database

theorem update_update (db : Database) (name : String) (values : Row) (filter : Predicate) :
    (db.update name values filter).2.update name values filter =
      (if filter.survives values then (db.update name values filter).1 else [],
        (db.update name values filter).2) := by
  have htable := db.table_of_update name name values filter
  rw [if_pos rfl] at htable
  have htwice : (fun t : Table => (t.update values filter).update values filter) =
      fun t => t.update values filter := by
    funext t
    exact t.update_update values filter
  refine Prod.ext ?_ ?_
  · change ((db.update name values filter).2.table name).updated values filter = _
    rw [htable, Table.updated_update]
    rfl
  · change (db.change name _).change name _ = db.change name _
    rw [change_change, htwice]

end Store.Database

/-- An update that is made again leaves the database as the first one left it, with the order of its
rows and its counters. It meets the same rows again and makes the same of them if they still satisfy
the condition, and otherwise it meets none. So do a call of the store, a call of the engine and a
statement. -/
theorem update_idempotent (db : Database) (name : String) (values : Row) (filter : Predicate) :
    ∃ rows db', Database.answer (.update name values filter) db = (.ok rows, db') ∧
      Database.answer (.update name values filter) db' =
        (.ok (if filter.survives values then rows else []), db') ∧
      ∀ settings, let engine := Engine.mk settings Database.server
        ∃ result, engine.update name values filter db = (.ok result, db') ∧
          engine.update name values filter db' =
            (.ok (if filter.survives values then result else .empty), db') ∧
          ∀ text args, Sql.parse text args = .ok (.update name values filter) →
            engine.run text args db = (.ok result, db') ∧
            engine.run text args db' =
              (.ok (if filter.survives values then result else .empty), db') := by
  let rows := (db.update name values filter).1
  let db' := (db.update name values filter).2
  have hagain : db'.update name values filter = (if filter.survives values then rows else [], db') :=
    db.update_update name values filter
  refine ⟨rows, db', rfl, ?_, fun settings => ?_⟩
  · change (Except.ok (db'.update name values filter).1, (db'.update name values filter).2) = _
    rw [hagain]
  · intro engine
    have hupdate (db : Database) : engine.update name values filter db =
        (.ok ((Outcome.rows (db.update name values filter).1).runResult .update),
          (db.update name values filter).2) := rfl
    have hresult : (Outcome.rows (if filter.survives values then rows else [])).runResult .update =
        if filter.survives values then (Outcome.rows rows).runResult .update else .empty := by
      split <;> rfl
    have htwice : engine.update name values filter db' = (.ok (if filter.survives values then
        (Outcome.rows rows).runResult .update else .empty), db') := by
      rw [hupdate, hagain, hresult]
    refine ⟨_, hupdate db, htwice, fun text args hp => ⟨?_, ?_⟩⟩
    · exact Store.run_update settings hp db
    · rw [← htwice]
      exact Store.run_update settings hp db'

theorem update_idempotent_of_two_rows :
    let engine := Engine.mk .standard Database.server
    let text := "UPDATE \"t\" SET \"a\" = ? , \"id\" = ? WHERE \"a\" = ?"
    let args : Arguments := [.ofNat 8, .ofNat 9, .ofNat 7]
    ∃ db', engine.run text args threeRowsWithIds = (.ok ⟨some (.ofNat 9), 2⟩, db') ∧
      engine.run text args db' = (.ok ⟨none, 0⟩, db') ∧ (db'.table "t").lastId = 9 := by
  intro engine text args
  let values : Row := .ofList [("a", .ofNat 8), (idColumn, .ofNat 9)]
  let filter : Predicate := ⟨"a", .ofNat 7⟩
  have hp : Sql.parse "UPDATE \"t\" SET \"a\" = ? , \"id\" = ? WHERE \"a\" = ?" args =
      .ok (.update "t" values filter) :=
    Sql.Draft.parse_eq (.update "t" ⟨("a", .argument (.ofNat 8)), [(idColumn, .argument (.ofNat 9))]⟩
      ("a", .argument (.ofNat 7))) (Sql.spells_spaced [.word "UPDATE" false, .word "t" true,
        .word "SET" false, .word "a" true, .equal, .placeholder, .comma, .word "id" true, .equal,
        .placeholder, .word "WHERE" false, .word "a" true, .equal, .placeholder])
  obtain ⟨rows, db', hanswer, -, hstatements⟩ := update_idempotent threeRowsWithIds "t" values filter
  obtain ⟨result, hupdate, -, hruns⟩ := hstatements .standard
  obtain ⟨hrun, hrun'⟩ := hruns text args hp
  have hresult : result = ⟨some (.ofNat 9), 2⟩ :=
    (Except.ok.inj (Prod.mk.inj hupdate).1).symm.trans (by decide +kernel)
  have hsurvives : filter.survives values = false := by decide +kernel
  refine ⟨db', by rw [hrun, hresult], ?_, ?_⟩
  · rw [hrun', hsurvives]
    rfl
  · rw [← (Prod.mk.inj hanswer).2]
    decide +kernel

end DocQuery
