import DocQuery.Proofs.Decimal.Rounding
import DocQuery.Proofs.Sql.RoundTrip
import DocQuery.Proofs.Store.Session

namespace DocQuery

open Binary64 (roundedInt)
open Sql (Arguments)
open Store (Database Table)

variable {db : Database} {text name : String} {args : Arguments}

theorem Json.looselyEqual_int_iff {j k : Int} {lower : -0x8000000000000000 ≤ j}
    {upper : j < 0x10000000000000000} {lower' : -0x8000000000000000 ≤ k}
    {upper' : k < 0x10000000000000000} :
    (Json.number (.int j lower upper)).looselyEqual (.number (.int k lower' upper')) = true ↔
      roundedInt j = roundedInt k :=
  Binary64.same_ofInt_iff_roundedInt (by omega) (by omega)

/-- Whether a column of a row equals a value, where two integers are compared after rounding. -/
def Row.meets (column : String) (value : Json) (row : Row) : Bool :=
  match row.get? column, value with
  | some (.number (.int j _ _)), .number (.int k _ _) => roundedInt j = roundedInt k
  | found, value => (found.getD .null).looselyEqual value

theorem Predicate.holds_eq_meets (column : String) (value : Json) :
    (Predicate.mk column value).holds = Row.meets column value := by
  funext row
  unfold holds Row.meets
  split
  · rename_i j lower upper k lower' upper' hrow
    rw [hrow, Option.getD_some, Bool.eq_iff_iff, Json.looselyEqual_int_iff, decide_eq_true_iff]
  · rfl

/-- Two integers are loosely equal exactly if they are the same after rounding to fifty-three bits,
which tells all integers below `2 ^ 53` from all others. Statements with an integer argument meet
the rows that this comparison gives them, and no other rows. -/
theorem integer_filters_rounded (k : Int) (lower : -0x8000000000000000 ≤ k)
    (upper : k < 0x10000000000000000) :
    let value := Json.number (.int k lower upper)
    (∀ j lower' upper', (Json.number (.int j lower' upper')).looselyEqual value = true ↔
      roundedInt j = roundedInt k) ∧
    (∀ j : Int, j.natAbs < 2 ^ 53 ∨ k.natAbs < 2 ^ 53 → (roundedInt j = roundedInt k ↔ j = k)) ∧
    ∀ settings text args name column db,
      let engine := Engine.mk settings Database.server
      let rows := (db.table name).rows
      let met := rows.filter (Row.meets column value)
      (∀ values, Sql.parse text args = .ok (.update name values ⟨column, value⟩) →
        ((engine.run text args db).2.table name).rows =
          rows.map fun row => if row.meets column value then row.overlay values else row) ∧
      (Sql.parse text args = .ok (.delete name ⟨column, value⟩) →
        ((engine.run text args db).2.table name).rows =
          rows.filter fun row => !row.meets column value) ∧
      (∀ limit, Sql.parse text args = .ok (.select name (some ⟨column, value⟩) limit) →
        (engine.get text args db).1 = .ok met.head? ∧
        (engine.all text args db).1 = .ok (limit.elim met met.take)) ∧
      (Sql.parse text args = .ok (.count name (some ⟨column, value⟩)) →
        (engine.get text args db).1 = .ok (some (Row.ofCount met.length)) ∧
        (engine.all text args db).1 = .ok [Row.ofCount met.length]) := by
  intro value
  refine ⟨fun j lower' upper' => Json.looselyEqual_int_iff, fun j => Binary64.roundedInt_eq_iff_of_lt,
    fun settings text args name column db => ?_⟩
  have hholds := Predicate.holds_eq_meets column value
  refine ⟨fun values hp => ?_, fun hp => ?_, fun limit hp => ?_, fun hp => ?_⟩
  · rw [Store.run_update settings hp, Database.table_of_update, if_pos rfl, Table.rows_update, ← hholds]
    rfl
  · rw [Store.run_delete settings hp, Database.table_of_delete, if_pos rfl, Table.delete, hholds]
  · rw [Store.get_select settings hp, Store.all_select settings hp, ← hholds]
    refine ⟨rfl, ?_⟩
    cases limit <;> rfl
  · rw [Store.get_count settings hp, Store.all_count settings hp, ← hholds]
    exact ⟨rfl, rfl⟩

theorem parse_removal_of_id (id : Json) :
    Sql.parse "DELETE FROM \"t\" WHERE \"id\" = ?" [id] = .ok (.delete "t" ⟨idColumn, id⟩) :=
  Sql.Draft.parse_eq (.delete "t" (idColumn, .argument id)) (Sql.spells_spaced
    [.word "DELETE" false, .word "FROM" false, .word "t" true, .word "WHERE" false,
      .word "id" true, .equal, .placeholder])

/-- `2 ^ 53 + 1` and `5` as ids. -/
def largeAndSmallId : Database :=
  ⟨.serial, .ofList [("t", ⟨[9007199254740993, 5].map fun n => .ofList [(idColumn, .ofNat n)],
    9007199254740993⟩)]⟩

theorem integer_filters_rounded_of_ids :
    let engine := Engine.mk .standard Database.server
    let statement := "DELETE FROM \"t\" WHERE \"id\" = ?"
    ((engine.run statement [.number (.int 5 (by decide) (by decide))] largeAndSmallId).2.table "t").rows =
        [.ofList [(idColumn, .ofNat 9007199254740993)]] ∧
      ((engine.run statement [.number (.int 9007199254740992 (by decide) (by decide))]
        largeAndSmallId).2.table "t").rows = [.ofList [(idColumn, .ofNat 5)]] := by
  intro engine statement
  obtain ⟨-, -, hsmall⟩ := integer_filters_rounded 5 (by decide) (by decide)
  obtain ⟨-, -, hlarge⟩ := integer_filters_rounded 9007199254740992 (by decide) (by decide)
  obtain ⟨-, hdelete, -⟩ := hsmall .standard statement _ "t" idColumn largeAndSmallId
  obtain ⟨-, hdelete', -⟩ := hlarge .standard statement _ "t" idColumn largeAndSmallId
  rw [hdelete (parse_removal_of_id _), hdelete' (parse_removal_of_id _)]
  decide +kernel

def rowOfLargeId : Row := .ofList [(idColumn, .ofNat 9007199254740993)]

def databaseOfLargeId : Database :=
  ⟨.serial, .ofList [("t", ⟨[rowOfLargeId], 9007199254740993⟩)]⟩

/-- A removal by an integer takes away a row whose id is another integer. -/
theorem row_of_other_integer_removed :
    Database.ofJson (.object [("t", .array [Json.ofRow rowOfLargeId])]) = .ok databaseOfLargeId ∧
      (∃ db, (Engine.mk .standard Database.server).run "DELETE FROM \"t\" WHERE \"id\" = ?"
        [.ofNat 9007199254740992] databaseOfLargeId = (.ok ⟨none, 1⟩, db) ∧
        (db.table "t").rows = []) ∧
      (Json.ofNat 9007199254740993).looselyEqual (.ofNat 9007199254740992) = true ∧
      Json.ofNat 9007199254740993 ≠ .ofNat 9007199254740992 := by
  have hrun := Store.run_delete .standard (parse_removal_of_id (.ofNat 9007199254740992)) databaseOfLargeId
  have hone : ((databaseOfLargeId.table "t").rows.filter
      (Predicate.mk idColumn (.ofNat 9007199254740992)).holds).length = 1 := by decide +kernel
  rw [hone] at hrun
  exact ⟨rfl, ⟨_, hrun, by decide +kernel⟩, by decide +kernel, by decide⟩

end DocQuery
