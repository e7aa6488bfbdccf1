import DocQuery.Proofs.Store.SerialIds
import DocQuery.Proofs.Store.Unchanged

namespace DocQuery.Store

variable {settings : EngineSettings} {db start : Database} {name : String}

/-- The id that a row gets in its insertion into a table, if an operation inserts one without an id. -/
def Operation.generated? (settings : EngineSettings) (o : Operation) (db : Database) (name : String) :
    Option Json :=
  match o.plan settings with
  | .call (.insert table values) =>
    if table = name ∧ values.id? = none then ((db.insert table values).1.head?).bind Row.id? else none
  | _ => none

def Table.HasId (t : Table) (n : Int) : Prop :=
  n < 0x8000000000000000 ∧
    ∃ row ∈ t.rows, ∃ lower upper, row.get? idColumn = some (.number (.int n lower upper))

theorem Table.Covers.lt_nextId {t : Table} (h : t.Covers) (hlast : t.lastId ≠ Int64.maxValue) {n : Int}
    (hn : t.HasId n) : n < t.nextId.toInt := by
  obtain ⟨hlt, row, hrow, lower, upper, hid⟩ := hn
  rw [toInt_nextId hlast]
  exact Int.lt_add_one_of_le (h row hrow n lower upper hid hlt)

theorem Table.hasId_of_identified {t t' : Table} {values : Row}
    (hrow : t.identified values ∈ t'.rows) : t'.HasId t.nextId.toInt := by
  have hlt := t.nextId.toInt_lt
  exact ⟨by omega, _, hrow, _, _, t.get?_identified values⟩

namespace Operation

/-- Operations come one after another, and the ids of a table do not run out. -/
def Room (settings : EngineSettings) (name : String) : Database → List Operation → Prop
  | _, [] => True
  | db, o :: os =>
    ¬ (o.plan settings).Overflows db name ∧ Room settings name (o.perform settings db).2 os

theorem room_append_iff {os os' : List Operation} : Room settings name db (os ++ os') ↔
    Room settings name db os ∧ Room settings name (run settings os db) os' := by
  induction os generalizing db with
  | nil => exact (and_iff_right trivial).symm
  | cons o os ih =>
      rw [List.cons_append, Room, ih, ← and_assoc]
      rfl

end Operation

theorem Reachable.run (h : Reachable name db) {os : List Operation}
    (hroom : Operation.Room settings name db os) : Reachable name (Operation.run settings os db) := by
  induction os generalizing db with
  | nil => exact h
  | cons o os ih => exact ih (.step db h settings o hroom.1) hroom.2

theorem Reachable.lastId_le_perform (h : Reachable name db) {o : Operation}
    (hroom : ¬ (o.plan settings).Overflows db name) :
    (db.table name).lastId ≤ ((o.perform settings db).2.table name).lastId := by
  rcases o.perform_state settings db with hs | ⟨c, hc, hs, -⟩
  · rw [hs]
    exact Int64.le_refl _
  · rw [hc] at hroom
    rw [hs]
    exact Database.lastId_le_answer h.covers.1 hroom

theorem Reachable.lastId_le_run (h : Reachable name db) {os : List Operation}
    (hroom : Operation.Room settings name db os) :
    (db.table name).lastId ≤ ((Operation.run settings os db).table name).lastId := by
  induction os generalizing db with
  | nil => exact Int64.le_refl _
  | cons o os ih =>
      exact Int64.le_trans (h.lastId_le_perform hroom.1)
        (ih (.step db h settings o hroom.1) hroom.2)

theorem Reachable.eq_of_generated? (h : Reachable name db) {o : Operation} {id : Json}
    (hid : o.generated? settings db name = some id) (hroom : ¬ (o.plan settings).Overflows db name) :
    id = .ofInt64 (db.table name).nextId ∧ (db.table name).lastId ≠ Int64.maxValue ∧ ∃ values,
      (o.perform settings db).2.table name =
        ⟨(db.table name).rows ++ [(db.table name).identified values], (db.table name).nextId⟩ := by
  rw [Operation.generated?] at hid
  split at hid
  · rename_i table values hc
    split at hid
    · rename_i hnew
      obtain ⟨rfl, hvalues⟩ := hnew
      have hpush := (db.table table).push_of_id?_eq_none hvalues
      rw [← h.covers.1] at hpush
      have hrows : (db.insert table values).1 = [(db.table table).identified values] := by
        rw [Database.insert, hpush]
      rw [hrows] at hid
      rw [hc] at hroom
      refine ⟨?_, fun hlast => hroom ⟨rfl, hvalues, hlast⟩, values, ?_⟩
      · exact (Option.some.inj (((db.table table).id?_identified values).symm.trans hid)).symm
      · rw [Operation.perform_of_plan hc]
        change (db.insert table values).2.table table = _
        rw [Database.table_of_insert, if_pos rfl, hpush]
    · cases hid
  · cases hid

/-- As long as the ids of a table do not run out, each id that is generated for it is above all that
came before: in the rows of a seed, and in a run above every integer with sign of 64 bits that was the
id of a row at any time, and above every id that was generated. -/
theorem generated_above_history (settings : EngineSettings) :
    (∀ rows row, Row.id? row = none → Table.empty.Room (rows ++ [row]) →
      let t := Database.seedTable rows
      (t.push .serial row).1.id? = some (.ofInt64 t.nextId) ∧ ∀ m, t.HasId m → m < t.nextId.toInt) ∧
    ∀ name start, Reachable name start → ∀ (os : List Operation) (o : Operation) id,
      let db := Operation.run settings os start
      Operation.Room settings name start (os ++ [o]) → o.generated? settings db name = some id →
      ∃ n : Int64, id = .ofInt64 n ∧ 0 < n ∧ ((o.perform settings db).2.table name).HasId n.toInt ∧
        (∀ before after, os = before ++ after → ∀ m,
          ((Operation.run settings before start).table name).HasId m → m < n.toInt) ∧
        ∀ before o' after, os = before ++ o' :: after → ∀ id',
          o'.generated? settings (Operation.run settings before start) name = some id' →
          ∃ m : Int64, id' = .ofInt64 m ∧ m < n := by
  constructor
  · intro rows row hrow hroom t
    obtain ⟨hrows, hlast⟩ := room_concat_iff.mp hroom
    rw [t.push_of_id?_eq_none hrow]
    exact ⟨t.id?_identified row,
      fun m => (covers_seedTable hrows).lt_nextId fun hfull => hlast ⟨hrow, hfull⟩⟩
  · intro name start hstart os o id db hroom hid
    obtain ⟨hos, ho, -⟩ := Operation.room_append_iff.mp hroom
    have hdb : Reachable name db := hstart.run hos
    obtain ⟨rfl, hlast, values, htable⟩ := hdb.eq_of_generated? hid ho
    have hnext : (db.table name).lastId < (db.table name).nextId := by
      rw [Int64.lt_iff_toInt_lt, Table.toInt_nextId hlast]
      exact Int.lt_add_one_of_le (Int.le_refl _)
    refine ⟨_, rfl, Int64.lt_of_le_of_lt hdb.zero_le_lastId hnext, ?_, ?_, ?_⟩
    · rw [htable]
      exact Table.hasId_of_identified (List.mem_append_right _ List.mem_cons_self)
    · rintro before after rfl m hm
      obtain ⟨hbefore, hafter⟩ := Operation.room_append_iff.mp hos
      have h' := hstart.run hbefore
      have hle := h'.lastId_le_run hafter
      rw [← Operation.run_append] at hle
      obtain ⟨hlt, row, hrow, lower, upper, hm⟩ := hm
      have hcovered := h'.covers.2 row hrow m lower upper hm hlt
      rw [Table.toInt_nextId hlast]
      exact Int.lt_add_one_of_le (Int.le_trans hcovered (Int64.le_iff_toInt_le.mp hle))
    · rintro before o' after rfl id' hid'
      obtain ⟨hbefore, ho', hafter⟩ := Operation.room_append_iff.mp hos
      have h' := hstart.run hbefore
      obtain ⟨rfl, -, values', htable'⟩ := h'.eq_of_generated? hid' ho'
      -- Behind the earlier operation the counter is the id that was generated.
      have hle := (Reachable.step _ h' settings o' ho').lastId_le_run hafter
      rw [htable'] at hle
      have hrun : Operation.run settings after
          (o'.perform settings (Operation.run settings before start)).2 = db :=
        (Operation.run_append settings before (o' :: after) start).symm
      rw [hrun] at hle
      exact ⟨_, rfl, Int64.lt_of_le_of_lt hle hnext⟩

def identifiedBy (n : Nat) : Row := TextMap.empty.insert idColumn (.ofNat n)

def comingAndGoing : List Operation :=
  [.call (.insert "t" (identifiedBy 7)), .call (.update "t" (identifiedBy 9) ⟨idColumn, .ofNat 7⟩),
    .call (.delete "t" ⟨idColumn, .ofNat 9⟩)]

theorem generated_above_removed_ids :
    let db := Operation.run .standard comingAndGoing (.empty .serial)
    let o : Operation := .ask .run "INSERT INTO \"t\" ( \"name\" ) VALUES ( 'b' )" []
    (db.table "t").rows = [] ∧ o.generated? .standard db "t" = some (.ofInt64 10) ∧
      ∃ n : Int64, Json.ofInt64 10 = .ofInt64 n ∧ 7 < n.toInt ∧ 9 < n.toInt := by
  intro db o
  have hplan : o.plan .standard = .call (.insert "t" (TextMap.empty.insert "name" (.string "b"))) := by
    rw [Operation.plan, Plan.ofStatement, parse_insertion_of_name]
    rfl
  have hid : o.generated? .standard db "t" = some (.ofInt64 10) := by
    rw [Operation.generated?, hplan]
    decide +kernel
  have hroom : Operation.Room .standard "t" (.empty .serial) (comingAndGoing ++ [o]) := by
    refine Operation.room_append_iff.mpr ⟨⟨?_, id, id, trivial⟩, ?_, trivial⟩
    · rintro ⟨-, h, -⟩
      cases h
    · rw [hplan]
      rintro ⟨-, -, h⟩
      exact absurd h (by decide +kernel)
  obtain ⟨n, hn, -, -, habove, -⟩ := (generated_above_history .standard).2 "t" (.empty .serial) .empty
    comingAndGoing o (.ofInt64 10) hroom hid
  have h7 : ((Operation.run .standard (comingAndGoing.take 1) (.empty .serial)).table "t").HasId 7 :=
    ⟨by decide, identifiedBy 7, by decide +kernel, by decide, by decide, by decide +kernel⟩
  have h9 : ((Operation.run .standard (comingAndGoing.take 2) (.empty .serial)).table "t").HasId 9 :=
    ⟨by decide, identifiedBy 9, by decide +kernel, by decide, by decide, by decide +kernel⟩
  exact ⟨by decide +kernel, hid, n, hn, habove (comingAndGoing.take 1) (comingAndGoing.drop 1) rfl 7 h7,
    habove (comingAndGoing.take 2) (comingAndGoing.drop 2) rfl 9 h9⟩

end DocQuery.Store
