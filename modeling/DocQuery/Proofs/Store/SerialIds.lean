import DocQuery.Proofs.LooseEquality
import DocQuery.Proofs.Sql.RoundTrip
import DocQuery.Proofs.Store.Session
import DocQuery.Proofs.Store.Table

namespace DocQuery.Store

variable {t : Table}

/-- The counter of a table has come to every id that is an integer with sign of 64 bits. -/
def Table.Covers (t : Table) : Prop :=
  ∀ row ∈ t.rows, ∀ n lower upper, row.get? idColumn = some (.number (.int n lower upper)) →
    n < 0x8000000000000000 → n ≤ t.lastId.toInt

namespace Table

theorem Covers.of_rows (h : t.Covers) {t' : Table} (hlast : t.lastId ≤ t'.lastId)
    (hrows : ∀ row ∈ t'.rows, (∃ r ∈ t.rows, row.get? idColumn = r.get? idColumn) ∨
      ∀ n lower upper, row.get? idColumn = some (.number (.int n lower upper)) →
        n < 0x8000000000000000 → n ≤ t'.lastId.toInt) : t'.Covers := by
  intro row hrow n lower upper hid hn
  rcases hrows row hrow with ⟨r, hr, he⟩ | hnew
  · have hle := h r hr n lower upper (by rw [← he, hid]) hn
    exact Int.le_trans hle (Int64.le_iff_toInt_le.mp hlast)
  · exact hnew n lower upper hid hn

theorem covers_empty : empty.Covers := by
  intro row hrow
  cases hrow

theorem Covers.push (h : t.Covers) {row : Row} (hroom : ¬ t.Overflows row) :
    (t.push .serial row).2.1.Covers := by
  refine h.of_rows (lastId_le_push hroom) fun r hr => ?_
  rw [rows_push] at hr
  rcases List.mem_append.mp hr with hr | hr
  · exact Or.inl ⟨r, hr, rfl⟩
  · refine Or.inr fun n lower upper he hn => ?_
    obtain rfl := List.mem_singleton.mp hr
    cases hid : row.id? with
    | none =>
        rw [push_of_id?_eq_none t hid] at he ⊢
        rw [get?_identified] at he
        obtain rfl := Number.int.inj (Json.number.inj (Option.some.inj he))
        exact Int.le_refl _
    | some id =>
        rw [push_of_id?_eq_some t hid] at he ⊢
        have hi : id = .number (.int n lower upper) := by
          rw [Row.id?, he] at hid
          cases hid
          rfl
        rw [hi]
        exact le_lastId_observe t hn

theorem Covers.update (h : t.Covers) (values : Row) (filter : Predicate) :
    (t.update values filter).Covers := by
  refine h.of_rows (lastId_le_update t values filter) fun row' hrow' => ?_
  rw [rows_update] at hrow'
  obtain ⟨row, hrow, rfl⟩ := List.mem_map.mp hrow'
  by_cases hf : filter.holds row
  · rw [revise, if_pos hf, TextMap.get?_overlay]
    cases hid : values.get? idColumn with
    | none => exact Or.inl ⟨row, hrow, rfl⟩
    | some id =>
        refine Or.inr fun n lower upper he hn => ?_
        obtain rfl : id = .number (.int n lower upper) := Option.some.inj he
        rw [lastId_update_of_mem hrow hf hid]
        exact le_lastId_observe _ hn
  · rw [revise, if_neg hf]
    exact Or.inl ⟨row, hrow, rfl⟩

theorem Covers.delete (h : t.Covers) (filter : Predicate) : (t.delete filter).Covers := by
  refine h.of_rows (Int64.le_refl _) fun row hrow => ?_
  exact Or.inl ⟨row, (List.mem_filter.mp hrow).1, rfl⟩

end Table

theorem covers_seedTable {rows : List Row} (h : Table.empty.Room rows) :
    (Database.seedTable rows).Covers :=
  seedTable_invariant Table.covers_empty (fun _ _ ht hroom => ht.push hroom) h

namespace Reachable

variable {db : Database} {name : String}

theorem covers (h : Reachable name db) : db.ids = .serial ∧ (db.table name).Covers :=
  h.table_invariant Table.covers_empty (fun _ _ ht hroom => ht.push hroom)
    (fun _ values filter ht => ht.update values filter) (fun _ filter ht => ht.delete filter)

theorem zero_le_lastId (h : Reachable name db) : 0 ≤ (db.table name).lastId :=
  (h.table_invariant (P := fun t => 0 ≤ t.lastId) (Int64.le_refl _)
    (fun _ _ ht hroom => Int64.le_trans ht (Table.lastId_le_push hroom))
    (fun t values filter ht => Int64.le_trans ht (t.lastId_le_update values filter))
    (fun _ _ ht => ht)).2

end Reachable

namespace Table

/-- No row has an id that is loosely equal to the next one. -/
def Fresh (t : Table) : Prop :=
  ∀ row ∈ t.rows, ∀ id, row.id? = some id → id.looselyEqual (.ofInt64 t.nextId) = false

theorem Covers.id?_ne (h : t.Covers) (hnext : t.lastId ≠ Int64.maxValue) :
    ∀ row ∈ t.rows, row.id? ≠ some (.ofInt64 t.nextId) := by
  intro row hrow hid
  have hlt := t.nextId.toInt_lt
  have hle := h row hrow _ _ _ (Row.get?_of_id? hid) (by omega)
  rw [toInt_nextId hnext] at hle
  omega

theorem Covers.ne_identified (h : t.Covers) (hnext : t.lastId ≠ Int64.maxValue) (values : Row) :
    ∀ row ∈ t.rows, row ≠ t.identified values := by
  rintro row hrow rfl
  exact h.id?_ne hnext _ hrow (t.id?_identified values)

theorem head?_filter_concat_iff {p : Row → Bool} {rows : List Row} {row : Row} (hp : p row)
    (hne : ∀ r ∈ rows, r ≠ row) :
    ((rows ++ [row]).filter p).head? = some row ↔ ∀ r ∈ rows, p r = false := by
  rw [List.filter_append, List.head?_append, List.filter_cons_of_pos hp, List.filter_nil,
    List.head?_cons]
  cases hf : rows.filter p with
  | nil =>
      rw [List.filter_eq_nil_iff] at hf
      exact iff_of_true rfl fun r hr => Bool.eq_false_iff.mpr (hf r hr)
  | cons first rest =>
      obtain ⟨hfirst, hpfirst⟩ := List.mem_filter.mp (hf ▸ List.mem_cons_self)
      constructor
      · intro h
        exact absurd (Option.some.inj h) (hne first hfirst)
      · intro h
        rw [h first hfirst] at hpfirst
        cases hpfirst

theorem Covers.find_identified_iff (h : t.Covers) (hnext : t.lastId ≠ Int64.maxValue)
    (values : Row) :
    ((t.rows ++ [t.identified values]).filter
      (Row.wanted (some ⟨idColumn, .ofInt64 t.nextId⟩))).head? = some (t.identified values) ↔
      t.Fresh := by
  have hwanted (row : Row) : Row.wanted (some ⟨idColumn, .ofInt64 t.nextId⟩) row = true ↔
      ∃ id, row.id? = some id ∧ id.looselyEqual (.ofInt64 t.nextId) = true :=
    Predicate.holds_id_iff t.nextId row
  have hnew : Row.wanted (some ⟨idColumn, .ofInt64 t.nextId⟩) (t.identified values) = true :=
    (hwanted _).mpr ⟨_, t.id?_identified values, Json.looselyEqual_ofInt64_self _⟩
  rw [head?_filter_concat_iff hnew (h.ne_identified hnext values)]
  constructor
  · intro hall row hrow id hid
    rw [Bool.eq_false_iff]
    intro he
    have hw := (hwanted row).mpr ⟨id, hid, he⟩
    rw [hall row hrow] at hw
    cases hw
  · intro hfresh row hrow
    rw [Bool.eq_false_iff]
    intro hw
    obtain ⟨id, hid, he⟩ := (hwanted row).mp hw
    rw [hfresh row hrow id hid] at he
    cases he

theorem fresh_iff_standsFor (t : Table) :
    t.Fresh ↔ ∀ row ∈ t.rows, ∀ id, row.id? = some id → ¬ id.StandsFor t.nextId := by
  simp only [Fresh, ← Json.looselyEqual_ofInt64_iff, Bool.not_eq_true]

theorem Covers.fresh_iff (h : t.Covers) (hnext : t.lastId ≠ Int64.maxValue)
    (hsmall : t.nextId.toInt.natAbs < 2 ^ 53) :
    t.Fresh ↔ ∀ row ∈ t.rows, row.id? ≠ some (.string (toString t.nextId.toInt)) ∧
      ∀ x, row.id? = some (.number (.float x)) → x.same (Binary64.ofInt t.nextId.toInt) = false := by
  rw [fresh_iff_standsFor]
  constructor
  · intro hfresh row hrow
    refine ⟨fun hid => hfresh row hrow _ hid rfl, fun x hid => ?_⟩
    exact Bool.eq_false_iff.mpr (hfresh row hrow _ hid)
  · intro hids row hrow id hid hstands
    obtain ⟨htext, hfloat⟩ := hids row hrow
    cases id with
    | string s =>
        obtain rfl : s = toString t.nextId.toInt := hstands
        exact htext hid
    | number x =>
        cases x with
        | float x => exact Bool.eq_false_iff.mp (hfloat x hid) hstands
        | int k lower upper =>
            have hk := (Json.standsFor_int_iff hsmall).mp hstands
            have hle := h row hrow k lower upper (Row.get?_of_id? hid) (by omega)
            rw [hk, toInt_nextId hnext] at hle
            omega
    | _ => exact hstands

end Table

theorem parse_insertion_of_name :
    Sql.parse "INSERT INTO \"t\" ( \"name\" ) VALUES ( 'b' )" [] =
      .ok (.insert "t" (TextMap.empty.insert "name" (.string "b"))) :=
  Sql.Draft.parse_eq (.insert "t" ⟨("name", .text "b"), []⟩ fun _ => .null) (Sql.spells_spaced _)

theorem parse_lookup_of_id (id : Json) :
    Sql.parse "SELECT * FROM \"t\" WHERE \"id\" = ?" [id] =
      .ok (.select "t" (some ⟨idColumn, id⟩) none) :=
  Sql.Draft.parse_eq (.select "t" (some (idColumn, .argument id)) none) (Sql.spells_spaced
    [.word "SELECT" false, .star, .word "FROM" false, .word "t" true, .word "WHERE" false,
      .word "id" true, .equal, .placeholder])

/-- A row that is inserted without an id gets the next one. A look-up of that id finds the row
exactly if no other row has an id that is loosely equal to it: its text or a number of the same
value. Below `2 ^ 53` the number is a floating-point number, as integers have been counted. -/
theorem insert_get_iff (settings : EngineSettings) {name : String} {db : Database}
    (hdb : Reachable name db) {insertion lookup : String} {args : Sql.Arguments} {values : Row}
    (hi : Sql.parse insertion args = .ok (.insert name values)) (hvalues : values.id? = none)
    (hl : ∀ id, Sql.parse lookup [id] = .ok (.select name (some ⟨idColumn, id⟩) none))
    (hlast : (db.table name).lastId < Int64.maxValue) :
    let next := (db.table name).nextId
    0 < next.toInt ∧
    ∃ db', (Engine.mk settings Database.server).run insertion args db =
        (.ok ⟨some (.ofInt64 next), 1⟩, db') ∧
      (((Engine.mk settings Database.server).get lookup [.ofInt64 next] db').1 =
        .ok (some ((db.table name).identified values)) ↔ (db.table name).Fresh) ∧
      ((db.table name).Fresh ↔ ∀ row ∈ (db.table name).rows, ∀ id, row.id? = some id →
        ¬ id.StandsFor next) ∧
      (next.toInt < 2 ^ 53 →
        ((db.table name).Fresh ↔ ∀ row ∈ (db.table name).rows,
          row.id? ≠ some (.string (toString next.toInt)) ∧
          ∀ x, row.id? = some (.number (.float x)) →
            x.same (Binary64.ofInt next.toInt) = false)) := by
  intro next
  obtain ⟨hids, hcovers⟩ := hdb.covers
  have hroom : (db.table name).lastId ≠ Int64.maxValue := (Int64.lt_iff_le_and_ne.mp hlast).2
  have hpositive : 0 < next.toInt := by
    have hzero := Int64.le_iff_toInt_le.mp hdb.zero_le_lastId
    rw [Int64.toInt_zero] at hzero
    rw [Table.toInt_nextId hroom]
    omega
  have hpush : (db.table name).push db.ids values = ((db.table name).identified values,
      ⟨(db.table name).rows ++ [(db.table name).identified values], next⟩, .serial) := by
    rw [hids]
    exact Table.push_of_id?_eq_none _ hvalues
  have htable : (db.insert name values).2.table name =
      ⟨(db.table name).rows ++ [(db.table name).identified values], next⟩ := by
    rw [Database.table_of_insert, if_pos rfl, hpush]
  refine ⟨hpositive, (db.insert name values).2, ?_, ?_, ?_, ?_⟩
  · rw [run_insert settings hi db, hpush, Table.id?_identified]
  · rw [get_select settings (hl _), htable, Except.ok.injEq]
    exact hcovers.find_identified_iff hroom values
  · exact (db.table name).fresh_iff_standsFor
  · intro hsmall
    exact hcovers.fresh_iff hroom (show next.toInt.natAbs < 2 ^ 53 by omega)

def threeTickets : Json :=
  .object [("t", .array [.object [("id", .ofNat 5)], .object [("name", .string "a")],
    .object [("id", .string "8")]])]

/-- Behind the ids `5`, `6` and `"8"` the id `7` is fresh. -/
theorem insert_get_iff_of_tickets :
    ∃ db db', Database.ofJson threeTickets = .ok db ∧ (db.table "t").rows.length = 3 ∧
      (Engine.mk .standard Database.server).run "INSERT INTO \"t\" ( \"name\" ) VALUES ( 'b' )" []
        db = (.ok ⟨some (.ofInt64 7), 1⟩, db') ∧
      ((Engine.mk .standard Database.server).get "SELECT * FROM \"t\" WHERE \"id\" = ?" [.ofInt64 7]
        db').1 = .ok (some (.ofList [("id", .ofInt64 7), ("name", .string "b")])) := by
  have hdocument : Database.ofJson threeTickets = .ok _ := rfl
  obtain ⟨-, db', hrun, hget, -, -⟩ := insert_get_iff .standard
    (.seeded _ _ hdocument (by decide +kernel)) parse_insertion_of_name rfl parse_lookup_of_id
    (by decide +kernel)
  refine ⟨_, db', hdocument, by decide +kernel, hrun, hget.mpr ?_⟩
  rw [Database.table_eq_seedTable hdocument]
  have hother : let t := Database.seedTable (Database.seededRows threeTickets "t")
      ∀ row ∈ t.rows, row.id?.all fun id => !id.looselyEqual (.ofInt64 t.nextId) := by
    decide +kernel
  intro row hrow id hid
  have h := hother row hrow
  rw [hid] at h
  simpa using h

def rowWithFloatId : Row :=
  TextMap.ofList [("id", .number (.float ⟨false, 0x3FF0000000000000, by decide⟩)), ("name", .string "a")]

theorem ofJson_rowWithFloatId :
    Database.ofJson (.object [("t", .array [Json.ofRow rowWithFloatId])]) =
      .ok ⟨.serial, .ofList [("t", ⟨[rowWithFloatId], 0⟩)]⟩ := by
  rfl

/-- The counter does not see the id `1.0`, and a look-up of the new id `1` finds the old row. -/
theorem float_id_found_for_serial_id :
    ∃ db, Database.ofJson (.object [("t", .array [Json.ofRow rowWithFloatId])]) = .ok db ∧
      ∃ db', (Engine.mk .standard Database.server).run
          "INSERT INTO \"t\" ( \"name\" ) VALUES ( 'b' )" [] db = (.ok ⟨some (.ofInt64 1), 1⟩, db') ∧
        ((Engine.mk .standard Database.server).get "SELECT * FROM \"t\" WHERE \"id\" = ?" [.ofInt64 1]
          db').1 = .ok (some rowWithFloatId) ∧
        rowWithFloatId.get? "name" ≠ some (.string "b") := by
  refine ⟨_, ofJson_rowWithFloatId, _, run_insert .standard parse_insertion_of_name _, ?_, by decide⟩
  rw [get_select .standard (parse_lookup_of_id _), Except.ok.injEq]
  decide +kernel

end DocQuery.Store
