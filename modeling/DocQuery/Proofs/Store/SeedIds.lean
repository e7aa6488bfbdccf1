import DocQuery.Proofs.Store.SerialIds
import Mathlib.Data.List.Nodup

namespace DocQuery.Store

open Database (seedTable seededRows)

variable {db : Database} {document : Json} {rows : List Row} {row : Row}

/-- The ids that are written in the rows of a seed are distinct natural numbers, and there is room
above each of them for an id of every row among the integers with sign of 64 bits. -/
structure WrittenIds (rows : List Row) : Prop where
  room : rows.length < 0x7FFFFFFFFFFFFFFF
  natural : ∀ id ∈ rows.filterMap Row.id?,
    ∃ n, id = .ofNat n ∧ n + rows.length < 0x7FFFFFFFFFFFFFFF
  distinct : (rows.filterMap Row.id?).Nodup

theorem WrittenIds.of_naturals (ns : List Nat) (h : rows.filterMap Row.id? = ns.map .ofNat)
    (hroom : rows.length < 0x7FFFFFFFFFFFFFFF)
    (hns : ∀ n ∈ ns, n + rows.length < 0x7FFFFFFFFFFFFFFF) (hdistinct : (ns.map Json.ofNat).Nodup) :
    WrittenIds rows where
  room := hroom
  natural id hid := by
    rw [h] at hid
    obtain ⟨n, hn, rfl⟩ := List.mem_map.mp hid
    exact ⟨n, rfl, hns n hn⟩
  distinct := h ▸ hdistinct

def largestId (rows : List Row) : Int64 :=
  ((rows.filterMap Row.id?).map serialOf).foldl max 0

theorem largestId_concat (rows : List Row) (row : Row) :
    largestId (rows ++ [row]) =
      row.id?.elim (largestId rows) fun id => max (largestId rows) (serialOf id) := by
  rw [largestId, largestId, List.filterMap_append, List.map_append, List.foldl_append]
  cases h : row.id? with
  | none => simp [h]
  | some id => simp [h]

theorem serialOf_ofInt64 (n : Int64) : serialOf (.ofInt64 n) = n := by
  have hlt := n.toInt_lt
  exact (if_pos (by omega)).trans n.ofInt_toInt

theorem toInt_serialOf_ofNat {n : Nat} (h : n < 0x8000000000000000) :
    (serialOf (.ofNat n)).toInt = n := by
  rw [Json.ofNat, Number.ofNat_eq (by omega), serialOf, if_pos (by omega)]
  exact Int64.toInt_ofInt_of_le (by omega) (by omega)

theorem WrittenIds.of_front {before : List Row} (h : WrittenIds rows) (hbefore : before <+: rows) :
    WrittenIds before where
  room := Nat.lt_of_le_of_lt hbefore.length_le h.room
  natural id hid := by
    obtain ⟨n, hn, hroom⟩ := h.natural id ((hbefore.sublist.filterMap _).mem hid)
    have hlength := hbefore.length_le
    exact ⟨n, hn, by omega⟩
  distinct := h.distinct.sublist (hbefore.sublist.filterMap _)

theorem rows_seedTable_append (before after : List Row) :
    (seedTable before).rows <+: (seedTable (before ++ after)).rows := by
  induction after using List.reverseRecOn with
  | nil => rw [List.append_nil]
  | append_singleton after row ih =>
      rw [← List.append_assoc, seedTable_concat, Table.rows_push]
      exact ih.trans (List.prefix_append _ _)

theorem take_seedTable (rows : List Row) (i : Nat) :
    (seedTable rows).rows.take i = (seedTable (rows.take i)).rows := by
  have hfront := rows_seedTable_append (rows.take i) (rows.drop i)
  rw [List.take_append_drop, List.prefix_iff_eq_take, length_seedTable, List.length_take] at hfront
  rw [hfront, List.take_eq_take_iff, length_seedTable]
  omega

theorem getElem?_seedTable {i : Nat} (h : rows[i]? = some row) :
    (seedTable rows).rows[i]? = some ((seedTable (rows.take i)).push .serial row).1 := by
  obtain ⟨hi, -⟩ := List.getElem?_eq_some_iff.mp h
  have htake : rows.take (i + 1) = rows.take i ++ [row] := by
    rw [List.take_add_one, h, Option.toList_some]
  have hlength : (seedTable (rows.take i)).rows.length = i := by
    rw [length_seedTable, List.length_take_of_le (Nat.le_of_lt hi)]
  rw [← List.getElem?_take_of_lt (Nat.lt_succ_self i), take_seedTable, htake, seedTable_concat,
    Table.rows_push, List.getElem?_append_right (Nat.le_of_eq hlength), hlength, Nat.sub_self]
  rfl

theorem ne_maxValue {n : Int64} (h : n.toInt < 0x7FFFFFFFFFFFFFFF) : n ≠ Int64.maxValue := by
  rintro rfl
  rw [Int64.toInt_maxValue] at h
  omega

theorem lastId_seedTable_le {bound : Nat} (hbound : bound + rows.length < 0x8000000000000000)
    (h : ∀ row ∈ rows, ∀ id, row.id? = some id → (serialOf id).toInt ≤ bound) :
    (seedTable rows).lastId.toInt ≤ bound + rows.length := by
  induction rows using List.reverseRecOn with
  | nil => exact Int.natCast_nonneg _
  | append_singleton rows row ih =>
      rw [List.length_append, List.length_singleton] at hbound ⊢
      have hrows := ih (by omega) fun r hr => h r (List.mem_append_left _ hr)
      rw [seedTable_concat, Table.lastId_push]
      cases hid : row.id? with
      | none =>
          rw [Option.elim_none, Table.toInt_nextId (ne_maxValue (by omega))]
          omega
      | some id =>
          have hle := h row (by simp) id hid
          rw [Option.elim_some, toInt_max]
          omega

theorem WrittenIds.lastId_ne (h : WrittenIds rows) : (seedTable rows).lastId ≠ Int64.maxValue := by
  have hroom := h.room
  have hle : (seedTable rows).lastId.toInt ≤
      ((0x7FFFFFFFFFFFFFFE - rows.length : Nat) : Int) + rows.length := by
    refine lastId_seedTable_le (by omega) fun row hrow id hid => ?_
    obtain ⟨n, rfl, hn⟩ := h.natural id (List.mem_filterMap.mpr ⟨row, hrow, hid⟩)
    rw [toInt_serialOf_ofNat (by omega)]
    omega
  exact ne_maxValue (by omega)

theorem WrittenIds.table_room (h : WrittenIds rows) : Table.empty.Room rows := by
  induction rows using List.reverseRecOn with
  | nil => trivial
  | append_singleton rows row ih =>
      have hrows : WrittenIds rows := h.of_front (List.prefix_append _ _)
      exact room_concat_iff.mpr ⟨ih hrows, fun hfull => hrows.lastId_ne hfull.2⟩

/-- The counter stands at the largest id, whether that was written or given. -/
theorem WrittenIds.lastId_eq (h : WrittenIds rows) :
    (seedTable rows).lastId = largestId (seedTable rows).rows := by
  induction rows using List.reverseRecOn with
  | nil => rfl
  | append_singleton rows row ih =>
      have hrows : WrittenIds rows := h.of_front (List.prefix_append _ _)
      rw [seedTable_concat, Table.lastId_push, Table.rows_push, largestId_concat, ← ih hrows]
      cases hid : row.id? with
      | none =>
          have hnew : ((seedTable rows).identified row).id? = _ := Table.id?_identified _ row
          -- there is room for the id that is given, so that it counts like one that is written
          rw [Table.push_of_id?_eq_none _ hid, Option.elim_none, hnew, Option.elim_some, serialOf_ofInt64,
            ← Int64.toInt_inj, toInt_max, Table.toInt_nextId hrows.lastId_ne]
          omega
      | some id => rw [Table.push_of_id?_eq_some _ hid, hid, Option.elim_some, Option.elim_some]

def idBehind (rows : List Row) : Json :=
  .ofInt64 (largestId rows + 1)

namespace WrittenIds

variable {i j : Nat} {row' : Row}

theorem id?_ne (h : WrittenIds rows) (hij : i < j) (hi : rows[i]? = some row)
    (hj : rows[j]? = some row') {id : Json} (hid : row.id? = some id) : row'.id? ≠ some id := by
  intro hid'
  obtain ⟨hlt, rfl⟩ := List.getElem?_eq_some_iff.mp hi
  obtain ⟨hlt', rfl⟩ := List.getElem?_eq_some_iff.mp hj
  have hpairs := List.pairwise_iff_getElem.mp (List.pairwise_filterMap.mp h.distinct)
  exact hpairs i j hlt hlt' hij id hid id hid' rfl

theorem idBehind_eq (h : WrittenIds rows) (i : Nat) :
    idBehind ((seedTable rows).rows.take i) = .ofInt64 (seedTable (rows.take i)).nextId := by
  rw [idBehind, take_seedTable, ← (h.of_front (List.take_prefix i rows)).lastId_eq, Table.nextId]

theorem loaded (h : WrittenIds rows) (hrow : rows[i]? = some row) :
    (seedTable rows).rows[i]? = some (if row.id?.isSome then row
      else row.insert idColumn (idBehind ((seedTable rows).rows.take i))) := by
  rw [getElem?_seedTable hrow, h.idBehind_eq]
  cases hid : row.id? with
  | none => rw [Table.push_of_id?_eq_none _ hid]; rfl
  | some id => rw [Table.push_of_id?_eq_some _ hid]; rfl

theorem loaded_id (h : WrittenIds rows) (hrow : rows[i]? = some row) :
    ((seedTable rows).rows.map Row.id?)[i]? =
      some (some (row.id?.getD (idBehind ((seedTable rows).rows.take i)))) := by
  rw [List.getElem?_map, h.loaded hrow]
  cases hid : row.id? with
  | none =>
      have hnew := Table.id?_identified (seedTable (rows.take i)) row
      rw [Table.identified, ← h.idBehind_eq] at hnew
      exact congrArg some hnew
  | some id => exact congrArg some hid

theorem idBehind_fresh (h : WrittenIds rows) (hij : i < j) (hi : rows[i]? = some row) :
    row.id?.getD (idBehind ((seedTable rows).rows.take i)) ≠
      idBehind ((seedTable rows).rows.take j) := by
  intro he
  have hj : WrittenIds (rows.take j) := h.of_front (List.take_prefix j rows)
  have hid := h.loaded_id hi
  rw [he, h.idBehind_eq, ← List.getElem?_take_of_lt hij, ← List.map_take, take_seedTable,
    List.getElem?_map, Option.map_eq_some_iff] at hid
  obtain ⟨r, hr, hid⟩ := hid
  exact (covers_seedTable hj.table_room).id?_ne hj.lastId_ne r (List.mem_of_getElem? hr) hid

theorem nodup_iff (h : WrittenIds rows) : ((seedTable rows).rows.map Row.id?).Nodup ↔
    ∀ i j row row', i < j → rows[i]? = some row → rows[j]? = some row' → row.id? = none →
      row'.id? ≠ some (idBehind ((seedTable rows).rows.take i)) := by
  rw [List.nodup_iff_getElem?_ne_getElem?]
  constructor
  · intro hne i j row row' hij hi hj hrow hrow'
    obtain ⟨hlt, -⟩ := List.getElem?_eq_some_iff.mp hj
    refine hne i j hij (by rwa [List.length_map, length_seedTable]) ?_
    rw [h.loaded_id hi, h.loaded_id hj, hrow, hrow', Option.getD_none, Option.getD_some]
  · intro hne i j hij hj he
    rw [List.length_map, length_seedTable] at hj
    obtain ⟨row, hi⟩ : ∃ row, rows[i]? = some row :=
      ⟨_, List.getElem?_eq_getElem (Nat.lt_trans hij hj)⟩
    obtain ⟨row', hj⟩ : ∃ row', rows[j]? = some row' := ⟨_, List.getElem?_eq_getElem hj⟩
    rw [h.loaded_id hi, h.loaded_id hj, Option.some.injEq, Option.some.injEq] at he
    -- an id that is given is above those in front of it, and two that are written differ
    cases hrow' : row'.id? with
    | none =>
        rw [hrow', Option.getD_none] at he
        exact h.idBehind_fresh hij hi he
    | some id' =>
        cases hrow : row.id? with
        | none =>
            rw [hrow, hrow', Option.getD_none, Option.getD_some] at he
            exact hne i j row row' hij hi hj hrow (hrow'.trans (congrArg some he.symm))
        | some id =>
            rw [hrow, hrow', Option.getD_some, Option.getD_some] at he
            exact h.id?_ne hij hi hj hrow (hrow'.trans (congrArg some he.symm))

end WrittenIds

/-- The rows of a seed keep their order and the ids that are written in them. A row without one gets
the id behind the largest one in front of it. If the ids that are written are distinct, all are,
unless one is written behind the row that has got it. -/
theorem seeded_ids_distinct_iff (h : Database.ofJson document = .ok db) (name : String)
    (hids : WrittenIds (seededRows document name)) :
    let written := seededRows document name
    let loaded := (db.table name).rows
    loaded.length = written.length ∧
    (∀ i (row : Row), written[i]? = some row → loaded[i]? = some (if row.id?.isSome then row
      else row.insert idColumn (idBehind (loaded.take i)))) ∧
    ((loaded.map Row.id?).Nodup ↔ ∀ i j (row row' : Row), i < j → written[i]? = some row →
      written[j]? = some row' → row.id? = none → row'.id? ≠ some (idBehind (loaded.take i))) := by
  rw [Database.table_eq_seedTable h]
  exact ⟨length_seedTable _, fun i row => hids.loaded, hids.nodup_iff⟩

def mixedSeed : Json :=
  .object [("t", .array [.object [("id", .ofNat 5)], .object [], .object [("id", .ofNat 3)],
    .object [("id", .null)]])]

theorem seeded_ids_distinct_of_mixed :
    ∃ db, Database.ofJson mixedSeed = .ok db ∧
      (db.table "t").rows[3]? = some (.ofList [("id", .ofNat 7)]) ∧
      ((db.table "t").rows.map Row.id?).Nodup := by
  have hids : WrittenIds (seededRows mixedSeed "t") :=
    .of_naturals [5, 3] (by decide +kernel) (by decide +kernel) (by decide +kernel) (by decide +kernel)
  obtain ⟨-, hrows, hdistinct⟩ :=
    seeded_ids_distinct_iff (show Database.ofJson mixedSeed = .ok _ from rfl) "t" hids
  refine ⟨_, rfl, (hrows 3 (.ofList [("id", .null)]) (by decide +kernel)).trans (by decide +kernel), ?_⟩
  refine hdistinct.mpr fun i j row row' hij hi hj hrow hrow' => ?_
  have hwritten : ∀ j < (seededRows mixedSeed "t").length, ∀ i < j,
      (seededRows mixedSeed "t")[i]?.bind Row.id? = none →
        (seededRows mixedSeed "t")[j]?.bind Row.id? ≠
          some (idBehind ((Database.seedTable (seededRows mixedSeed "t")).rows.take i)) := by
    decide +kernel
  obtain ⟨hlt, -⟩ := List.getElem?_eq_some_iff.mp hj
  exact hwritten j hlt i hij (by rw [hi]; exact hrow) (by rw [hj]; exact hrow')

def lateIdSeed : Json :=
  .object [("t", .array [.object [("name", .string "a")],
    .object [("id", .ofNat 1), ("name", .string "b")]])]

/-- The ids that are written are distinct, and those of the rows that are loaded are not. -/
theorem written_id_given_in_front :
    WrittenIds (seededRows lateIdSeed "t") ∧ ∃ db, Database.ofJson lateIdSeed = .ok db ∧
      (db.table "t").rows.map Row.id? = [some (.ofNat 1), some (.ofNat 1)] ∧
      ¬ ((db.table "t").rows.map Row.id?).Nodup :=
  ⟨.of_naturals [1] (by decide +kernel) (by decide +kernel) (by decide +kernel) (by decide +kernel),
    _, rfl, by decide +kernel, by decide +kernel⟩

end DocQuery.Store
