import DocQuery.Proofs.Store.Alike

namespace DocQuery

open Store (DecodeError)

namespace Json

def IsRows : Json → Prop
  | .array items => ∀ item ∈ items, item.toRow?.isSome
  | _ => False

instance : DecidablePred IsRows
  | .array items => inferInstanceAs (Decidable (∀ item ∈ items, item.toRow?.isSome))
  | .null | .bool _ | .number _ | .string _ | .object _ => isFalse id

end Json

namespace Store

variable {db : Database} {document value : Json} {name : String}

/-- What is wrong first with the rows of a table in a seed document. -/
inductive RowsFault (name : String) (value : Json) : DecodeError → Prop
  | rows (h : ∀ items, value ≠ .array items) : RowsFault name value (.seedNotRows name)
  | row (before after : List Json) (item : Json) (h : value = .array (before ++ item :: after))
      (hbefore : ∀ x ∈ before, x.toRow?.isSome) (hitem : item.toRow? = none) :
      RowsFault name value (.seedNotRow name)

/-- What is wrong first with a seed document. Its members come in the order of their keys. -/
inductive SeedFault (document : Json) : DecodeError → Prop
  | document (h : document.toRow? = none) : SeedFault document .seedNotObject
  | member (tables : TextMap Json) (before after : List (String × Json)) (name : String)
      (value : Json) (cause : DecodeError) (h : document.toRow? = some tables)
      (hentries : tables.entries = before ++ (name, value) :: after)
      (hbefore : ∀ e ∈ before, e.2.IsRows) (hvalue : RowsFault name value cause) :
      SeedFault document cause

namespace Database

theorem exists_seedRow_iff {item : Json} :
    (∃ row, seedRow name item = .ok row) ↔ item.toRow?.isSome := by
  rw [seedRow]
  cases item.toRow? <;> simp

theorem seedRow_eq_error_iff {item : Json} {e : Error} :
    seedRow name item = .error e ↔ item.toRow? = none ∧ e = .decode (.seedNotRow name) := by
  rw [seedRow]
  cases item.toRow? <;> simp [eq_comm]

theorem exists_seedRows_iff (name : String) :
    (∃ rows, seedRows name value = .ok rows) ↔ value.IsRows := by
  cases value with
  | array items =>
      rw [seedRows_array, exists_mapM_iff]
      simp only [exists_seedRow_iff]
      rfl
  | _ => exact iff_of_false nofun id

theorem seedRows_eq_error_iff {e : Error} :
    seedRows name value = .error e ↔ ∃ cause, e = .decode cause ∧ RowsFault name value cause := by
  by_cases hvalue : ∃ items, value = .array items
  · obtain ⟨items, rfl⟩ := hvalue
    rw [seedRows_array, mapM_eq_error_iff]
    simp only [exists_seedRow_iff, seedRow_eq_error_iff]
    constructor
    · rintro ⟨before, item, after, rfl, hbefore, hitem, rfl⟩
      exact ⟨_, rfl, .row before after item rfl hbefore hitem⟩
    · rintro ⟨cause, rfl, hcause⟩
      cases hcause with
      | rows h => exact absurd rfl (h items)
      | row before after item h hbefore hitem =>
          exact ⟨before, item, after, Json.array.inj h, hbefore, hitem, rfl⟩
  · have hrows : seedRows name value = .error (.decode (.seedNotRows name)) := by
      cases value with
      | array items => exact absurd ⟨items, rfl⟩ hvalue
      | _ => rfl
    rw [hrows, Except.error.injEq]
    constructor
    · rintro rfl
      exact ⟨_, rfl, .rows fun items h => hvalue ⟨items, h⟩⟩
    · rintro ⟨cause, rfl, hcause⟩
      cases hcause with
      | rows h => rfl
      | row before after item h hbefore hitem => exact absurd ⟨_, h⟩ hvalue

theorem exists_seedEntry_iff {entry : String × Json} :
    (∃ t, seedEntry entry = .ok t) ↔ entry.2.IsRows := by
  rw [← exists_seedRows_iff entry.1]
  simp only [seedEntry, map_eq_ok_iff]
  constructor
  · rintro ⟨t, rows, hrows, -⟩
    exact ⟨rows, hrows⟩
  · rintro ⟨rows, hrows⟩
    exact ⟨_, rows, hrows, rfl⟩

theorem seedEntry_eq_error_iff {entry : String × Json} {e : Error} :
    seedEntry entry = .error e ↔
      ∃ cause, e = .decode cause ∧ RowsFault entry.1 entry.2 cause :=
  map_eq_error_iff.trans seedRows_eq_error_iff

theorem exists_ofJson_iff : (∃ db, ofJson document = .ok db) ↔
    ∃ tables, document.toRow? = some tables ∧ ∀ e ∈ tables.entries, e.2.IsRows := by
  cases hd : document.toRow? with
  | none =>
      rw [ofJson, hd]
      constructor
      · rintro ⟨db, h⟩
        cases h
      · rintro ⟨tables, h, -⟩
        cases h
  | some tables =>
      simp only [ofJson_of_toRow? hd, map_eq_ok_iff, Option.some.injEq, exists_eq_left',
        ← exists_seedEntry_iff, ← exists_mapM_iff]
      constructor
      · rintro ⟨db, seeded, hs, -⟩
        exact ⟨seeded, hs⟩
      · rintro ⟨seeded, hs⟩
        exact ⟨_, seeded, hs, rfl⟩

theorem ofJson_eq_error_iff {e : Error} :
    ofJson document = .error e ↔ ∃ cause, e = .decode cause ∧ SeedFault document cause := by
  cases hd : document.toRow? with
  | none =>
      have h : ofJson document = .error (.decode .seedNotObject) := by rw [ofJson, hd]
      rw [h, Except.error.injEq]
      constructor
      · rintro rfl
        exact ⟨_, rfl, .document hd⟩
      · rintro ⟨cause, rfl, hcause⟩
        cases hcause with
        | document _ => rfl
        | member tables before after name value cause h =>
            rw [hd] at h
            cases h
  | some tables =>
      simp only [ofJson_of_toRow? hd, map_eq_error_iff, mapM_eq_error_iff, exists_seedEntry_iff,
        seedEntry_eq_error_iff]
      constructor
      · rintro ⟨before, ⟨name, value⟩, after, hentries, hbefore, cause, rfl, hvalue⟩
        exact ⟨cause, rfl, .member tables before after name value cause hd hentries hbefore hvalue⟩
      · rintro ⟨cause, rfl, hcause⟩
        cases hcause with
        | document h =>
            rw [hd] at h
            cases h
        | member tables' before after name value cause h hentries hbefore hvalue =>
            obtain rfl : tables = tables' := Option.some.inj (hd.symm.trans h)
            exact ⟨before, (name, value), after, hentries, hbefore, cause, rfl, hvalue⟩

def insertAll (insertions : List (String × Row)) (db : Database) : Database :=
  insertions.foldl (fun db i => (db.insert i.1 i.2).2) db

theorem ids_insert (h : db.ids = .serial) (name : String) (values : Row) :
    (db.insert name values).2.ids = .serial :=
  answer_ids (.insert name values) h

theorem insertAll_serial (h : db.ids = .serial) (insertions : List (String × Row)) :
    (insertAll insertions db).ids = .serial ∧ ∀ name, (insertAll insertions db).table name =
      ((insertions.filter (·.1 = name)).map (·.2)).foldl (fun t row => (t.push .serial row).2.1)
        (db.table name) := by
  induction insertions generalizing db with
  | nil => exact ⟨h, fun name => rfl⟩
  | cons i insertions ih =>
      obtain ⟨hids, htables⟩ := ih (ids_insert h i.1 i.2)
      refine ⟨hids, fun name => (htables name).trans ?_⟩
      rw [table_of_insert, h]
      by_cases hname : i.1 = name
      · rw [if_pos hname.symm, List.filter_cons_of_pos (by simpa using hname), List.map_cons,
          List.foldl_cons, hname]
      · rw [if_neg (Ne.symm hname), List.filter_cons_of_neg (by simpa using hname)]

theorem mem_tableNames_insertAll (insertions : List (String × Row)) (name : String) :
    name ∈ (insertAll insertions db).tableNames ↔
      name ∈ db.tableNames ∨ insertions.filter (·.1 = name) ≠ [] := by
  induction insertions generalizing db with
  | nil => simp [insertAll]
  | cons i insertions ih =>
      refine ih.trans ?_
      by_cases hname : i.1 = name
      · simp [mem_tableNames_insert, hname]
      · simp [mem_tableNames_insert, hname, Ne.symm hname]

end Database

/-- Insertions that bring the rows of a seed document, those of one table in their order. -/
def Replays (document : Json) (insertions : List (String × Row)) : Prop :=
  ∀ name, (insertions.filter (·.1 = name)).map (·.2) = Database.seededRows document name

def insertionsOf (document : Json) (order : List String) : List (String × Row) :=
  order.flatMap fun name => (Database.seededRows document name).map (name, ·)

theorem filter_insertionsOf {order : List String} (h : order.Nodup) (name : String) :
    ((insertionsOf document order).filter (·.1 = name)).map (·.2) =
      if name ∈ order then Database.seededRows document name else [] := by
  induction order with
  | nil => rfl
  | cons first order ih =>
      obtain ⟨hfirst, horder⟩ := List.nodup_cons.mp h
      rw [insertionsOf, List.flatMap_cons, List.filter_append, List.map_append]
      refine (congrArg _ (ih horder)).trans ?_
      by_cases hname : name = first
      · subst hname
        simp [hfirst, List.filter_map, Function.comp_def]
      · simp [hname, Ne.symm hname, List.filter_map, Function.comp_def]

theorem seededRows_eq_nil (h : Database.ofJson document = .ok db) (hname : name ∉ db.tables.keys) :
    Database.seededRows document name = [] := by
  have htable : db.table name = .empty := by
    rw [Database.table]
    cases ht : db.tables.get? name with
    | none => rfl
    | some t => exact absurd (List.mem_map_of_mem (mem_of_lookupEntry ht)) hname
  have hlength := length_seedTable (Database.seededRows document name)
  rw [← Database.table_eq_seedTable h, htable] at hlength
  exact List.eq_nil_of_length_eq_zero hlength.symm

theorem replays_insertionsOf (h : Database.ofJson document = .ok db) {order : List String}
    (horder : order.Perm db.tables.keys) : Replays document (insertionsOf document order) := by
  have hkeys : db.tables.keys.Nodup :=
    List.pairwise_map.mpr (db.tables.ascending.imp fun hlt => String.ne_of_lt hlt)
  intro name
  rw [filter_insertionsOf (horder.nodup_iff.mpr hkeys)]
  split
  · rfl
  · rename_i hname
    exact (seededRows_eq_nil h fun hmem => hname (horder.mem_iff.mpr hmem)).symm

theorem Replays.mem_tableNames {insertions : List (String × Row)}
    (h : Replays document insertions) (name : String) :
    name ∈ (Database.insertAll insertions (.empty .serial)).tableNames ↔
      Database.seededRows document name ≠ [] := by
  rw [← h name, ne_eq, List.map_eq_nil_iff]
  exact (Database.mem_tableNames_insertAll insertions name).trans (or_iff_right List.not_mem_nil)

/-- The seed has also the tables that no insertion creates. -/
theorem Replays.alike (h : Database.ofJson document = .ok db) {insertions : List (String × Row)}
    (hreplays : Replays document insertions) :
    Alike (fun name => name ∈ db.tableNames ∧ Database.seededRows document name = [])
      (Database.insertAll insertions (.empty .serial)) db := by
  have hempty : (Database.empty .serial).ids = .serial := rfl
  obtain ⟨hids, htables⟩ := Database.insertAll_serial hempty insertions
  refine ⟨hids.trans (Database.table_ofJson h "").1.symm, fun name => (htables name).trans ?_,
    fun name => ?_⟩
  · rw [hreplays name, Database.table_eq_seedTable h]
    rfl
  · rw [hreplays.mem_tableNames]
    constructor
    · intro hname
      exact (em (Database.seededRows document name = [])).elim (fun hrows => Or.inr ⟨hname, hrows⟩)
        Or.inl
    · rintro (hrows | hname)
      · exact Decidable.not_not.mp fun hname => hrows (seededRows_eq_nil h hname)
      · exact hname.1

/-- A seed document is accepted if it is an object of arrays of objects, and its first fault is
reported otherwise. A seed has the tables of the document, and it is as good as an empty database
behind the insertions of their rows, but for the names of the tables without rows. -/
theorem seed_replays (document : Json) :
    ((∃ db, Database.ofJson document = .ok db) ↔
      ∃ tables, document.toRow? = some tables ∧ ∀ e ∈ tables.entries, e.2.IsRows) ∧
    (∀ e, Database.ofJson document = .error e ↔
      ∃ cause, e = .decode cause ∧ SeedFault document cause) ∧
    ∀ db, Database.ofJson document = .ok db →
      (∀ tables, document.toRow? = some tables → db.tableNames = tables.keys) ∧
      (∀ order : List String, order.Perm db.tableNames →
        Replays document (insertionsOf document order)) ∧
      ∀ insertions, Replays document insertions →
        let replayed := Database.insertAll insertions (.empty .serial)
        (∀ name, replayed.table name = db.table name) ∧
        (∀ name, name ∈ replayed.tableNames ↔ Database.seededRows document name ≠ []) ∧
        ∀ settings os,
          (∀ o, (o ≠ .tableNames ∨ ∀ name ∈ db.tableNames, Database.seededRows document name ≠ []) →
            (Operation.perform settings o (Operation.run settings os replayed)).1 =
              (Operation.perform settings o (Operation.run settings os db)).1) ∧
          ∀ name, name ∈ (Operation.run settings os db).tableNames ↔
            name ∈ (Operation.run settings os replayed).tableNames ∨
              name ∈ db.tableNames ∧ Database.seededRows document name = [] := by
  refine ⟨Database.exists_ofJson_iff, fun e => Database.ofJson_eq_error_iff, fun db h => ?_⟩
  refine ⟨fun tables hd => Database.keys_ofJson h hd, fun order => replays_insertionsOf h, ?_⟩
  intro insertions hreplays replayed
  have halike := hreplays.alike h
  refine ⟨halike.table, hreplays.mem_tableNames, fun settings os => ⟨fun o hsame => ?_, ?_⟩⟩
  · refine ((halike.run settings os).perform settings o).1 (hsame.imp_right fun hrows name hname => ?_)
    exact hrows name hname.1 hname.2
  · exact (halike.run settings os).names

def ticketsAndNotes : Json :=
  .object [("tickets", .array [.object [("title", .string "a")], .object [("id", .ofNat 7)],
    .object []]), ("notes", .array [])]

/-- The rows are inserted in another order of the tables. Of two faulty members the one whose key
comes first is reported. -/
theorem seed_replays_of_tickets :
    (∃ db, Database.ofJson ticketsAndNotes = .ok db ∧ db.tableNames = ["notes", "tickets"] ∧
      (db.table "tickets").lastId = 8 ∧
      let replayed := Database.insertAll (insertionsOf ticketsAndNotes ["tickets", "notes"])
        (.empty .serial)
      replayed.table "tickets" = db.table "tickets" ∧ "notes" ∉ replayed.tableNames ∧
      ∀ settings os o, o ≠ .tableNames →
        (Operation.perform settings o (Operation.run settings os replayed)).1 =
          (Operation.perform settings o (Operation.run settings os db)).1) ∧
    Database.ofJson (.object [("b", .null), ("a", .array [.object [], .null])]) =
      .error (.decode (.seedNotRow "a")) := by
  constructor
  · obtain ⟨haccepted, -, hseeded⟩ := seed_replays ticketsAndNotes
    obtain ⟨db, hdb⟩ := haccepted.mpr ⟨_, rfl, by decide +kernel⟩
    obtain ⟨hkeys, horders, hreplays⟩ := hseeded db hdb
    have hkeys : db.tableNames = ["notes", "tickets"] := hkeys _ rfl
    have hperm : ["tickets", "notes"].Perm db.tableNames := by
      rw [hkeys]
      exact .swap _ _ _
    obtain ⟨htables, hnames, hresults⟩ := hreplays _ (horders _ hperm)
    refine ⟨db, hdb, hkeys, ?_, htables _, ?_, fun settings os o ho =>
      (hresults settings os).1 o (Or.inl ho)⟩
    · rw [← htables]
      decide +kernel
    · exact fun h => (hnames "notes").mp h (by decide +kernel)
  · obtain ⟨-, hrejected, -⟩ := seed_replays (.object [("b", .null), ("a", .array [.object [], .null])])
    refine (hrejected _).mpr ⟨_, rfl, ?_⟩
    refine .member _ [] [("b", .null)] "a" _ _ rfl rfl nofun ?_
    exact .row [.object []] [] .null rfl (by simp [Json.toRow?]) rfl

/-- A table without rows has a name in the seed, and none behind the insertions of its rows. -/
theorem table_without_rows_named :
    let document : Json := .object [("a", .array [])]
    ∃ db, Database.ofJson document = .ok db ∧ Replays document (insertionsOf document ["a"]) ∧
      (Operation.perform .standard .tableNames db).1 = .ok ["a"] ∧
      (Operation.perform .standard .tableNames
        (Database.insertAll (insertionsOf document ["a"]) (.empty .serial))).1 = .ok [] :=
  ⟨_, rfl, replays_insertionsOf rfl (.refl _), rfl, rfl⟩

end Store

end DocQuery
