import DocQuery.Proofs.Store.Session

namespace DocQuery.Store

variable {db db' : Database} {name : String}

namespace Database

def answerBoth (c d : Call) (db : Database) :
    Except Error c.Reply × Except Error d.Reply × Database :=
  let (r, db) := answer c db
  let (s, db) := answer d db
  (r, s, db)

/-- Two databases that are the same to a caller who knows one table only. -/
structure Agree (name : String) (db db' : Database) : Prop where
  ids : db.ids = db'.ids
  table : db.tables.get? name = db'.tables.get? name

theorem Agree.table_eq (h : Agree name db db') : db.table name = db'.table name := by
  rw [Database.table, Database.table, h.table]

theorem reply_congr {c : Call} (hids : db.ids = db'.ids)
    (h : db.table c.table = db'.table c.table) : (answer c db).1 = (answer c db').1 := by
  cases c with
  | insert name values =>
      have ht : db.table name = db'.table name := h
      simp only [Database.answer, Database.insert, ht, hids]
  | update name values filter =>
      have ht : db.table name = db'.table name := h
      simp only [Database.answer, Database.update, ht]
  | delete name filter =>
      have ht : db.table name = db'.table name := h
      simp only [Database.answer, Database.delete, ht]
  | select name filter limit =>
      have ht : db.table name = db'.table name := h
      simp only [Database.answer, ht]
  | selectSingle name filter =>
      have ht : db.table name = db'.table name := h
      simp only [Database.answer, selectSingle, ht]
  | count name filter =>
      have ht : db.table name = db'.table name := h
      simp only [Database.answer, ht]

theorem Agree.change (h : Agree name db db') (k : Table → Table) :
    Agree name (db.change name k) (db'.change name k) := by
  rw [Database.change, Database.change, ← h.table]
  cases db.tables.get? name with
  | none => exact h
  | some t => exact ⟨h.ids, by simp only [TextMap.get?_insert, if_true]⟩

theorem Agree.insert (h : Agree name db db') (values : Row) :
    Agree name (db.insert name values).2 (db'.insert name values).2 := by
  simp only [Database.insert, h.table_eq, h.ids]
  exact ⟨rfl, by simp only [TextMap.get?_insert, if_true]⟩

theorem Agree.answer {c : Call} (h : Agree c.table db db') :
    (answer c db).1 = (answer c db').1 ∧ Agree c.table (answer c db).2 (answer c db').2 := by
  refine ⟨reply_congr h.ids h.table_eq, ?_⟩
  cases c with
  | insert name values => exact Agree.insert h values
  | update name values filter => exact h.change _
  | delete name filter => exact h.change _
  | select name filter limit => exact h
  | selectSingle name filter => exact h
  | count name filter => exact h

theorem get?_change_of_ne {key : String} (h : name ≠ key) (k : Table → Table) :
    (db.change key k).tables.get? name = db.tables.get? name := by
  rw [change]
  cases db.tables.get? key with
  | none => rfl
  | some t => simp only [TextMap.get?_insert, if_neg h]

theorem isSome_get?_change (db : Database) (key table : String) (f : Table → Table) :
    ((db.change key f).tables.get? table).isSome = (db.tables.get? table).isSome := by
  cases h : db.tables.get? table with
  | none => rw [get?_change_eq_none h]
  | some t =>
      by_cases hkey : table = key
      · subst hkey
        simp [change, h]
      · rw [get?_change_of_ne hkey, h]

theorem get?_answer_of_ne {c : Call} (h : name ≠ c.table) (db : Database) :
    (answer c db).2.tables.get? name = db.tables.get? name := by
  cases c with
  | insert key values =>
      have hkey : name ≠ key := h
      simp only [answer, insert, TextMap.get?_insert, if_neg hkey]
  | update key values filter => exact get?_change_of_ne h _
  | delete key filter => exact get?_change_of_ne h _
  | select key filter limit => rfl
  | selectSingle key filter => rfl
  | count key filter => rfl

theorem agree_answer (hids : db.ids = .serial) {c d : Call} (h : c.table ≠ d.table) :
    Agree c.table (answer d db).2 db :=
  ⟨(answer_ids d hids).trans hids.symm, get?_answer_of_ne h db⟩

theorem answerBoth_swap (hids : db.ids = .serial) {c d : Call} (h : c.table ≠ d.table) :
    answerBoth d c db =
      ((answerBoth c d db).2.1, (answerBoth c d db).1, (answerBoth c d db).2.2) := by
  obtain ⟨hc, hleft⟩ := (agree_answer hids h).answer
  obtain ⟨hd, hright⟩ := (agree_answer hids h.symm).answer
  have htables : (answer c (answer d db).2).2.tables = (answer d (answer c db).2).2.tables := by
    refine TextMap.ext fun name => ?_
    by_cases hname : name = c.table
    · rw [hname, hleft.table, get?_answer_of_ne h]
    · rw [get?_answer_of_ne hname]
      by_cases hname' : name = d.table
      · rw [hname', hright.table]
      · rw [get?_answer_of_ne hname', get?_answer_of_ne hname', get?_answer_of_ne hname]
  have hstate : (answer c (answer d db).2).2 = (answer d (answer c db).2).2 := by
    have hserial := (answer_ids c (answer_ids d hids)).trans (answer_ids d (answer_ids c hids)).symm
    cases hafter : (answer c (answer d db).2).2
    cases hafter' : (answer d (answer c db).2).2
    rw [hafter, hafter'] at hserial htables
    exact congr (congrArg Database.mk hserial) htables
  simp only [answerBoth, hc, hd, hstate]

end Database

/-- Two updates of which neither sets a column that the other sets or asks for. -/
structure Independent (v : Row) (f : Predicate) (w : Row) (g : Predicate) : Prop where
  apart : ∀ column, v.get? column = none ∨ w.get? column = none
  left : v.get? g.column = none
  right : w.get? f.column = none

variable {v w : Row} {f g : Predicate} {t : Table}

namespace Table

theorem holds_revise (h : v.get? g.column = none) (row : Row) :
    g.holds (revise v f row) = g.holds row := by
  rw [revise]
  split
  · rw [Predicate.holds, TextMap.get?_overlay, h, Option.none_or, Predicate.holds]
  · rfl

theorem overlay_comm (h : ∀ column, v.get? column = none ∨ w.get? column = none) (row : Row) :
    (row.overlay v).overlay w = (row.overlay w).overlay v := by
  refine TextMap.ext fun column => ?_
  simp only [TextMap.get?_overlay]
  rcases h column with hv | hw
  · rw [hv, Option.none_or, Option.none_or]
  · rw [hw, Option.none_or, Option.none_or]

theorem revise_comm (h : Independent v f w g) (row : Row) :
    revise w g (revise v f row) = revise v f (revise w g row) := by
  have hg := holds_revise (f := f) h.left row
  have hf := holds_revise (f := g) h.right row
  rw [revise.eq_1 w g (revise v f row), revise.eq_1 v f (revise w g row), hg, hf, revise, revise]
  cases g.holds row <;> cases f.holds row
  · rfl
  · rfl
  · rfl
  · exact overlay_comm h.apart row

theorem length_updated (t : Table) (v : Row) (f : Predicate) :
    (t.updated v f).length = t.rows.countP f.holds := by
  rw [updated, List.length_map, List.countP_eq_length_filter]

theorem length_updated_update (h : v.get? g.column = none) (t : Table) :
    ((t.update v f).updated w g).length = (t.updated w g).length := by
  rw [length_updated, length_updated, rows_update, List.countP_map]
  exact List.countP_congr fun row _ => by rw [Function.comp_apply, holds_revise h]

theorem lastId_update_congr {u : Table} (h : t.lastId = u.lastId)
    (hlength : (t.updated v f).length = (u.updated v f).length) :
    (t.update v f).lastId = (u.update v f).lastId := by
  have hempty : (t.updated v f).isEmpty = (u.updated v f).isEmpty := by
    rw [Bool.eq_iff_iff, List.isEmpty_iff_length_eq_zero, List.isEmpty_iff_length_eq_zero, hlength]
  rw [lastId_update, lastId_update, hempty, h]

theorem lastId_update_of_no_id (t : Table) (h : v.get? idColumn = none) (f : Predicate) :
    (t.update v f).lastId = t.lastId := by
  rw [lastId_update, h, Option.elim_none, max_minValue, ite_self]

theorem lastId_update_comm (t : Table) (hid : v.get? idColumn = none)
    (h : v.get? g.column = none) :
    ((t.update v f).update w g).lastId = ((t.update w g).update v f).lastId := by
  rw [lastId_update_of_no_id (t.update w g) hid f]
  exact lastId_update_congr (lastId_update_of_no_id t hid f) (length_updated_update h t)

/-- At most one of two independent updates gives ids, and it meets the same rows before the other
and behind it. -/
theorem update_comm (h : Independent v f w g) (t : Table) :
    (t.update v f).update w g = (t.update w g).update v f := by
  apply Table.ext
  · simp only [rows_update, List.map_map]
    exact List.map_congr_left fun row _ => revise_comm h row
  · rcases h.apart idColumn with hv | hw
    · exact lastId_update_comm t hv h.left
    · exact (lastId_update_comm t hw h.right).symm

theorem delete_comm (t : Table) (f g : Predicate) :
    (t.delete f).delete g = (t.delete g).delete f := by
  simp only [Table.delete, List.filter_filter, Bool.and_comm]

end Table

namespace Database

theorem change_change (db : Database) (name : String) (k l : Table → Table) :
    (db.change name k).change name l = db.change name fun t => l (k t) := by
  cases ht : db.tables.get? name with
  | none => simp only [change, ht]
  | some t =>
      have htables : (db.tables.insert name (k t)).insert name (l (k t)) =
          db.tables.insert name (l (k t)) := by
        refine TextMap.ext fun key => ?_
        simp only [TextMap.get?_insert]
        split <;> rfl
      simp only [change, ht, TextMap.get?_insert, if_true, htables]

theorem answerBoth_update (db : Database) (name : String) (v w : Row) (f g : Predicate) :
    answerBoth (.update name v f) (.update name w g) db =
      (.ok ((db.table name).updated v f), .ok (((db.table name).update v f).updated w g),
        db.change name fun t => (t.update v f).update w g) := by
  have ht : (db.change name (·.update v f)).table name = (db.table name).update v f :=
    (db.table_of_update name name v f).trans (if_pos rfl)
  simp only [answerBoth, answer, update, change_change, ht]

theorem answerBoth_delete (db : Database) (name : String) (f g : Predicate) :
    answerBoth (.delete name f) (.delete name g) db =
      (.ok ((db.table name).rows.filter f.holds),
        .ok (((db.table name).delete f).rows.filter g.holds),
        db.change name fun t => (t.delete f).delete g) := by
  have ht : (db.change name (·.delete f)).table name = (db.table name).delete f :=
    (db.table_of_delete name name f).trans (if_pos rfl)
  simp only [answerBoth, answer, delete, change_change, ht]

end Database

/-- Calls that have nothing to do with each other can change places: calls for two tables if ids are
serial, updates of one table that neither set nor ask for the same column, and removals. Two
removals share out differently among them what they remove together. -/
theorem calls_commute (db : Database) :
    (db.ids = .serial → ∀ c d : Call, c.table ≠ d.table → ∀ reply reply' after,
      db.answerBoth c d = (reply, reply', after) → db.answerBoth d c = (reply', reply, after)) ∧
    (∀ name v f w g, Independent v f w g → ∃ rows rows' others others' after,
      db.answerBoth (.update name v f) (.update name w g) = (.ok rows, .ok others, after) ∧
      db.answerBoth (.update name w g) (.update name v f) = (.ok others', .ok rows', after) ∧
      rows.length = rows'.length ∧ others.length = others'.length) ∧
    ∀ name f g, ∃ rows rows' others others' after,
      db.answerBoth (.delete name f) (.delete name g) = (.ok rows, .ok others, after) ∧
      db.answerBoth (.delete name g) (.delete name f) = (.ok others', .ok rows', after) ∧
      rows.length + others.length = others'.length + rows'.length := by
  refine ⟨fun hids c d h reply reply' after heq => ?_, fun name v f w g h => ?_, fun name f g => ?_⟩
  · rw [Database.answerBoth_swap hids h, heq]
  · let t := db.table name
    refine ⟨t.updated v f, (t.update w g).updated v f, (t.update v f).updated w g, t.updated w g, _,
      db.answerBoth_update name v w f g, ?_, ?_, ?_⟩
    · simp only [Database.answerBoth_update, Table.update_comm h, t]
    · exact (Table.length_updated_update h.right t).symm
    · exact Table.length_updated_update h.left t
  · let t := db.table name
    refine ⟨t.rows.filter f.holds, (t.delete g).rows.filter f.holds,
      (t.delete f).rows.filter g.holds, t.rows.filter g.holds, _,
      db.answerBoth_delete name f g, ?_, ?_⟩
    · simp only [Database.answerBoth_delete, Table.delete_comm _ f g, t]
    · have hf := t.length_delete f
      have hg := t.length_delete g
      have hfg := (t.delete f).length_delete g
      have hgf := (t.delete g).length_delete f
      rw [t.delete_comm f g] at hfg
      omega

def threeBookings : Database :=
  ⟨.serial, .ofList [("bookings", ⟨[("anna", "draft"), ("ben", "draft"), ("anna", "sent")].map
    fun b => .ofList [("client", .string b.1), ("status", .string b.2)], 3⟩)]⟩

theorem calls_commute_of_bookings :
    let ids := Call.update "bookings" (.ofList [("id", .ofNat 9)]) ⟨"client", .string "anna"⟩
    let sent := Call.update "bookings" (.ofList [("status", .string "sent")]) ⟨"status", .string "draft"⟩
    (threeBookings.answerBoth ids sent).2.2 = (threeBookings.answerBoth sent ids).2.2 ∧
      ((threeBookings.answerBoth sent ids).2.2.table "bookings").lastId = 9 ∧
      threeBookings.ids = .serial ∧
      (threeBookings.answerBoth (.count "clients" none) ids).2.2 =
        (threeBookings.answerBoth ids (.count "clients" none)).2.2 := by
  intro ids sent
  obtain ⟨hcalls, hupdates, -⟩ := calls_commute threeBookings
  have hindependent : Independent (.ofList [("id", .ofNat 9)]) ⟨"client", .string "anna"⟩
      (.ofList [("status", .string "sent")]) ⟨"status", .string "draft"⟩ := by
    refine ⟨fun column => ?_, by decide, by decide⟩
    by_cases hid : column = "id"
    · subst hid
      exact Or.inr (by decide)
    · exact Or.inl (if_neg hid)
  obtain ⟨rows, rows', others, others', after, h, h', -⟩ :=
    hupdates "bookings" _ _ _ _ hindependent
  refine ⟨by rw [h, h'], by decide +kernel, rfl, ?_⟩
  have hswap := hcalls rfl (.count "clients" none) ids (by decide) _ _ _ rfl
  exact (congrArg (·.2.2) hswap).symm

end DocQuery.Store
