import DocQuery.Proofs.Execution.Calls
import DocQuery.Proofs.Store.Session
import DocQuery.Proofs.Store.Unchanged

namespace DocQuery.Store

open Sql (Arguments Verb)

inductive Request where
  | ask (mode : Mode) (text : String) (args : Arguments)
  | update (table : String) (values : Row) (filter : Predicate)

namespace Request

def operation : Request → Operation
  | ask mode text args => .ask mode text args
  | update table values filter => .update table values filter

def target? : Request → Option (Verb × String)
  | ask _ text args => (Sql.parse text args).toOption.map fun intent => (intent.verb, intent.table)
  | update table _ _ => some (.update, table)

/-- What an accepted request reports of a change; look-ups and lists report none. -/
def report? (settings : EngineSettings) : Request → Database → Option RunResult
  | ask .run text args, db => ((Engine.mk settings Database.server).run text args db).1.toOption
  | ask .get _ _, _ | ask .all _ _, _ => none
  | update table values filter, db =>
    ((Engine.mk settings Database.server).update table values filter db).1.toOption

def changes (settings : EngineSettings) (verb : Verb) (name : String) (r : Request) (db : Database) :
    Nat :=
  if r.target? = some (verb, name) then ((r.report? settings db).map (·.changes)).getD 0 else 0

def session (settings : EngineSettings) (rs : List Request) (db : Database) : Database :=
  Operation.run settings (rs.map operation) db

def reported (settings : EngineSettings) (verb : Verb) (name : String) :
    List Request → Database → Nat
  | [], _ => 0
  | r :: rs, db =>
    r.changes settings verb name db +
      reported settings verb name rs (r.operation.perform settings db).2

end Request

def Database.size (db : Database) (name : String) : Nat := (db.table name).rows.length

variable {settings : EngineSettings} {db : Database} {name : String}

namespace Database

theorem size_insert (db : Database) (name key : String) (values : Row) :
    (db.insert key values).2.size name = if key = name then db.size name + 1 else db.size name := by
  rw [size, table_of_insert]
  by_cases h : key = name
  · rw [if_pos h, if_pos h.symm, Table.length_push, h]
    rfl
  · rw [if_neg h, if_neg (Ne.symm h)]
    rfl

theorem size_update (db : Database) (name key : String) (values : Row) (filter : Predicate) :
    (db.update key values filter).2.size name = db.size name := by
  rcases db.table_change name key (·.update values filter) with h | ⟨-, h⟩
  · exact congrArg (fun t => t.rows.length) h
  · refine (congrArg (fun t => t.rows.length) h).trans ?_
    rw [Table.rows_update, List.length_map]
    rfl

theorem size_delete (db : Database) (name key : String) (filter : Predicate) :
    (db.delete key filter).2.size name +
      (if key = name then (db.delete key filter).1.length else 0) = db.size name := by
  rw [size, table_of_delete]
  by_cases h : key = name
  · rw [if_pos h, if_pos h.symm, size, ← h, Nat.add_comm]
    exact (db.table key).length_delete filter
  · rw [if_neg h, if_neg (Ne.symm h)]
    rfl

end Database

namespace Request

def reportOf : (mode : Mode) → Except DocQuery.Error mode.Result → Option RunResult
  | .run, result => result.toOption
  | .get, _ | .all, _ => none

theorem report?_ask (settings : EngineSettings) (mode : Mode) (text : String) (args : Arguments)
    (db : Database) : (ask mode text args).report? settings db =
      reportOf mode ((Engine.mk settings Database.server).ask mode text args db).1 := by
  cases mode <;> rfl

end Request

/-- How the number of rows of a table may go on, by the target of a request and its report. -/
inductive Accounted (name : String) (target? : Option (Verb × String)) (report? : Option RunResult) :
    Nat → Nat → Prop
  | same {n : Nat} (h : report? = none ∨ ∀ verb ∈ [Verb.insert, .delete], target? ≠ some (verb, name)) :
      Accounted name target? report? n n
  | inserted {n : Nat} {id : Option Json} (ht : target? = some (.insert, name))
      (hr : report? = some ⟨id, 1⟩) : Accounted name target? report? n (n + 1)
  | deleted {n k : Nat} (ht : target? = some (.delete, name)) (hr : report? = some ⟨none, k⟩) :
      Accounted name target? report? (n + k) n

theorem Accounted.of_ne {target? : Option (Verb × String)} {report? : Option RunResult} {m n : Nat}
    (hmn : n = m) (h : ∀ verb ∈ [Verb.insert, .delete], target? ≠ some (verb, name)) :
    Accounted name target? report? m n := by
  subst hmn
  exact .same (Or.inr h)

theorem Accounted.of_other {verb : Verb} {table : String} {report? : Option RunResult} {m n : Nat}
    (hmn : n = m) (h : table ≠ name) : Accounted name (some (verb, table)) report? m n := by
  refine .of_ne hmn ?_
  rintro verb' - ⟨⟩
  exact h rfl

theorem Accounted.of_update {table : String} {report? : Option RunResult} {m n : Nat}
    (hmn : n = m) : Accounted name (some (.update, table)) report? m n := by
  refine .of_ne hmn fun verb hverb h => ?_
  cases h
  exact absurd hverb (by decide)

theorem accounted_of_asks {mode : Mode} {intent : Sql.Intent} {c : Call} (h : Asks mode intent c)
    (db : Database) (name : String) :
    Accounted name (some (intent.verb, intent.table))
      (Request.reportOf mode (mode.shape c (Database.answer c db).1)) (db.size name)
      ((Database.answer c db).2.size name) := by
  cases h with
  | insert table values =>
      have hsize : (Database.answer (.insert table values) db).2.size name = _ :=
        db.size_insert name table values
      by_cases ht : table = name
      · rw [if_pos ht] at hsize
        rw [hsize]
        exact .inserted (by rw [← ht]; rfl) rfl
      · rw [if_neg ht] at hsize
        exact .of_other hsize ht
  | update table values filter => exact .of_update (db.size_update name table values filter)
  | delete table filter =>
      have hsize := db.size_delete name table filter
      by_cases ht : table = name
      · rw [if_pos ht] at hsize
        rw [← hsize]
        exact .deleted (by rw [← ht]; rfl) rfl
      · rw [if_neg ht] at hsize
        exact .of_other hsize ht
  | selectOne table filter limit => exact .same (Or.inl rfl)
  | selectAll table filter limit => exact .same (Or.inl rfl)
  | countOne table filter => exact .same (Or.inl rfl)
  | countAll table filter => exact .same (Or.inl rfl)

theorem Request.accounted (settings : EngineSettings) (r : Request) (db : Database) (name : String) :
    Accounted name r.target? (r.report? settings db) (db.size name)
      ((r.operation.perform settings db).2.size name) := by
  cases r with
  | update table values filter => exact .of_update (db.size_update name table values filter)
  | ask mode text args =>
      have hperform : (operation (ask mode text args)).perform settings db =
        (Engine.mk settings Database.server).ask mode text args db := rfl
      rw [report?_ask, hperform]
      cases hp : Sql.parse text args with
      | error e =>
          -- what is not understood makes no call
          have htarget : (ask mode text args).target? = none := by
            rw [target?, hp]
            rfl
          rw [htarget]
          refine .of_ne ?_ fun verb _ h => by cases h
          rcases (Operation.ask mode text args).perform_state settings db with h | ⟨c, hc, -⟩
          · exact congrArg (·.size name) h
          · obtain ⟨intent, hi, -⟩ := Plan.exists_of_ofStatement hc
            rw [hp] at hi
            cases hi
      | ok intent =>
          have htarget : (ask mode text args).target? = some (intent.verb, intent.table) := by
            rw [target?, hp]
            rfl
          rw [htarget]
          by_cases hm : mode.admits intent.verb
          · obtain ⟨c, hc⟩ := exists_asks_of_parse hp hm
            rw [Engine.ask_of_parse settings Database.server hp hm hc.ofIntent db]
            exact accounted_of_asks hc db name
          · have hask : (Engine.mk settings Database.server).ask mode text args db =
                (.error (.wrongCall intent.verb mode), db) := by
              rw [Engine.ask_eq, Plan.ofStatement, hp]
              simp only [if_neg hm]
              rfl
            rw [hask]
            exact .same (Or.inl (by cases mode <;> rfl))

theorem Accounted.eq {target? : Option (Verb × String)} {report? : Option RunResult} {m n : Nat}
    (h : Accounted name target? report? m n)
    (hother : report? = none ∨ ∀ verb ∈ [Verb.insert, .delete], target? ≠ some (verb, name)) :
    n = m := by
  cases h with
  | same h => rfl
  | inserted ht hr =>
      rcases hother with h | h
      · cases hr.symm.trans h
      · exact absurd ht (h .insert (by decide))
  | deleted ht hr =>
      rcases hother with h | h
      · cases hr.symm.trans h
      · exact absurd ht (h .delete (by decide))

theorem Accounted.changes_of_insert {target? : Option (Verb × String)} {report? : Option RunResult}
    {m n : Nat} (h : Accounted name target? report? m n) (ht : target? = some (.insert, name))
    {result : RunResult} (hr : report? = some result) : result.changes = 1 := by
  cases h with
  | same h =>
      rcases h with h | h
      · cases hr.symm.trans h
      · exact absurd ht (h .insert (by decide))
  | inserted ht' hr' =>
      cases hr.symm.trans hr'
      rfl
  | deleted ht' hr' => cases ht.symm.trans ht'

namespace Request

theorem size_perform (settings : EngineSettings) (r : Request) (db : Database) (name : String) :
    (r.operation.perform settings db).2.size name + r.changes settings .delete name db =
      db.size name + r.changes settings .insert name db := by
  have h := r.accounted settings db name
  rw [changes, changes]
  generalize (r.operation.perform settings db).2.size name = n at h ⊢
  generalize db.size name = m at h ⊢
  cases h with
  | same h =>
      rcases h with h | h
      · rw [h]
        simp
      · rw [if_neg (h .delete (by decide)), if_neg (h .insert (by decide))]
  | inserted ht hr => simp [ht, hr]
  | deleted ht hr => simp [ht, hr]

theorem size_session (settings : EngineSettings) (rs : List Request) (db : Database) (name : String) :
    (session settings rs db).size name + reported settings .delete name rs db =
      db.size name + reported settings .insert name rs db := by
  induction rs generalizing db with
  | nil => rfl
  | cons r rs ih =>
      have hstep := r.size_perform settings db name
      have hrest := ih (r.operation.perform settings db).2
      rw [reported, reported]
      change (session settings rs (r.operation.perform settings db).2).size name + _ = _
      omega

end Request

/-- The rows of a table are those of the seed and those that are reported as inserted since, less
those that are reported as deleted. No other request changes their number, and each insertion reports
one row. -/
theorem rows_conserved (settings : EngineSettings) (name : String) :
    (∀ rs db, (Request.session settings rs db).size name +
        Request.reported settings .delete name rs db =
      db.size name + Request.reported settings .insert name rs db) ∧
    (∀ ids, (Database.empty ids).size name = 0) ∧
    (∀ document db, Database.ofJson document = .ok db →
      db.size name = (Database.seededItems document name).length) ∧
    (∀ (r : Request) db,
      (r.report? settings db = none ∨
        ∀ verb ∈ [Verb.insert, .delete], r.target? ≠ some (verb, name)) →
      (r.operation.perform settings db).2.size name = db.size name) ∧
    ∀ (r : Request) db result, r.target? = some (.insert, name) →
      r.report? settings db = some result → result.changes = 1 := by
  refine ⟨fun rs db => Request.size_session settings rs db name, fun ids => rfl, ?_, ?_, ?_⟩
  · intro document db h
    obtain ⟨-, rows, htable, hrows⟩ := Database.table_ofJson h name
    rw [Database.size, htable, length_seedTable, hrows.length_eq]
  · exact fun r db h => (r.accounted settings db name).eq h
  · exact fun r db result ht hr => (r.accounted settings db name).changes_of_insert ht hr

def twoRows : Database :=
  ⟨.serial, .ofList [("t", ⟨[1, 2].map fun n => TextMap.empty.insert idColumn (.ofNat n), 2⟩)]⟩

def mixedRequests : List Request :=
  [.ask .run "INSERT INTO t (name) VALUES (?)" [.string "b"],
    .ask .get "INSERT INTO t (name) VALUES ('c')" [], .ask .run "DELETE FROM t WHERE" [],
    .ask .run "DELETE FROM t WHERE id = 1" [], .ask .all "SELECT * FROM t" []]

theorem rows_conserved_of_mixed_requests :
    Database.ofJson (.object [("t", .array [.object [("id", .ofNat 1)], .object [("id", .ofNat 2)]])]) =
        .ok twoRows ∧
      twoRows.size "t" = 2 ∧ Request.reported .standard .insert "t" mixedRequests twoRows = 1 ∧
      Request.reported .standard .delete "t" mixedRequests twoRows = 1 ∧
      (Request.session .standard mixedRequests twoRows).size "t" = 2 := by
  obtain ⟨hsession, -, hseed, -, -⟩ := rows_conserved .standard "t"
  have hdocument : Database.ofJson (.object [("t", .array
      [.object [("id", .ofNat 1)], .object [("id", .ofNat 2)]])]) = .ok twoRows := rfl
  have hsize : twoRows.size "t" = 2 := hseed _ _ hdocument
  have hinserted : Request.reported .standard .insert "t" mixedRequests twoRows = 1 := by
    decide +kernel
  have hdeleted : Request.reported .standard .delete "t" mixedRequests twoRows = 1 := by
    decide +kernel
  have hall := hsession mixedRequests twoRows
  exact ⟨hdocument, hsize, hinserted, hdeleted, by omega⟩

end DocQuery.Store
