import DocQuery.Proofs.Execution.Plan
import DocQuery.Proofs.Store.Table
import DocQuery.Store.Memory

namespace DocQuery

open Sql (Arguments Intent)
open Store (Call Database Table)

variable {db : Database} {settings : EngineSettings}

namespace Store

/-- Everything that can be done with a store, whether it comes to a call or not. -/
inductive Operation where
  | parse (text : String) (args : Arguments)
  | ask (mode : Mode) (text : String) (args : Arguments)
  | update (table : String) (values : Row) (filter : Predicate)
  | intent (intent : Intent) (mode : Mode)
  | pipeline (executors : List Executor) (intent : Intent) (mode : Mode)
  | call (call : Call)
  | tableNames

namespace Operation

abbrev Value : Operation → Type
  | parse _ _ => Intent
  | ask mode _ _ => mode.Result
  | update _ _ _ => RunResult
  | intent _ _ | pipeline _ _ _ => Outcome
  | call c => c.Reply
  | tableNames => List String

abbrev Failure : Operation → Type
  | call _ => Store.Error
  | _ => DocQuery.Error

def perform (settings : EngineSettings) :
    (o : Operation) → Database → Except o.Failure o.Value × Database
  | parse text args, db => (Engine.parse text args, db)
  | ask mode text args, db => (Engine.mk settings Database.server).ask mode text args db
  | update table values filter, db =>
    (Engine.mk settings Database.server).update table values filter db
  | intent i mode, db => (Engine.mk settings Database.server).executeIntent i mode db
  | pipeline executors i mode, db => execute Database.server executors i mode db
  | call c, db => Database.answer c db
  | tableNames, db => (.ok db.tableNames, db)

def plan (settings : EngineSettings) : Operation → Plan
  | parse _ _ | tableNames => .idle
  | ask mode text args => .ofStatement settings mode text args
  | update table values filter => .call (.update table values filter)
  | intent i mode => .ofIntent i mode
  | pipeline executors i mode => .ofExecutors executors i mode
  | call c => .call c

end Operation

def Database.Lacks (db : Database) (table : String) (filter : Predicate) : Prop :=
  ∀ row ∈ (db.table table).rows, filter.holds row = false

def Call.Idle (db : Database) : Call → Prop
  | .insert _ _ => False
  | .update table _ filter | .delete table filter => db.Lacks table filter
  | .select _ _ _ | .selectSingle _ _ | .count _ _ => True

namespace Table

variable {t : Table} {filter : Predicate}

theorem update_eq_self (values : Row) (h : ∀ row ∈ t.rows, filter.holds row = false) :
    t.update values filter = t := by
  have hrevise : ∀ row ∈ t.rows, revise values filter row = id row := by
    intro row hrow
    rw [revise, h row hrow]
    rfl
  have hrows : t.rows.map (revise values filter) = t.rows := by
    rw [List.map_congr_left hrevise, List.map_id]
  have hupdated : t.updated values filter = [] := by
    rw [updated, List.filter_eq_nil_iff.mpr fun row hrow => by simp [h row hrow], List.map_nil]
  rw [update, hupdated, hrows]
  cases values.get? idColumn <;> rfl

theorem delete_eq_self (h : ∀ row ∈ t.rows, filter.holds row = false) : t.delete filter = t := by
  have hrows : (t.rows.filter fun row => !filter.holds row) = t.rows :=
    List.filter_eq_self.mpr fun row hrow => by simp [h row hrow]
  rw [delete, hrows]

end Table

namespace Database

theorem change_eq_self {name : String} {f : Table → Table}
    (h : f (db.table name) = db.table name) : db.change name f = db := by
  rw [change]
  cases ht : db.tables.get? name with
  | none => rfl
  | some t =>
      rw [table, ht, Option.getD_some] at h
      have htables : db.tables.insert name t = db.tables := by
        refine TextMap.ext fun k => ?_
        rw [TextMap.get?_insert]
        split
        · rename_i hk
          rw [hk, ht]
        · rfl
      simp only [h, htables]

theorem answer_of_idle {c : Call} (h : c.Idle db) : (answer c db).2 = db := by
  cases c with
  | insert name values => exact h.elim
  | update name values filter => exact change_eq_self (Table.update_eq_self values h)
  | delete name filter => exact change_eq_self (Table.delete_eq_self h)
  | select name filter limit => rfl
  | selectSingle name filter => rfl
  | count name filter => rfl

theorem answer_of_error {c : Call} {e : Store.Error} (h : (answer c db).1 = .error e) :
    (answer c db).2 = db := by
  cases c with
  | insert name values => cases h
  | update name values filter => cases h
  | delete name filter => cases h
  | select name filter limit => rfl
  | selectSingle name filter => rfl
  | count name filter => rfl

theorem get?_change_eq_none {name key : String} {f : Table → Table}
    (h : db.tables.get? name = none) : (db.change key f).tables.get? name = none := by
  rw [change]
  cases ht : db.tables.get? key with
  | none => exact h
  | some t =>
      have hk : name ≠ key := by
        rintro rfl
        rw [h] at ht
        cases ht
      simp only [TextMap.get?_insert, if_neg hk, h]

theorem answer_creates {c : Call} {name : String} (h : db.tables.get? name = none)
    (hnew : (answer c db).2.tables.get? name ≠ none) : ∃ values, c = .insert name values := by
  cases c with
  | insert key values =>
      by_cases hk : name = key
      · exact ⟨values, by rw [hk]⟩
      · refine absurd ?_ hnew
        change (db.tables.insert key _).get? name = none
        rw [TextMap.get?_insert, if_neg hk, h]
  | update key values filter => exact absurd (get?_change_eq_none h) hnew
  | delete key filter => exact absurd (get?_change_eq_none h) hnew
  | select key filter limit => exact absurd h hnew
  | selectSingle key filter => exact absurd h hnew
  | count key filter => exact absurd h hnew

end Database

end Store

/-- The intents that have nothing to change: queries, the intent of a statement that is not
understood, and changes of rows that are not there. -/
def Sql.Intent.Idle (db : Database) (intent : Intent) : Prop :=
  match intent.verb with
  | .insert => False
  | .update | .delete => ∀ p ∈ intent.predicate, db.Lacks intent.table p
  | .select | .count | .unknown => True

namespace Plan

variable {intent : Intent} {mode : Mode} {c : Call}

theorem exists_of_ofStatement {text : String} {args : Arguments}
    (h : ofStatement settings mode text args = .call c) :
    ∃ i, Sql.parse text args = .ok i ∧ ofIntent i mode = .call c := by
  rw [ofStatement] at h
  cases hp : Sql.parse text args with
  | error e =>
      rw [hp] at h
      cases e with
      | binding e => cases h
      | parse e =>
          simp only at h
          split at h <;> cases h
  | ok i =>
      simp only [hp] at h
      split at h
      · exact ⟨i, rfl, h⟩
      · cases h

theorem exists_of_ofExecutors {executors : List Executor}
    (h : ofExecutors executors intent mode = .call c) :
    (∃ e ∈ executors, e.verb = intent.verb) ∧ ofIntent intent mode = .call c := by
  rw [ofExecutors] at h
  split at h
  · rename_i he
    exact ⟨he, h⟩
  · cases h

theorem idle_of_ofIntent (h : intent.Idle db) (hc : ofIntent intent mode = .call c) : c.Idle db := by
  rw [Intent.Idle] at h
  cases Planned.of_ofIntent hc with
  | insert hv => rw [hv] at h; exact h.elim
  | update p hv hp => rw [hv] at h; exact h p hp
  | delete p hv hp => rw [hv] at h; exact h p hp
  | selectSingle hv hmode => trivial
  | select hv hmode => trivial
  | count hv => trivial

theorem insert_of_ofIntent {name : String} {values : Row}
    (hc : ofIntent intent mode = .call (.insert name values)) :
    intent.verb = .insert ∧ intent.table = name := by
  cases Planned.of_ofIntent hc with
  | insert hv => exact ⟨hv, rfl⟩

theorem carryOut_state {α : Type} (plan : Plan) (nothing : α)
    {shape : (call : Call) → Except Store.Error call.Reply → Except Error α}
    (hshape : ∀ c reply, ∃ v, shape c (.ok reply) = .ok v) (db : Database) :
    (plan.carryOut Database.server nothing shape db).2 = db ∨
      ∃ c, plan = .call c ∧
        (plan.carryOut Database.server nothing shape db).2 = (Database.answer c db).2 ∧
        ∃ v, (plan.carryOut Database.server nothing shape db).1 = .ok v := by
  cases plan with
  | fail e => exact Or.inl rfl
  | idle => exact Or.inl rfl
  | call c =>
      cases hc : (Database.answer c db).1 with
      | error e => exact Or.inl (Database.answer_of_error hc)
      | ok reply =>
          obtain ⟨v, hv⟩ := hshape c reply
          refine Or.inr ⟨c, rfl, rfl, v, ?_⟩
          rw [← hv, ← hc]
          rfl

end Plan

theorem Mode.shape_ok (mode : Mode) (c : Call) (reply : c.Reply) :
    ∃ v, mode.shape c (.ok reply) = .ok v := by
  cases c <;> exact ⟨_, rfl⟩

theorem Outcome.shape_ok (c : Call) (reply : c.Reply) :
    ∃ v, Outcome.shape c (.ok reply) = .ok v := by
  cases c <;> exact ⟨_, rfl⟩

namespace Store.Operation

def Idle (settings : EngineSettings) (db : Database) : Operation → Prop
  | parse _ _ | tableNames => True
  | ask _ text args =>
    ∀ i, (Engine.mk settings Database.server).resolve text args = .ok i → i.Idle db
  | update table _ filter => db.Lacks table filter
  | intent i _ => i.Idle db
  | pipeline executors i _ => (∀ e ∈ executors, e.verb ≠ i.verb) ∨ i.Idle db
  | call c => c.Idle db

def InsertsInto (name : String) : Operation → Prop
  | parse _ _ | update _ _ _ | tableNames => False
  | ask _ text args => ∃ i, Sql.parse text args = .ok i ∧ i.verb = .insert ∧ i.table = name
  | intent i _ | pipeline _ i _ => i.verb = .insert ∧ i.table = name
  | call c => ∃ values, c = .insert name values

theorem perform_state (settings : EngineSettings) (o : Operation) (db : Database) :
    (o.perform settings db).2 = db ∨
      ∃ c, o.plan settings = .call c ∧ (o.perform settings db).2 = (Database.answer c db).2 ∧
        ∃ v, (o.perform settings db).1 = .ok v := by
  cases o with
  | parse text args => exact Or.inl rfl
  | ask mode text args =>
      have h := (Plan.ofStatement settings mode text args).carryOut_state mode.empty
        mode.shape_ok db
      rw [perform, Engine.ask_eq]
      exact h
  | update table values filter => exact Or.inr ⟨_, rfl, rfl, _, rfl⟩
  | intent i mode =>
      have h := (Plan.ofIntent i mode).carryOut_state .nothing Outcome.shape_ok db
      rw [perform, Engine.executeIntent_eq]
      exact h
  | pipeline executors i mode =>
      have h := (Plan.ofExecutors executors i mode).carryOut_state .nothing Outcome.shape_ok db
      rw [perform, execute_eq]
      exact h
  | call c =>
      cases hc : (Database.answer c db).1 with
      | error e => exact Or.inl (Database.answer_of_error hc)
      | ok reply => exact Or.inr ⟨c, rfl, rfl, reply, hc⟩
  | tableNames => exact Or.inl rfl

theorem perform_of_plan {o : Operation} {c : Call} (hc : o.plan settings = .call c) :
    (o.perform settings db).2 = (Database.answer c db).2 := by
  cases o with
  | parse text args => cases hc
  | ask mode text args =>
      rw [perform, Engine.ask_eq, show Plan.ofStatement settings mode text args = .call c from hc]
      rfl
  | update table values filter =>
      cases hc
      rfl
  | intent i mode =>
      rw [perform, Engine.executeIntent_eq, show Plan.ofIntent i mode = .call c from hc]
      rfl
  | pipeline executors i mode =>
      rw [perform, execute_eq, show Plan.ofExecutors executors i mode = .call c from hc]
      rfl
  | call c' =>
      cases hc
      rfl
  | tableNames => cases hc

theorem idle_of_plan {o : Operation} {c : Call} (h : o.Idle settings db)
    (hc : o.plan settings = .call c) : c.Idle db := by
  cases o with
  | parse text args => cases hc
  | ask mode text args =>
      obtain ⟨i, hp, hi⟩ := Plan.exists_of_ofStatement hc
      refine Plan.idle_of_ofIntent (h i ?_) hi
      rw [Engine.resolve_eq, hp]
  | update table values filter => cases hc; exact h
  | intent i mode => exact Plan.idle_of_ofIntent h hc
  | pipeline executors i mode =>
      obtain ⟨⟨e, hmem, hverb⟩, hi⟩ := Plan.exists_of_ofExecutors hc
      exact Plan.idle_of_ofIntent (h.resolve_left fun hne => hne e hmem hverb) hi
  | call c => cases hc; exact h
  | tableNames => cases hc

theorem insertsInto_of_plan {o : Operation} {name : String} {values : Row}
    (hc : o.plan settings = .call (.insert name values)) : o.InsertsInto name := by
  cases o with
  | parse text args => cases hc
  | ask mode text args =>
      obtain ⟨i, hp, hi⟩ := Plan.exists_of_ofStatement hc
      exact ⟨i, hp, Plan.insert_of_ofIntent hi⟩
  | update table values filter => cases hc
  | intent i mode => exact Plan.insert_of_ofIntent hc
  | pipeline executors i mode =>
      exact Plan.insert_of_ofIntent (Plan.exists_of_ofExecutors hc).2
  | call c => cases hc; exact ⟨values, rfl⟩
  | tableNames => cases hc

theorem perform_eq_self (o : Operation) (db : Database)
    (h : (∃ e, (o.perform settings db).1 = .error e) ∨ o.Idle settings db) :
    (o.perform settings db).2 = db := by
  rcases o.perform_state settings db with hs | ⟨c, hc, hs, v, hv⟩
  · exact hs
  · rcases h with ⟨e, he⟩ | hidle
    · rw [hv] at he
      cases he
    · rw [hs]
      exact Database.answer_of_idle (idle_of_plan hidle hc)

theorem perform_creates (o : Operation) (db : Database) (name : String)
    (h : db.tables.get? name = none) (hnew : (o.perform settings db).2.tables.get? name ≠ none) :
    o.InsertsInto name ∧ ∃ v, (o.perform settings db).1 = .ok v := by
  rcases o.perform_state settings db with hs | ⟨c, hc, hs, v, hv⟩
  · exact absurd h (hs ▸ hnew)
  · rw [hs] at hnew
    obtain ⟨values, rfl⟩ := Database.answer_creates h hnew
    exact ⟨insertsInto_of_plan hc, v, hv⟩

def run (settings : EngineSettings) (os : List Operation) (db : Database) : Database :=
  os.foldl (fun db o => (o.perform settings db).2) db

theorem run_append (settings : EngineSettings) (before after : List Operation)
    (db : Database) : run settings (before ++ after) db = run settings after (run settings before db) :=
  List.foldl_append

/-- What fails or has nothing to change leaves a database as it is, with its counters and its set of
tables. A table comes into being only with its first rows. -/
theorem perform_unchanged (settings : EngineSettings) (o : Operation) (db : Database) :
    ((∃ e, (o.perform settings db).1 = .error e) ∨ o.Idle settings db →
      (o.perform settings db).2 = db) ∧
    ∀ name, db.tables.get? name = none → (o.perform settings db).2.tables.get? name ≠ none →
      o.InsertsInto name ∧ ∃ v, (o.perform settings db).1 = .ok v :=
  ⟨o.perform_eq_self db, o.perform_creates db⟩

theorem session_unchanged (os : List Operation) (db : Database)
    (h : ∀ o ∈ os, (∃ e, (o.perform settings db).1 = .error e) ∨ o.Idle settings db) :
    run settings os db = db := by
  induction os with
  | nil => rfl
  | cons o os ih =>
      rw [run, List.foldl_cons, o.perform_eq_self db (h o List.mem_cons_self)]
      exact ih fun o ho => h o (List.mem_cons_of_mem _ ho)

end Store.Operation

end DocQuery
