import DocQuery.Engine
import DocQuery.Proofs.Sql.Template

namespace DocQuery

open Sql (Arguments Intent)
open Store (Call Server)

variable {σ : Type}

abbrev Mode.Result : Mode → Type
  | run => RunResult
  | get => Option Row
  | all => List Row

def Mode.empty : (mode : Mode) → mode.Result
  | run => .empty
  | get => none
  | all => []

def Engine.ask (engine : Engine σ) : (mode : Mode) → String → Arguments → σ →
    Except Error mode.Result × σ
  | .run => engine.run
  | .get => engine.get
  | .all => engine.all

/-- What is to be done with a store: nothing, since something is wrong; nothing at all; or one call. -/
inductive Plan where
  | fail (error : Error)
  | idle
  | call (call : Call)

namespace Plan

/-- The plan for an intent. A change of rows that names none is refused. -/
def ofIntent (intent : Intent) (mode : Mode) : Plan :=
  match intent.verb, intent.predicate with
  | .insert, _ => call (.insert intent.table (intent.values.getD .empty))
  | .update, some p => call (.update intent.table (intent.setValues.getD .empty) p)
  | .delete, some p => call (.delete intent.table p)
  | .update, none | .delete, none => fail (.parse (.missingClause .whereClause))
  | .select, filter =>
    if mode = .get then call (.selectSingle intent.table filter)
    else call (.select intent.table filter intent.limit)
  | .count, filter => call (.count intent.table filter)
  | .unknown, _ => idle

def ofStatement (settings : EngineSettings) (mode : Mode) (text : String) (args : Arguments) : Plan :=
  match Sql.parse text args with
  | .error (.parse e) => if settings.policy = .failSoft then idle else fail (.parse e)
  | .error (.binding e) => fail (.binding e)
  | .ok intent =>
    if mode.admits intent.verb then ofIntent intent mode else fail (.wrongCall intent.verb mode)

def ofExecutors (executors : List Executor) (intent : Intent) (mode : Mode) : Plan :=
  if ∃ e ∈ executors, e.verb = intent.verb then ofIntent intent mode else idle

def carryOut {α : Type} (server : Server σ) (nothing : α)
    (shape : (call : Call) → Except Store.Error call.Reply → Except Error α) (state : σ) :
    Plan → Except Error α × σ
  | fail e => (.error e, state)
  | idle => (.ok nothing, state)
  | call c => (shape c (server.answer c state).1, (server.answer c state).2)

end Plan

/-- What is reported of a reply. The last line is for calls that no statement makes in that way. -/
def Mode.view : (mode : Mode) → (call : Call) → call.Reply → mode.Result
  | run, .insert _ _, rows => ⟨rows.head?.bind Row.id?, rows.length⟩
  | run, .update _ _ _, rows => ⟨rows.head?.bind Row.id?, rows.length⟩
  | run, .delete _ _, rows => ⟨none, rows.length⟩
  | get, .selectSingle _ _, row => some row
  | get, .count _ _, n => some (.ofList [("count", .ofNat n)])
  | all, .select _ _ _, rows => rows
  | all, .count _ _, n => [.ofList [("count", .ofNat n)]]
  | mode, _, _ => mode.empty

/-- That a look-up finds no row is no error. Every other error of the store is passed on. -/
def Mode.shape (mode : Mode) :
    (call : Call) → Except Store.Error call.Reply → Except Error mode.Result
  | .selectSingle _ _, .error (.notFound _) => .ok mode.empty
  | call, .ok reply => .ok (mode.view call reply)
  | _, .error e => .error (.store e)

def Outcome.shape (call : Call) (reply : Except Store.Error call.Reply) : Except Error Outcome :=
  (ofReply call reply).mapError .store

variable {server : Server σ} {state : σ} {intent : Intent} {mode : Mode}

theorem Executor.ofIntent_eq (e : Executor) (mode : Mode) (h : e.verb = intent.verb) :
    Plan.ofIntent intent mode =
      match e.call intent mode with
      | .error e => .fail (.parse e)
      | .ok c => .call c := by
  rw [Plan.ofIntent, ← h]
  cases e with
  | insert => rfl
  | update =>
      rw [call, Intent.requiredPredicate]
      cases intent.predicate with
      | none => rfl
      | some p => rfl
  | delete =>
      rw [call, Intent.requiredPredicate]
      cases intent.predicate with
      | none => rfl
      | some p => rfl
  | select => by_cases hm : mode = .get <;> simp [call, hm, verb]
  | count => rfl

inductive Planned (intent : Intent) (mode : Mode) : Call → Prop
  | insert (hv : intent.verb = .insert) :
      Planned intent mode (.insert intent.table (intent.values.getD .empty))
  | update (p : Predicate) (hv : intent.verb = .update) (hp : intent.predicate = some p) :
      Planned intent mode (.update intent.table (intent.setValues.getD .empty) p)
  | delete (p : Predicate) (hv : intent.verb = .delete) (hp : intent.predicate = some p) :
      Planned intent mode (.delete intent.table p)
  | selectSingle (hv : intent.verb = .select) (hmode : mode = .get) :
      Planned intent mode (.selectSingle intent.table intent.predicate)
  | select (hv : intent.verb = .select) (hmode : mode ≠ .get) :
      Planned intent mode (.select intent.table intent.predicate intent.limit)
  | count (hv : intent.verb = .count) : Planned intent mode (.count intent.table intent.predicate)

theorem Planned.of_ofIntent {c : Call} (hc : Plan.ofIntent intent mode = .call c) :
    Planned intent mode c := by
  rw [Plan.ofIntent] at hc
  cases hv : intent.verb with
  | insert => rw [hv] at hc; cases hc; exact .insert hv
  | update =>
      cases hp : intent.predicate with
      | none => rw [hv, hp] at hc; cases hc
      | some p => rw [hv, hp] at hc; cases hc; exact .update p hv hp
  | delete =>
      cases hp : intent.predicate with
      | none => rw [hv, hp] at hc; cases hc
      | some p => rw [hv, hp] at hc; cases hc; exact .delete p hv hp
  | select =>
      simp only [hv] at hc
      split at hc
      · rename_i hmode
        cases hc
        exact .selectSingle hv hmode
      · rename_i hmode
        cases hc
        exact .select hv hmode
  | count => rw [hv] at hc; cases hc; exact .count hv
  | unknown => rw [hv] at hc; cases hc

theorem execute_eq (server : Server σ) (executors : List Executor) (intent : Intent) (mode : Mode)
    (state : σ) :
    execute server executors intent mode state =
      (Plan.ofExecutors executors intent mode).carryOut server .nothing Outcome.shape state := by
  have hv (e : Executor) : e.handles intent = true ↔ e.verb = intent.verb := by
    rw [Executor.handles, beq_iff_eq, eq_comm]
  rw [execute, Plan.ofExecutors]
  cases hf : executors.find? (·.handles intent) with
  | none =>
      have hn : ¬ ∃ e ∈ executors, e.verb = intent.verb := by
        rintro ⟨e, he, hverb⟩
        exact List.find?_eq_none.mp hf e he ((hv e).mpr hverb)
      rw [if_neg hn]
      rfl
  | some e =>
      have hhandles : e.handles intent = true := by simpa using List.find?_some hf
      have hverb : e.verb = intent.verb := (hv e).mp hhandles
      rw [if_pos ⟨e, List.mem_of_find?_eq_some hf, hverb⟩, e.ofIntent_eq mode hverb]
      cases hc : e.call intent mode with
      | error e => simp only [hc]; rfl
      | ok c => simp only [hc]; rfl

theorem ofExecutors_list (intent : Intent) (mode : Mode) :
    Plan.ofExecutors Executor.list intent mode = Plan.ofIntent intent mode := by
  rw [Plan.ofExecutors]
  split
  · rfl
  · rename_i h
    cases hv : intent.verb with
    | unknown => rw [Plan.ofIntent, hv]
    | _ => exact absurd (by rw [hv]; decide) h

theorem Engine.executeIntent_eq (engine : Engine σ) (intent : Intent) (mode : Mode) (state : σ) :
    engine.executeIntent intent mode state =
      (Plan.ofIntent intent mode).carryOut engine.server .nothing Outcome.shape state := by
  rw [executeIntent, execute_eq, ofExecutors_list]

def Mode.present : (mode : Mode) → Sql.Verb → Outcome → mode.Result
  | run, verb, outcome => outcome.runResult verb
  | get, _, outcome => outcome.firstRow
  | all, _, outcome => outcome.allRows

theorem Engine.ask_eq_perform (engine : Engine σ) (mode : Mode) (text : String) (args : Arguments)
    (state : σ) :
    engine.ask mode text args state =
      ((engine.perform mode text args state).1.map fun r => mode.present r.1.verb r.2,
        (engine.perform mode text args state).2) := by
  cases mode <;> rfl

theorem Mode.present_nothing (mode : Mode) (verb : Sql.Verb) :
    mode.present verb .nothing = mode.empty := by
  cases mode <;> rfl

theorem Mode.present_shape {c : Call} (hm : mode.admits intent.verb)
    (hc : Plan.ofIntent intent mode = .call c) (reply : Except Store.Error c.Reply) :
    (Outcome.shape c reply).map (mode.present intent.verb) = mode.shape c reply := by
  cases Planned.of_ofIntent hc with
  | insert hv | update p hv hp | delete p hv hp =>
      rw [hv] at hm ⊢
      cases mode with
      | run => cases reply <;> rfl
      | get | all => cases hm
  | selectSingle hv hmode =>
      subst hmode
      cases reply with
      | ok row => rfl
      | error e => cases e <;> rfl
  | select hv hmode =>
      rw [hv] at hm
      cases mode with
      | run => cases hm
      | get => exact absurd rfl hmode
      | all => cases reply <;> rfl
  | count hv =>
      rw [hv] at hm
      cases mode with
      | run => cases hm
      | get | all => cases reply <;> rfl

theorem Engine.perform_eq (engine : Engine σ) (mode : Mode) (text : String) (args : Arguments)
    (state : σ) :
    engine.perform mode text args state =
      match engine.resolve text args with
      | .error e => (.error e, state)
      | .ok intent =>
        if mode.admits intent.verb then
          ((engine.executeIntent intent mode state).1.map (intent, ·),
            (engine.executeIntent intent mode state).2)
        else (.error (.wrongCall intent.verb mode), state) := by
  rw [perform]
  cases engine.resolve text args with
  | error e => rfl
  | ok intent =>
      by_cases hm : mode.admits intent.verb
      · have hc : checkCall intent mode = .ok () := if_pos hm
        simp only [bind, Except.bind, hc, if_pos hm]
        rfl
      · have hc : checkCall intent mode = .error (.wrongCall intent.verb mode) := if_neg hm
        simp only [bind, Except.bind, hc, if_neg hm]

theorem Engine.resolve_eq (engine : Engine σ) (text : String) (args : Arguments) :
    engine.resolve text args =
      match Sql.parse text args with
      | .error (.parse e) =>
        if engine.settings.policy = .failSoft then .ok (.unknown engine.settings.fallbackTable)
        else .error (.parse e)
      | .error (.binding e) => .error (.binding e)
      | .ok intent => .ok intent := by
  rw [resolve, parse]
  cases Sql.parse text args with
  | ok intent => rfl
  | error e =>
      cases e with
      | binding e => rfl
      | parse e => cases engine.settings.policy <;> rfl

theorem Engine.ask_eq (settings : EngineSettings) (server : Server σ) (mode : Mode) (text : String)
    (args : Arguments) (state : σ) :
    (Engine.mk settings server).ask mode text args state =
      (Plan.ofStatement settings mode text args).carryOut server mode.empty mode.shape state := by
  rw [ask_eq_perform, perform_eq, resolve_eq, Plan.ofStatement]
  cases Sql.parse text args with
  | error e =>
      cases e with
      | binding e => rfl
      | parse e =>
          by_cases hs : settings.policy = .failSoft
          · have hv : mode.admits (Intent.unknown settings.fallbackTable).verb := by
              cases mode <;> rfl
            simp only [if_pos hs, if_pos hv, executeIntent_eq]
            exact congrArg (fun r => (Except.ok r, state)) (mode.present_nothing .unknown)
          · simp only [if_neg hs]
            rfl
  | ok intent =>
      by_cases hm : mode.admits intent.verb
      · simp only [if_pos hm, executeIntent_eq]
        cases hp : Plan.ofIntent intent mode with
        | fail e => rfl
        | idle => exact congrArg (fun r => (Except.ok r, state)) (mode.present_nothing _)
        | call c =>
            have hmap (r : Except Error Outcome) :
                (r.map (intent, ·)).map (fun r => mode.present r.1.verb r.2) =
                  r.map (mode.present intent.verb) := by
              cases r <;> rfl
            simp only [Plan.carryOut, hmap, mode.present_shape hm hp]
      · simp only [if_neg hm]
        rfl

theorem Engine.ask_of_parse (settings : EngineSettings) (server : Server σ) {mode : Mode}
    {text : String} {args : Arguments} {intent : Intent} {c : Call}
    (hp : Sql.parse text args = .ok intent) (hm : mode.admits intent.verb)
    (hc : Plan.ofIntent intent mode = .call c) (state : σ) :
    (Engine.mk settings server).ask mode text args state =
      (mode.shape c (server.answer c state).1, (server.answer c state).2) := by
  rw [ask_eq, Plan.ofStatement, hp]
  simp only [if_pos hm, hc]
  rfl

end DocQuery
