import DocQuery.Proofs.Execution.Plan

namespace DocQuery

open Sql (Arguments Form Intent Template)
open Store (Call Server)

variable {σ : Type} {mode : Mode} {intent : Intent}

/-- The same store with a list of the calls that it has answered. -/
def Store.Server.logged (server : Server σ) : Server (σ × List Call) where
  answer call state :=
    ((server.answer call state.1).1, ((server.answer call state.1).2, state.2 ++ [call]))

def Plan.calls : Plan → List Call
  | fail _ | idle => []
  | call c => [c]

/-- The call of a statement, for each intent and each mode that go together. -/
inductive Asks : Mode → Intent → Call → Prop
  | insert (table : String) (values : Row) :
      Asks .run (.insert table values) (.insert table values)
  | update (table : String) (values : Row) (filter : Predicate) :
      Asks .run (.update table values filter) (.update table values filter)
  | delete (table : String) (filter : Predicate) :
      Asks .run (.delete table filter) (.delete table filter)
  | selectOne (table : String) (filter : Option Predicate) (limit : Option Nat) :
      Asks .get (.select table filter limit) (.selectSingle table filter)
  | selectAll (table : String) (filter : Option Predicate) (limit : Option Nat) :
      Asks .all (.select table filter limit) (.select table filter limit)
  | countOne (table : String) (filter : Option Predicate) :
      Asks .get (.count table filter) (.count table filter)
  | countAll (table : String) (filter : Option Predicate) :
      Asks .all (.count table filter) (.count table filter)

theorem Asks.ofIntent {call : Call} (h : Asks mode intent call) :
    Plan.ofIntent intent mode = .call call := by
  cases h <;> rfl

theorem exists_asks (form : Form) (query : Sql.Verb) (args : Arguments)
    (hm : mode.admits ((form.template query).fill args).verb) :
    ∃ call, Asks mode ((form.template query).fill args) call := by
  cases form with
  | insert table columns values =>
      cases mode with
      | run => exact ⟨_, .insert table _⟩
      | get | all => cases hm
  | update table assignments condition =>
      cases mode with
      | run => exact ⟨_, .update table _ _⟩
      | get | all => cases hm
  | delete table condition =>
      cases mode with
      | run => exact ⟨_, .delete table _⟩
      | get | all => cases hm
  | select projection table condition limit =>
      by_cases hq : query = .count
      · subst hq
        cases mode with
        | run => cases hm
        | get => exact ⟨_, .countOne table _⟩
        | all => exact ⟨_, .countAll table _⟩
      · have hi : ((Form.select projection table condition limit).template query).fill args =
            .select table ((condition.map fun c => (c.1, c.2.slot 0)).map fun s =>
              ⟨s.1, s.2.value args⟩) limit := by
          simp only [Form.template, Template.fill, if_neg hq]
          rfl
        rw [hi] at hm ⊢
        cases mode with
        | run => cases hm
        | get => exact ⟨_, .selectOne table _ limit⟩
        | all => exact ⟨_, .selectAll table _ limit⟩

theorem exists_asks_of_parse {text : String} {args : Arguments}
    (hp : Sql.parse text args = .ok intent) (hm : mode.admits intent.verb) :
    ∃ call, Asks mode intent call := by
  rw [Sql.parse] at hp
  cases hr : (Sql.classify text).reading? with
  | none => simp only [hr] at hp; cases hp
  | some r =>
      simp only [hr, Sql.parseAs_eq] at hp
      cases hf : Sql.formOf r text with
      | error e => simp only [hf] at hp; cases hp
      | ok form =>
          simp only [hf] at hp
          obtain rfl := Template.eq_fill_of_bind hp
          exact exists_asks form _ args hm

theorem carryOut_logged {α : Type} (server : Server σ) (nothing : α)
    (shape : (call : Call) → Except Store.Error call.Reply → Except Error α) (state : σ)
    (log : List Call) (plan : Plan) :
    plan.carryOut server.logged nothing shape (state, log) =
      ((plan.carryOut server nothing shape state).1,
        ((plan.carryOut server nothing shape state).2, log ++ plan.calls)) := by
  cases plan with
  | fail | idle => simp only [Plan.carryOut, Plan.calls, List.append_nil]
  | call c => rfl

def Engine.session (engine : Engine σ) (statements : List (Mode × String × Arguments)) (state : σ) :
    σ :=
  statements.foldl (fun state s => (engine.ask s.1 s.2.1 s.2.2 state).2) state

theorem session_logged (settings : EngineSettings) (server : Server σ)
    (statements : List (Mode × String × Arguments)) (state : σ) (log : List Call) :
    (Engine.mk settings server.logged).session statements (state, log) =
      ((Engine.mk settings server).session statements state,
        log ++ statements.flatMap fun s => (Plan.ofStatement settings s.1 s.2.1 s.2.2).calls) := by
  induction statements generalizing state log with
  | nil => simp [Engine.session]
  | cons s statements ih =>
      rw [Engine.session, List.foldl_cons, Engine.ask_eq, carryOut_logged]
      refine (ih _ _).trans ?_
      rw [List.flatMap_cons, List.append_assoc, Engine.session, Engine.session, List.foldl_cons,
        Engine.ask_eq]

/-- Whatever a store answers, it is asked at most once for a statement. Nothing that is wrong with a
statement is found behind the call, and what the caller gets is the reply in the shape of the mode.
Executors ask in the same way for an intent of their verbs, and not at all for another. -/
theorem calls_of_statement (settings : EngineSettings) (server : Server σ) (state : σ)
    (log : List Call) :
    (∀ mode text args,
      match Sql.parse text args with
      | .error (.parse e) =>
        (Engine.mk settings server.logged).ask mode text args (state, log) =
          (if settings.policy = .failSoft then .ok mode.empty else .error (.parse e), state, log)
      | .error (.binding e) =>
        (Engine.mk settings server.logged).ask mode text args (state, log) =
          (.error (.binding e), state, log)
      | .ok intent =>
        if mode.admits intent.verb then
          ∃ call, Asks mode intent call ∧
            (Engine.mk settings server.logged).ask mode text args (state, log) =
              (mode.shape call (server.answer call state).1, (server.answer call state).2,
                log ++ [call])
        else
          (Engine.mk settings server.logged).ask mode text args (state, log) =
            (.error (.wrongCall intent.verb mode), state, log)) ∧
    (∀ intent mode call, Asks mode intent call → Plan.ofIntent intent mode = .call call) ∧
    (∀ intent mode,
      let plan := Plan.ofIntent intent mode
      let done := plan.carryOut server .nothing Outcome.shape state
      (Engine.mk settings server.logged).executeIntent intent mode (state, log) =
        (done.1, done.2, log ++ plan.calls)) ∧
    ∀ executors intent mode,
      let plan := if ∃ e ∈ executors, e.verb = intent.verb then Plan.ofIntent intent mode else .idle
      let done := plan.carryOut server .nothing Outcome.shape state
      execute server.logged executors intent mode (state, log) =
        (done.1, done.2, log ++ plan.calls) := by
  refine ⟨fun mode text args => ?_, fun _ _ _ => Asks.ofIntent, fun intent mode => ?_,
    fun executors intent mode => ?_⟩
  · rw [Engine.ask_eq, carryOut_logged, Plan.ofStatement]
    cases hp : Sql.parse text args with
    | error e =>
        cases e with
        | binding e => simp only [Plan.carryOut, Plan.calls, List.append_nil]
        | parse e =>
            by_cases hs : settings.policy = .failSoft
            · simp only [if_pos hs, Plan.carryOut, Plan.calls, List.append_nil]
            · simp only [if_neg hs, Plan.carryOut, Plan.calls, List.append_nil]
    | ok intent =>
        by_cases hm : mode.admits intent.verb
        · obtain ⟨call, hcall⟩ := exists_asks_of_parse hp hm
          simp only [if_pos hm]
          refine ⟨call, hcall, ?_⟩
          rw [hcall.ofIntent]
          rfl
        · simp only [if_neg hm, Plan.carryOut, Plan.calls, List.append_nil]
  · simp only [Engine.executeIntent_eq, carryOut_logged]
  · simp only [execute_eq, carryOut_logged, Plan.ofExecutors]

end DocQuery
