import DocQuery.Proofs.Execution.Calls

namespace DocQuery

open Sql (Arguments Intent)
open Store (Call Server)

variable {σ : Type} {mode : Mode} {settings settings' : EngineSettings} {text : String}
  {args : Arguments}

namespace Plan

theorem ofStatement_eq_of_understood (h : ∀ e, Sql.parse text args ≠ .error (.parse e)) :
    ofStatement settings mode text args = ofStatement settings' mode text args := by
  rw [ofStatement, ofStatement]
  cases hp : Sql.parse text args with
  | ok intent => rfl
  | error e =>
      cases e with
      | binding e => rfl
      | parse e => exact absurd hp (h e)

theorem ofStatement_eq_of_policy (h : settings.policy = settings'.policy) :
    ofStatement settings mode text args = ofStatement settings' mode text args := by
  rw [ofStatement, ofStatement, h]

theorem parse_of_ofStatement_fail {e : Sql.ParseError}
    (h : ofStatement settings mode text args = .fail (.parse e)) :
    Sql.parse text args = .error (.parse e) ∧ settings.policy ≠ .failSoft := by
  rw [ofStatement] at h
  cases hp : Sql.parse text args with
  | error e' =>
      rw [hp] at h
      cases e' with
      | binding e' => cases h
      | parse e' =>
          by_cases hs : settings.policy = .failSoft
          · simp only [if_pos hs] at h
            cases h
          · simp only [if_neg hs] at h
            cases h
            exact ⟨rfl, hs⟩
  | ok intent =>
      rw [hp] at h
      by_cases hm : mode.admits intent.verb
      · obtain ⟨call, hcall⟩ := exists_asks_of_parse hp hm
        simp only [if_pos hm, hcall.ofIntent] at h
        cases h
      · simp only [if_neg hm] at h
        cases h

end Plan

theorem Mode.shape_ne_parse (mode : Mode) (call : Call) (reply : Except Store.Error call.Reply)
    (e : Sql.ParseError) : mode.shape call reply ≠ .error (.parse e) := by
  intro h
  cases reply with
  | ok r => cases call <;> cases h
  | error e' => cases call <;> cases e' <;> cases h

theorem Engine.parse_of_ask_error {server : Server σ} {state : σ} {e : Sql.ParseError}
    (h : ((Engine.mk settings server).ask mode text args state).1 = .error (.parse e)) :
    Sql.parse text args = .error (.parse e) ∧ settings.policy ≠ .failSoft := by
  rw [ask_eq] at h
  cases hp : Plan.ofStatement settings mode text args with
  | fail e' =>
      rw [hp] at h
      cases h
      exact Plan.parse_of_ofStatement_fail hp
  | idle => rw [hp] at h; cases h
  | call c => rw [hp] at h; exact absurd h (mode.shape_ne_parse c _ e)

namespace Engine

theorem ask_of_not_understood {e : Sql.ParseError} (hp : Sql.parse text args = .error (.parse e))
    (settings : EngineSettings) (server : Server σ) (mode : Mode) (state : σ) :
    (Engine.mk settings server).ask mode text args state =
      (if settings.policy = .failSoft then .ok mode.empty else .error (.parse e), state) := by
  rw [ask_eq, Plan.ofStatement, hp]
  by_cases hs : settings.policy = .failSoft
  · simp only [if_pos hs]
    rfl
  · simp only [if_neg hs]
    rfl

theorem ask_eq_of_understood (h : ∀ e, Sql.parse text args ≠ .error (.parse e))
    (settings settings' : EngineSettings) (server : Server σ) (mode : Mode) (state : σ) :
    (Engine.mk settings server).ask mode text args state =
      (Engine.mk settings' server).ask mode text args state := by
  rw [ask_eq, ask_eq, Plan.ofStatement_eq_of_understood h]

theorem ask_state_eq (settings settings' : EngineSettings) (server : Server σ) (mode : Mode)
    (text : String) (args : Arguments) (state : σ) :
    ((Engine.mk settings server).ask mode text args state).2 =
      ((Engine.mk settings' server).ask mode text args state).2 := by
  by_cases h : ∀ e, Sql.parse text args ≠ .error (.parse e)
  · rw [ask_eq_of_understood h settings settings']
  · obtain ⟨e, hp⟩ := not_forall_not.mp h
    rw [ask_of_not_understood hp, ask_of_not_understood hp]

end Engine

/-- The two policies differ only where a statement is not understood: there one of them reports the
error and the other one has nothing to report, and neither touches the store. Arguments that do not
fit and calls that do not fit are errors under both. A fallback table is never seen. -/
theorem ask_policies (server : Server σ) (mode : Mode) (text : String) (args : Arguments) (state : σ)
    (fallback fallback' : String) :
    let soft := Engine.mk ⟨.failSoft, fallback⟩ server
    let strict := Engine.mk ⟨.reject, fallback'⟩ server
    (match Sql.parse text args with
      | .error (.parse e) =>
        strict.ask mode text args state = (.error (.parse e), state) ∧
          soft.ask mode text args state = (.ok mode.empty, state)
      | .error (.binding e) =>
        strict.ask mode text args state = (.error (.binding e), state) ∧
          soft.ask mode text args state = (.error (.binding e), state)
      | .ok intent =>
        soft.ask mode text args state = strict.ask mode text args state ∧
          (mode.admits intent.verb = false →
            soft.ask mode text args state = (.error (.wrongCall intent.verb mode), state))) ∧
    (∀ e, (soft.ask mode text args state).1 ≠ .error (.parse e)) ∧
    ∀ policy, (Engine.mk ⟨policy, fallback⟩ server).ask mode text args state =
      (Engine.mk ⟨policy, fallback'⟩ server).ask mode text args state := by
  intro soft strict
  refine ⟨?_, fun e he => ?_, fun policy => ?_⟩
  · cases hp : Sql.parse text args with
    | error e =>
        cases e with
        | parse e => exact ⟨Engine.ask_of_not_understood hp _ _ _ _, Engine.ask_of_not_understood hp _ _ _ _⟩
        | binding e =>
            simp only [soft, strict, Engine.ask_eq, Plan.ofStatement, hp]
            exact ⟨rfl, rfl⟩
    | ok intent =>
        refine ⟨Engine.ask_eq_of_understood (fun e he => ?_) _ _ _ _ _, fun hm => ?_⟩
        · rw [hp] at he
          cases he
        · simp only [soft, Engine.ask_eq, Plan.ofStatement, hp, hm, Bool.false_eq_true, if_false]
          rfl
  · exact (Engine.parse_of_ask_error he).2 rfl
  · rw [Engine.ask_eq, Engine.ask_eq]
    exact congrArg _ (Plan.ofStatement_eq_of_policy rfl)

theorem session_settings (settings settings' : EngineSettings) (server : Server σ)
    (statements : List (Mode × String × Arguments)) (state : σ) :
    (Engine.mk settings server).session statements state =
      (Engine.mk settings' server).session statements state := by
  induction statements generalizing state with
  | nil => rfl
  | cons s statements ih =>
      rw [Engine.session, Engine.session, List.foldl_cons, List.foldl_cons,
        Engine.ask_state_eq settings settings']
      exact ih _

end DocQuery
