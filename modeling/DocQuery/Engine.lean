import DocQuery.Error
import DocQuery.Settings.Engine
import DocQuery.Execution.Executor

namespace DocQuery

open Sql (Arguments Intent)
open Store (Server)

variable {σ : Type}

/-- Lets the first executor that handles an intent carry it out. An intent that nobody handles has
no effect. -/
def execute (server : Server σ) (executors : List Executor) (intent : Intent) (mode : Mode)
    (state : σ) : Except Error Outcome × σ :=
  match executors.find? (·.handles intent) with
  | none => (.ok .nothing, state)
  | some executor =>
    match executor.call intent mode with
    | .error e => (.error (.parse e), state)
    | .ok call =>
      let (reply, state) := server.answer call state
      ((Outcome.ofReply call reply).mapError .store, state)

structure Engine (σ : Type) where
  settings : EngineSettings
  server : Server σ

namespace Engine

def parse (statement : String) (args : Arguments) : Except Error Intent :=
  (Sql.parse statement args).mapError .ofStatement

def resolve (engine : Engine σ) (statement : String) (args : Arguments) : Except Error Intent :=
  match parse statement args, engine.settings.policy with
  | .error (.parse _), .failSoft => .ok (.unknown engine.settings.fallbackTable)
  | result, _ => result

def checkCall (intent : Intent) (mode : Mode) : Except Error Unit :=
  if mode.admits intent.verb then .ok () else .error (.wrongCall intent.verb mode)

def executeIntent (engine : Engine σ) (intent : Intent) (mode : Mode) (state : σ) :
    Except Error Outcome × σ :=
  execute engine.server Executor.list intent mode state

def perform (engine : Engine σ) (mode : Mode) (statement : String) (args : Arguments) (state : σ) :
    Except Error (Intent × Outcome) × σ :=
  match (do
    let intent ← engine.resolve statement args
    checkCall intent mode
    return intent : Except Error Intent) with
  | .error e => (.error e, state)
  | .ok intent =>
    let (outcome, state) := engine.executeIntent intent mode state
    (outcome.map (intent, ·), state)

def run (engine : Engine σ) (statement : String) (args : Arguments) (state : σ) :
    Except Error RunResult × σ :=
  let (result, state) := engine.perform .run statement args state
  (result.map fun (intent, outcome) => outcome.runResult intent.verb, state)

def get (engine : Engine σ) (statement : String) (args : Arguments) (state : σ) :
    Except Error (Option Row) × σ :=
  let (result, state) := engine.perform .get statement args state
  (result.map (·.2.firstRow), state)

def all (engine : Engine σ) (statement : String) (args : Arguments) (state : σ) :
    Except Error (List Row) × σ :=
  let (result, state) := engine.perform .all statement args state
  (result.map (·.2.allRows), state)

/-- An update that is not written as a statement. -/
def update (engine : Engine σ) (table : String) (values : Row) (filter : Predicate) (state : σ) :
    Except Error RunResult × σ :=
  let (outcome, state) := engine.executeIntent (.update table values filter) .run state
  (outcome.map (·.runResult .update), state)

end Engine

end DocQuery
