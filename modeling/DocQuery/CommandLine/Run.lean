import DocQuery.CommandLine.Invocation
import DocQuery.Report
import DocQuery.Rest.Client
import DocQuery.Store.Memory
import DocQuery.Engine

namespace DocQuery.CommandLine

open Store (Database)

inductive Failure where
  | seed (file : String)
  | noConnection
  | error (cause : Error)
deriving DecidableEq

def Failure.message : Failure → String
  | seed file => "load seed file " ++ file
  | noConnection => "REST store needs --url/--key or DOCSQL_STORE_URL/DOCSQL_STORE_KEY"
  | error cause => cause.message

inductive Ending where
  | value (value : Json)
  | failure (failure : Failure)
  | usage
deriving DecidableEq

def Ending.exitCode : Ending → Nat
  | value _ => 0
  | failure _ => 1
  | usage => 2

inductive Opened where
  | memory (database : Database)
  | rest (client : Rest.Client)

/-- An argument is a JSON value if it can be read as one, and text if not. -/
def bindArgument (text : String) : Json :=
  (Json.read? text).getD (.string text)

def engineSettings (i : Invocation) (env : Environment) : EngineSettings :=
  let settings := EngineSettings.ofEnvironment env
  if i.has .strict then { settings with policy := .reject } else settings

/-- The environment is asked unless both the URL and the key are given. -/
def connectionSettings (i : Invocation) (env : Environment) :
    Except Failure ConnectionSettings := do
  let settings ← match i.value? .url, i.value? .key with
    | some url, some key => pure (ConnectionSettings.ofUrl url key)
    | _, _ => (ConnectionSettings.ofEnvironment env).mapError fun _ => .noConnection
  return { settings with
    schema := (i.value? .schema).or settings.schema
    timeout := i.timeout?.getD settings.timeout }

def openDatabase (i : Invocation) (files : String → Option String) : Except Failure Database :=
  match i.seedFile? with
  | none => .ok (.empty .serial)
  | some file =>
    match files file with
    | none => .error (.seed file)
    | some text => (Database.ofText text).mapError fun _ => .seed file

def openStore (i : Invocation) (env : Environment) (files : String → Option String) :
    Except Failure Opened :=
  if i.has .memory then (openDatabase i files).map .memory
  else do
    let settings ← connectionSettings i env
    ((Rest.Client.ofSettings settings).mapError fun e => .error (.settings e)).map .rest

def callResult {σ : Type} (t : Engine σ) (mode : Mode) (statement : String)
    (args : Sql.Arguments) (state : σ) : Except Error Json :=
  match mode with
  | .run => (t.run statement args state).1.map (·.toJson)
  | .get => (t.get statement args state).1.map (.ofOption .ofRow)
  | .all => (t.all statement args state).1.map .ofRows

def noAnswer : Rest.Peer Unit := fun _ _ => (none, ())

def call (i : Invocation) (mode : Mode) (env : Environment) (files : String → Option String) :
    Except Failure Json := do
  let settings := engineSettings i env
  let args := i.args.map bindArgument
  let result := match ← openStore i env files with
    | .memory db => callResult ⟨settings, Database.server⟩ mode i.statement args db
    | .rest client => callResult ⟨settings, client.server noAnswer⟩ mode i.statement args ()
  result.mapError .error

def explain (i : Invocation) : Except Failure Json :=
  ((Engine.parse i.statement (i.args.map bindArgument)).mapError .error).map (·.toJson)

def run (words : List String) (env : Environment) (files : String → Option String) : Ending :=
  match Invocation.ofWords? words with
  | none => .usage
  | some i =>
    let result := match i.command with
      | .explain => explain i
      | .call mode => call i mode env files
    match result with
    | .ok value => .value value
    | .error failure => .failure failure

end DocQuery.CommandLine
