import DocQuery.Sql.Error
import DocQuery.Sql.Intent
import DocQuery.Store.Call
import DocQuery.Execution.Mode
import DocQuery.Execution.Outcome

namespace DocQuery

open Sql (Intent ParseError Verb)
open Store (Call)

inductive Executor where
  | insert
  | update
  | delete
  | select
  | count
deriving DecidableEq

def Sql.Intent.requiredPredicate (intent : Intent) : Except ParseError Predicate :=
  match intent.predicate with
  | some p => .ok p
  | none => .error (.missingClause .whereClause)

namespace Executor

def list : List Executor := [insert, update, delete, select, count]

def verb : Executor → Verb
  | insert => .insert
  | update => .update
  | delete => .delete
  | select => .select
  | count => .count

def ofName? (name : String) : Option Executor :=
  list.find? (·.verb.name == name)

def handles (e : Executor) (intent : Intent) : Bool :=
  intent.verb == e.verb

def call (e : Executor) (intent : Intent) (mode : Mode) : Except ParseError Call :=
  match e with
  | insert => .ok (.insert intent.table (intent.values.getD .empty))
  | update => do
    return .update intent.table (intent.setValues.getD .empty) (← intent.requiredPredicate)
  | delete => do
    return .delete intent.table (← intent.requiredPredicate)
  | select =>
    if mode = .get then .ok (.selectSingle intent.table intent.predicate)
    else .ok (.select intent.table intent.predicate intent.limit)
  | count => .ok (.count intent.table intent.predicate)

end Executor

def Outcome.ofReply : (call : Call) → Except Store.Error call.Reply → Except Store.Error Outcome
  | .insert _ _, reply | .update _ _ _, reply | .delete _ _, reply | .select _ _ _, reply =>
    reply.map .rows
  | .selectSingle _ _, .ok row => .ok (.single (some row))
  | .selectSingle _ _, .error (.notFound _) => .ok (.single none)
  | .selectSingle _ _, .error e => .error e
  | .count _ _, reply => reply.map .count

end DocQuery
