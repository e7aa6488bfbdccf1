namespace DocQuery.Sql

inductive Verb where
  | insert
  | update
  | delete
  | select
  | count
  | unknown
deriving DecidableEq

namespace Verb

def all : List Verb := [insert, update, delete, select, count, unknown]

def name : Verb → String
  | insert => "INSERT"
  | update => "UPDATE"
  | delete => "DELETE"
  | select => "SELECT"
  | count => "COUNT"
  | unknown => "UNKNOWN"

def ofName? (name : String) : Option Verb :=
  all.find? (·.name == name)

def isMutation : Verb → Bool
  | insert | update | delete => true
  | _ => false

def isQuery : Verb → Bool
  | select | count => true
  | _ => false

end Verb

end DocQuery.Sql
