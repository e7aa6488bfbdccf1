import DocQuery.Predicate
import DocQuery.Sql.Verb

namespace DocQuery.Sql

structure Intent where
  verb : Verb
  table : String
  values : Option Row
  setValues : Option Row
  predicate : Option Predicate
  limit : Option Nat
deriving DecidableEq

namespace Intent

def bare (verb : Verb) (table : String) : Intent :=
  ⟨verb, table, none, none, none, none⟩

def insert (table : String) (values : Row) : Intent :=
  { bare .insert table with values := some values }

def update (table : String) (setValues : Row) (predicate : Predicate) : Intent :=
  { bare .update table with setValues := some setValues, predicate := some predicate }

def delete (table : String) (predicate : Predicate) : Intent :=
  { bare .delete table with predicate := some predicate }

def select (table : String) (predicate : Option Predicate) (limit : Option Nat) : Intent :=
  { bare .select table with predicate := predicate, limit := limit }

def count (table : String) (predicate : Option Predicate) : Intent :=
  { bare .count table with predicate := predicate }

def unknown (table : String) : Intent :=
  bare .unknown table

end Intent

end DocQuery.Sql
