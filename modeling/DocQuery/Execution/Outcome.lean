import DocQuery.Predicate
import DocQuery.Sql.Verb

namespace DocQuery

inductive Outcome where
  | rows (rows : List Row)
  | single (row : Option Row)
  | count (n : Nat)
  | nothing
deriving DecidableEq

/-- The id of the first row that a mutation touched, and the number of those rows. -/
structure RunResult where
  id : Option Json
  changes : Nat
deriving DecidableEq

def RunResult.empty : RunResult := ⟨none, 0⟩

/-- The id that a mutation of some rows reports; a removed row has none to report. -/
def Sql.Verb.reportedId (verb : Verb) (rows : List Row) : Option Json :=
  match verb with
  | insert | update => rows.head?.bind Row.id?
  | _ => none

namespace Outcome

def runResult (verb : Sql.Verb) : Outcome → RunResult
  | rows rs => ⟨verb.reportedId rs, rs.length⟩
  | single row => ⟨verb.reportedId row.toList, row.toList.length⟩
  | count _ | nothing => .empty

def firstRow : Outcome → Option Row
  | rows rs => rs.head?
  | single row => row
  | count n => some (Row.ofCount n)
  | nothing => none

def allRows : Outcome → List Row
  | rows rs => rs
  | single row => row.toList
  | count n => [Row.ofCount n]
  | nothing => []

end Outcome

end DocQuery
