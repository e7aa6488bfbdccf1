import DocQuery.Sql.Verb

namespace DocQuery

inductive Mode where
  | run
  | get
  | all
deriving DecidableEq

namespace Mode

def list : List Mode := [run, get, all]

def name : Mode → String
  | run => "run"
  | get => "get"
  | all => "all"

def ofName? (name : String) : Option Mode :=
  list.find? (·.name == name)

/-- A mutation is run and a query is read; a statement that is not understood passes anywhere. -/
def admits : Mode → Sql.Verb → Bool
  | _, .unknown => true
  | run, verb => verb.isMutation
  | get, verb | all, verb => verb.isQuery

end Mode

end DocQuery
