import DocQuery.Sql.Intent
import DocQuery.Execution.Outcome

namespace DocQuery

def Json.ofOption {α : Type} (f : α → Json) : Option α → Json
  | some x => f x
  | none => .null

def Json.ofRows (rows : List Row) : Json :=
  .array (rows.map .ofRow)

def Predicate.toJson (p : Predicate) : Json :=
  .object [("column", .string p.column), ("value", p.value)]

def Sql.Intent.toJson (intent : Intent) : Json :=
  .object <|
    [("verb", .string intent.verb.name), ("table", .string intent.table)] ++
    (intent.values.map fun row => ("values", .ofRow row)).toList ++
    (intent.setValues.map fun row => ("set_values", .ofRow row)).toList ++
    (intent.predicate.map fun p => ("predicate", p.toJson)).toList ++
    (intent.limit.map fun n => ("limit", .ofNat n)).toList

def RunResult.toJson (r : RunResult) : Json :=
  .object [("id", r.id.getD .null), ("changes", .ofNat r.changes)]

end DocQuery
