import DocQuery.Sql.Binding
import DocQuery.Sql.Form
import DocQuery.Sql.Intent

namespace DocQuery.Sql

def Expr.fill (argument : Except BindingError Json) : Expr → Except BindingError Json
  | placeholder => argument
  | constant value => .ok value

def Expr.arity (e : Expr) : Nat :=
  if e.isPlaceholder then 1 else 0

/-- Placeholders of a list of values are numbered by their positions or one after another. -/
inductive Numbering where
  | positions
  | placeholders
deriving DecidableEq

def Numbering.next (numbering : Numbering) (index : Nat) (e : Expr) : Nat :=
  match numbering with
  | positions => index + 1
  | placeholders => index + e.arity

/-- Puts the values of columns into a row, one after another; the last value of a column counts. -/
def fillRow (numbering : Numbering) (args : Arguments) (index : Nat) :
    List Equality → Row → Except BindingError Row
  | [], row => .ok row
  | (column, e) :: es, row => do
    let value ← e.fill (args.at? index)
    fillRow numbering args (numbering.next index e) es (row.insert column value)

def positionalArity : List Expr → Nat
  | [] => 0
  | e :: es =>
    match positionalArity es with
    | 0 => e.arity
    | n + 1 => n + 2

def placeholders (es : List Equality) : Nat :=
  (es.filter (·.2.isPlaceholder)).length

def fillCondition (args : Arguments) : Equality → Except BindingError Predicate
  | (column, e) => do
    args.expectCount e.arity
    let value ← e.fill (args.at? 0)
    return ⟨column, value⟩

def fillCondition? (args : Arguments) : Option Equality → Except BindingError (Option Predicate)
  | some condition => do
    let predicate ← fillCondition args condition
    return some predicate
  | none => do
    args.expectCount 0
    return none

/-- The intent of a form and its arguments. The condition of an update takes the last argument. The
verb of a query is a count or not; a count has no limit. -/
def Form.fill (query : Verb) (args : Arguments) : Form → Except BindingError Intent
  | .insert table columns values => do
    args.expectCount (positionalArity values)
    let row ← fillRow .positions args 0 (columns.zip values) .empty
    return .insert table row
  | .update table assignments (column, e) => do
    args.expectCount (placeholders assignments + e.arity)
    let row ← fillRow .placeholders args 0 assignments .empty
    let value ← e.fill args.last
    return .update table row ⟨column, value⟩
  | .delete table condition => do
    let predicate ← fillCondition args condition
    return .delete table predicate
  | .select _ table condition limit => do
    let predicate ← fillCondition? args condition
    return if query = .count then .count table predicate else .select table predicate limit

end DocQuery.Sql
