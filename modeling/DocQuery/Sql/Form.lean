import DocQuery.Sql.Reading
import DocQuery.Sql.Verb

namespace DocQuery.Sql

open Reading

abbrev Equality := String × Expr

inductive Form where
  | insert (table : String) (columns : List String) (values : List Expr)
  | update (table : String) (assignments : List Equality) (condition : Equality)
  | delete (table : String) (condition : Equality)
  | select (projection : List Token) (table : String) (condition : Option Equality)
      (limit : Option Nat)
deriving DecidableEq

namespace Form

def readInsert : Reading Form := do
  expectKeyword "INSERT"
  expectKeyword "INTO"
  let table ← tableName
  expect .leftParen
  let columns ← commaSeparated identifier
  expect .rightParen
  expectKeyword "VALUES"
  expect .leftParen
  let values ← commaSeparated valueExpr
  expect .rightParen
  endOfStatement
  pure (.insert table columns values)

def readUpdate : Reading Form := do
  expectKeyword "UPDATE"
  let table ← tableName
  expectKeyword "SET"
  let assignments ← commaSeparated equality
  expectKeyword "WHERE"
  let condition ← equality
  endOfStatement
  pure (.update table assignments condition)

def readDelete : Reading Form := do
  expectKeyword "DELETE"
  expectKeyword "FROM"
  let table ← tableName
  expectKeyword "WHERE"
  let condition ← equality
  endOfStatement
  pure (.delete table condition)

/-- The number of open parentheses behind a token; one that closes nothing does not count. -/
def depthBehind (depth : Nat) : Token → Nat
  | .leftParen => depth + 1
  | .rightParen => depth - 1
  | _ => depth

/-- The tokens before the first `FROM` outside parentheses, and those from there on. -/
def splitProjection (depth : Nat) : List Token → List Token × List Token
  | [] => ([], [])
  | t :: ts =>
    if depth = 0 ∧ t.isKeyword "FROM" then ([], t :: ts)
    else
      let (projection, rest) := splitProjection (depthBehind depth t) ts
      (t :: projection, rest)

def readProjection : Reading (List Token) := fun ts =>
  match splitProjection 0 ts with
  | (_, []) => unexpected (.keyword "FROM") []
  | ([], rest) => unexpected .columnList rest
  | (projection, rest) => (.ok projection, rest)

def readLimit : Reading Nat
  | .number text :: ts =>
    match Text.natural64? text.toList with
    | some n => (.ok n, ts)
    | none => (.error (.invalidLimit (some (.number text))), ts)
  | ts => (.error (.invalidLimit ts.head?), ts.tail)

def readBehind {α : Type} (keyword : String) (r : Reading α) : Reading (Option α) := do
  if ← eatKeyword keyword then
    let x ← r
    pure (some x)
  else pure none

def readSelect : Reading Form := do
  expectKeyword "SELECT"
  let projection ← readProjection
  expectKeyword "FROM"
  let table ← tableName
  let condition ← readBehind "WHERE" equality
  let limit ← readBehind "LIMIT" readLimit
  endOfStatement
  pure (.select projection table condition limit)

def check : Form → Except ParseError Form
  | insert table columns values =>
    if columns.length = values.length then .ok (.insert table columns values)
    else .error (.columnValueMismatch columns.length values.length)
  | form => .ok form

def ofTokens (r : Reading Form) (tokens : List Token) : Except ParseError Form :=
  (r tokens).1.bind check

end Form

end DocQuery.Sql
