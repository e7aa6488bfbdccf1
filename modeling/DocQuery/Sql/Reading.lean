import DocQuery.Json.Basic
import DocQuery.Sql.Error
import DocQuery.Text.Natural

namespace DocQuery.Sql

inductive Expr where
  | placeholder
  | constant (value : Json)
deriving DecidableEq

def Expr.isPlaceholder : Expr → Bool
  | placeholder => true
  | constant _ => false

/-- What a reading found and the tokens that it left, also when it fails. -/
def Reading (α : Type) : Type :=
  List Token → Except ParseError α × List Token

namespace Reading

instance : Monad Reading where
  pure x := fun ts => (.ok x, ts)
  bind r next := fun ts =>
    match r ts with
    | (.ok x, rest) => next x rest
    | (.error e, rest) => (.error e, rest)

variable {α β : Type}

theorem pure_apply (x : α) (ts : List Token) : (pure x : Reading α) ts = (.ok x, ts) := rfl

theorem bind_ok {r : Reading α} {next : α → Reading β} {ts rest : List Token} {x : α}
    (h : r ts = (.ok x, rest)) : (r >>= next) ts = next x rest := by
  simp only [Bind.bind, h]

theorem bind_error {r : Reading α} {next : α → Reading β} {ts rest : List Token} {e : ParseError}
    (h : r ts = (.error e, rest)) : (r >>= next) ts = (.error e, rest) := by
  simp only [Bind.bind, h]

def unexpected (expected : Expectation) : Reading α := fun ts =>
  (.error (.unexpected expected ts.head?), ts)

def peek : Reading (Option Token) := fun ts => (.ok ts.head?, ts)

def advance : Reading (Option Token) := fun ts => (.ok ts.head?, ts.tail)

def check (token : Token) : Reading Bool := fun ts => (.ok (ts.head? == some token), ts)

def eat (token : Token) : Reading Bool
  | t :: ts => if t = token then (.ok true, ts) else (.ok false, t :: ts)
  | [] => (.ok false, [])

def expect (token : Token) : Reading Unit
  | t :: ts => if t = token then (.ok (), ts) else unexpected (.token token) (t :: ts)
  | [] => unexpected (.token token) []

def checkKeyword (keyword : String) : Reading Bool := fun ts =>
  (.ok (ts.head?.any (·.isKeyword keyword)), ts)

def eatKeyword (keyword : String) : Reading Bool
  | t :: ts => if t.isKeyword keyword then (.ok true, ts) else (.ok false, t :: ts)
  | [] => (.ok false, [])

def expectKeyword (keyword : String) : Reading Unit
  | t :: ts => if t.isKeyword keyword then (.ok (), ts) else unexpected (.keyword keyword) (t :: ts)
  | [] => unexpected (.keyword keyword) []

def identifier : Reading String
  | .word value _ :: ts => (.ok value, ts)
  | ts => unexpected .identifier ts

def qualified : Reading (List String)
  | .period :: .word value _ :: ts =>
    match qualified ts with
    | (.ok values, rest) => (.ok (value :: values), rest)
    | (.error e, rest) => (.error e, rest)
  | .period :: ts => unexpected .identifier ts
  | ts => (.ok [], ts)

def tableParts : Reading (List String) := do
  let first ← identifier
  let others ← qualified
  pure (first :: others)

def joinTable (parts : List String) : String :=
  String.intercalate "." parts

def tableName : Reading String := do
  let parts ← tableParts
  pure (joinTable parts)

/-- A number may have a minus sign; the bare word `NULL` is null; other words are texts. -/
def valueExpr : Reading Expr
  | .placeholder :: ts => (.ok .placeholder, ts)
  | .string value :: ts => (.ok (.constant (.string value)), ts)
  | .number text :: ts => (.ok (.constant (.string text)), ts)
  | .minus :: .number text :: ts => (.ok (.constant (.string ("-" ++ text))), ts)
  | .minus :: ts => unexpected .number ts.tail
  | .word value quoted :: ts =>
    if (Token.word value quoted).isKeyword "NULL" then (.ok (.constant .null), ts)
    else (.ok (.constant (.string value)), ts)
  | ts => unexpected .value ts

def equality : Reading (String × Expr) := do
  let column ← identifier
  expect .equal
  let value ← valueExpr
  pure (column, value)

def moreItems (item : Reading α) : Nat → Reading (List α)
  | 0 => pure []
  | fuel + 1 => do
    if ← eat .comma then
      let x ← item
      let xs ← moreItems item fuel
      pure (x :: xs)
    else pure []

/-- The items that follow a first one. A comma is a token, which bounds their number. -/
def otherItems (item : Reading α) : Reading (List α) := fun ts =>
  moreItems item ts.length ts

def commaSeparated (item : Reading α) : Reading (List α) := do
  let x ← item
  let xs ← otherItems item
  pure (x :: xs)

def noMoreTokens : Reading Unit
  | [] => (.ok (), [])
  | ts => unexpected .endOfStatement ts

def endOfStatement : Reading Unit := do
  let _ ← eat .semicolon
  noMoreTokens

end Reading

end DocQuery.Sql
