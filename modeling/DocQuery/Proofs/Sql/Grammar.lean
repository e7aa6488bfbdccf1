import DocQuery.Sql.Form

namespace DocQuery.Sql

inductive Grammar where
  | insert
  | update
  | delete
  | select

def Grammar.reading : Grammar → Reading Form
  | insert => Form.readInsert
  | update => Form.readUpdate
  | delete => Form.readDelete
  | select => Form.readSelect

namespace Grammar

/-- Any word may be a name, a keyword too. -/
structure Word where
  value : String
  quoted : Bool

def Word.token (w : Word) : Token := .word w.value w.quoted

structure Keyword (text : String) where
  token : Token
  spells : token.isKeyword text = true

theorem Keyword.exists_value {text : String} (w : Keyword text) :
    ∃ value, w.token = .word value false ∧
      value.toList.map Char.toLower = text.toList.map Char.toLower := by
  have hw := w.spells
  cases ht : w.token with
  | word value quoted =>
      rw [ht] at hw
      cases quoted with
      | true => cases hw
      | false => exact ⟨value, rfl, beq_iff_eq.mp hw⟩
  | _ => rw [ht] at hw; cases hw

/-- name = word ('.' word)* -/
structure Name where
  first : Word
  others : List Word

def Name.tokens (n : Name) : List Token :=
  n.first.token :: n.others.flatMap fun w => [.period, w.token]

def Name.table (n : Name) : String :=
  String.intercalate "." (n.first.value :: n.others.map (·.value))

/-- value = '?' | string | number | '-' number | word -/
inductive Value where
  | placeholder
  | string (value : String)
  | number (text : String)
  | negative (text : String)
  | word (word : Word)

def Value.tokens : Value → List Token
  | placeholder => [.placeholder]
  | string value => [.string value]
  | number text => [.number text]
  | negative text => [.minus, .number text]
  | word w => [w.token]

def Value.expr : Value → Expr
  | placeholder => .placeholder
  | string value => .constant (.string value)
  | number text => .constant (.string text)
  | negative text => .constant (.string ("-" ++ text))
  | word w => if w.token.isKeyword "NULL" then .constant .null else .constant (.string w.value)

/-- eq = word '=' value -/
structure Equation where
  column : Word
  value : Value

def Equation.tokens (e : Equation) : List Token :=
  e.column.token :: .equal :: e.value.tokens

def Equation.equality (e : Equation) : Equality :=
  (e.column.value, e.value.expr)

/-- item (',' item)* -/
structure Series (α : Type) where
  first : α
  others : List α

namespace Series

variable {α : Type}

def items (s : Series α) : List α := s.first :: s.others

def map {β : Type} (f : α → β) (s : Series α) : Series β :=
  ⟨f s.first, s.others.map f⟩

theorem items_map {β : Type} (f : α → β) (s : Series α) : (s.map f).items = s.items.map f := rfl

def tokens (f : α → List Token) (s : Series α) : List Token :=
  f s.first ++ s.others.flatMap fun a => .comma :: f a

end Series

def ending (semicolon : Bool) : List Token := if semicolon then [.semicolon] else []

def depth (ts : List Token) : Nat := ts.foldl Form.depthBehind 0

structure Projection where
  tokens : List Token
  ne_nil : tokens ≠ []
  no_from : ∀ before t after, tokens = before ++ t :: after → depth before = 0 →
    t.isKeyword "FROM" = false

structure Limit where
  text : String
  value : Nat
  reads : Text.natural64? text.toList = some value

/-- INSERT INTO name '(' word (',' word)* ')' VALUES '(' value (',' value)* ')' -/
structure Insertion where
  insertWord : Keyword "INSERT"
  intoWord : Keyword "INTO"
  name : Name
  columns : Series Word
  valuesWord : Keyword "VALUES"
  values : Series Value
  balanced : columns.items.length = values.items.length
  semicolon : Bool

/-- An insertion that may have more or fewer values than columns. -/
structure LooseInsertion where
  insertWord : Keyword "INSERT"
  intoWord : Keyword "INTO"
  name : Name
  columns : Series Word
  valuesWord : Keyword "VALUES"
  values : Series Value
  semicolon : Bool

/-- UPDATE name SET eq (',' eq)* WHERE eq -/
structure Revision where
  updateWord : Keyword "UPDATE"
  name : Name
  setWord : Keyword "SET"
  assignments : Series Equation
  whereWord : Keyword "WHERE"
  condition : Equation
  semicolon : Bool

/-- DELETE FROM name WHERE eq -/
structure Removal where
  deleteWord : Keyword "DELETE"
  fromWord : Keyword "FROM"
  name : Name
  whereWord : Keyword "WHERE"
  condition : Equation
  semicolon : Bool

/-- SELECT projection FROM name [WHERE eq] [LIMIT number] -/
structure Query where
  selectWord : Keyword "SELECT"
  projection : Projection
  fromWord : Keyword "FROM"
  name : Name
  condition : Option (Keyword "WHERE" × Equation)
  limit : Option (Keyword "LIMIT" × Limit)
  semicolon : Bool

def Insertion.tokens (d : Insertion) : List Token :=
  d.insertWord.token :: d.intoWord.token :: (d.name.tokens ++ .leftParen ::
    (d.columns.tokens (fun w => [w.token]) ++ .rightParen :: d.valuesWord.token :: .leftParen ::
      (d.values.tokens Value.tokens ++ .rightParen :: ending d.semicolon)))

def Insertion.form (d : Insertion) : Form :=
  .insert d.name.table (d.columns.items.map (·.value)) (d.values.items.map Value.expr)

def Insertion.loose (d : Insertion) : LooseInsertion :=
  ⟨d.insertWord, d.intoWord, d.name, d.columns, d.valuesWord, d.values, d.semicolon⟩

def LooseInsertion.tokens (d : LooseInsertion) : List Token :=
  d.insertWord.token :: d.intoWord.token :: (d.name.tokens ++ .leftParen ::
    (d.columns.tokens (fun w => [w.token]) ++ .rightParen :: d.valuesWord.token :: .leftParen ::
      (d.values.tokens Value.tokens ++ .rightParen :: ending d.semicolon)))

def LooseInsertion.form (d : LooseInsertion) : Form :=
  .insert d.name.table (d.columns.items.map (·.value)) (d.values.items.map Value.expr)

def Revision.tokens (d : Revision) : List Token :=
  d.updateWord.token :: (d.name.tokens ++ d.setWord.token ::
    (d.assignments.tokens Equation.tokens ++ d.whereWord.token ::
      (d.condition.tokens ++ ending d.semicolon)))

def Revision.form (d : Revision) : Form :=
  .update d.name.table (d.assignments.items.map Equation.equality) d.condition.equality

def Removal.tokens (d : Removal) : List Token :=
  d.deleteWord.token :: d.fromWord.token :: (d.name.tokens ++ d.whereWord.token ::
    (d.condition.tokens ++ ending d.semicolon))

def Removal.form (d : Removal) : Form :=
  .delete d.name.table d.condition.equality

def clause {text : String} {α : Type} (f : α → List Token) :
    Option (Keyword text × α) → List Token
  | some (word, a) => word.token :: f a
  | none => []

def Query.tokens (d : Query) : List Token :=
  d.selectWord.token :: (d.projection.tokens ++ d.fromWord.token :: (d.name.tokens ++
    (clause Equation.tokens d.condition ++
      (clause (fun n => [.number n.text]) d.limit ++ ending d.semicolon))))

def Query.form (d : Query) : Form :=
  .select d.projection.tokens d.name.table (d.condition.map fun c => c.2.equality)
    (d.limit.map fun l => l.2.value)

inductive Derivation : Grammar → Type
  | insert (d : Insertion) : Derivation .insert
  | update (d : Revision) : Derivation .update
  | delete (d : Removal) : Derivation .delete
  | select (d : Query) : Derivation .select

namespace Derivation

def tokens : {g : Grammar} → Derivation g → List Token
  | _, insert d => d.tokens
  | _, update d => d.tokens
  | _, delete d => d.tokens
  | _, select d => d.tokens

def form : {g : Grammar} → Derivation g → Form
  | _, insert d => d.form
  | _, update d => d.form
  | _, delete d => d.form
  | _, select d => d.form

def Closed : {g : Grammar} → Derivation g → Prop
  | _, select d => depth d.projection.tokens = 0
  | _, insert _ | _, update _ | _, delete _ => True

end Derivation

end Grammar

end DocQuery.Sql
