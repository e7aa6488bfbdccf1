import DocQuery.Proofs.Sql.Grammar
import DocQuery.Proofs.Sql.Spelling
import DocQuery.Sql.Filling

namespace DocQuery.Sql

open Grammar

/-- A value and the way in which it is written. -/
inductive Written where
  | argument (value : Json)
  | text (value : String)
  | null

namespace Written

def value : Written → Json
  | argument value => value
  | text value => .string value
  | null => .null

def tree : Written → Value
  | argument _ => .placeholder
  | text value => .string value
  | null => .word ⟨"NULL", false⟩

def arguments : Written → Arguments
  | argument value => [value]
  | text _ | null => []

end Written

abbrev Entry := String × Written

namespace Entry

def member (e : Entry) : String × Json := (e.1, e.2.value)

def predicate (e : Entry) : Predicate := ⟨e.1, e.2.value⟩

def equation (e : Entry) : Equation := ⟨⟨e.1, true⟩, e.2.tree⟩

end Entry

/-- The value that an insertion takes from a position. Where nothing is taken, any value may stand. -/
def positional (unused : Nat → Json) (row : List Entry) (index : Nat) : Json :=
  match row[index]? with
  | some (_, .argument value) => value
  | _ => unused index

/-- An intent and the way in which it is written. The arguments that an insertion does not look at
are arbitrary. -/
inductive Draft where
  | insert (table : String) (row : Series Entry) (unused : Nat → Json)
  | update (table : String) (row : Series Entry) (condition : Entry)
  | delete (table : String) (condition : Entry)
  | select (table : String) (condition : Option Entry) (limit : Option (Fin 0x10000000000000000))
  | count (table : String) (condition : Option Entry)

namespace Grammar

def Keyword.bare (text : String) : Keyword text :=
  ⟨.word text false, by simp [Token.isKeyword]⟩

def Name.quoted (table : String) : Name :=
  ⟨⟨table, true⟩, []⟩

def Projection.ofTokens (ts : List Token) (hne : ts ≠ []) (h : ∀ t ∈ ts, t.isKeyword "FROM" = false) :
    Projection where
  tokens := ts
  ne_nil := hne
  no_from before t after ht _ := h t (by simp [ht])

def Projection.all : Projection :=
  .ofTokens [.star] (by decide) (by decide)

def Projection.countOfAll : Projection :=
  .ofTokens [.word "COUNT" false, .leftParen, .star, .rightParen] (by decide) (by decide)

def Limit.ofFin (n : Fin 0x10000000000000000) : Limit where
  text := String.ofList (Nat.toDigits 10 n)
  value := n
  reads := by rw [String.toList_ofList, Text.natural64?_toDigits n.isLt]

end Grammar

namespace Draft

def grammar : Draft → Grammar
  | insert .. => .insert
  | update .. => .update
  | delete .. => .delete
  | select .. | count .. => .select

def verb : Draft → Verb
  | insert .. => .insert
  | update .. => .update
  | delete .. => .delete
  | select .. => .select
  | count .. => .count

def query (projection : Projection) (table : String) (condition : Option Entry)
    (limit : Option (Fin 0x10000000000000000)) : Query where
  selectWord := .bare "SELECT"
  projection := projection
  fromWord := .bare "FROM"
  name := .quoted table
  condition := condition.map fun e => (.bare "WHERE", e.equation)
  limit := limit.map fun n => (.bare "LIMIT", .ofFin n)
  semicolon := false

def derivation : (d : Draft) → Derivation d.grammar
  | insert table row _ => .insert {
      insertWord := .bare "INSERT", intoWord := .bare "INTO", name := .quoted table
      columns := row.map fun e => ⟨e.1, true⟩, valuesWord := .bare "VALUES"
      values := row.map fun e => e.2.tree, balanced := by simp [Series.items_map]
      semicolon := false }
  | update table row condition => .update {
      updateWord := .bare "UPDATE", name := .quoted table, setWord := .bare "SET"
      assignments := row.map Entry.equation, whereWord := .bare "WHERE"
      condition := condition.equation, semicolon := false }
  | delete table condition => .delete {
      deleteWord := .bare "DELETE", fromWord := .bare "FROM", name := .quoted table
      whereWord := .bare "WHERE", condition := condition.equation, semicolon := false }
  | select table condition limit => .select (query .all table condition limit)
  | count table condition => .select (query .countOfAll table condition none)

def tokens (d : Draft) : List Token := d.derivation.tokens

def arguments : Draft → Arguments
  | insert _ row unused =>
    (List.range (positionalArity (row.items.map fun e => e.2.tree.expr))).map
      (positional unused row.items)
  | update _ row condition =>
    row.items.flatMap (fun e => e.2.arguments) ++ condition.2.arguments
  | delete _ condition => condition.2.arguments
  | select _ condition _ | count _ condition => condition.toList.flatMap fun e => e.2.arguments

def intent : Draft → Intent
  | insert table row _ => .insert table (TextMap.ofList (row.items.map Entry.member))
  | update table row condition =>
    .update table (TextMap.ofList (row.items.map Entry.member)) condition.predicate
  | delete table condition => .delete table condition.predicate
  | select table condition limit =>
    .select table (condition.map Entry.predicate) (limit.map Fin.val)
  | count table condition => .count table (condition.map Entry.predicate)

end Draft

/-- The intents that statements can have. -/
inductive Intent.Expressible : Intent → Prop
  | insert (table : String) (row : Row) (hrow : row ≠ .empty) : Expressible (.insert table row)
  | update (table : String) (row : Row) (hrow : row ≠ .empty) (predicate : Predicate) :
      Expressible (.update table row predicate)
  | delete (table : String) (predicate : Predicate) : Expressible (.delete table predicate)
  | select (table : String) (predicate : Option Predicate) (limit : Option Nat)
      (hlimit : ∀ n ∈ limit, n < 0x10000000000000000) : Expressible (.select table predicate limit)
  | count (table : String) (predicate : Option Predicate) : Expressible (.count table predicate)

theorem Draft.intent_expressible (d : Draft) : d.intent.Expressible := by
  cases d with
  | insert table row unused => exact .insert table _ (TextMap.ofList_cons_ne_empty _ _)
  | update table row condition => exact .update table _ (TextMap.ofList_cons_ne_empty _ _) _
  | delete table condition => exact .delete table _
  | select table condition limit =>
      refine .select table _ _ fun n hn => ?_
      obtain ⟨m, -, rfl⟩ := Option.map_eq_some_iff.mp hn
      exact m.isLt
  | count table condition => exact .count table _

theorem exists_series (row : Row) (h : row ≠ .empty) :
    ∃ s : Series Entry, TextMap.ofList (s.items.map Entry.member) = row := by
  obtain ⟨e, es, he⟩ := List.exists_cons_of_ne_nil (l := row.entries) fun hn =>
    h (TextMap.ext fun k => by rw [TextMap.get?, hn]; rfl)
  let entry (x : String × Json) : Entry := (x.1, .argument x.2)
  have hm : ((e :: es).map entry).map Entry.member = e :: es := by
    rw [List.map_map]
    exact List.map_id _
  refine ⟨⟨entry e, es.map entry⟩, ?_⟩
  change TextMap.ofList (((e :: es).map entry).map Entry.member) = row
  rw [hm, ← he, TextMap.ofList_entries]

theorem Intent.expressible_iff (intent : Intent) :
    intent.Expressible ↔ ∃ d : Draft, d.intent = intent := by
  constructor
  · intro h
    have hp (p : Option Predicate) :
        (p.map fun p => (p.column, Written.argument p.value)).map Entry.predicate = p := by
      cases p <;> rfl
    cases h with
    | insert table row hrow =>
        obtain ⟨s, rfl⟩ := exists_series row hrow
        exact ⟨.insert table s fun _ => .null, rfl⟩
    | update table row hrow predicate =>
        obtain ⟨s, rfl⟩ := exists_series row hrow
        exact ⟨.update table s (predicate.column, .argument predicate.value), rfl⟩
    | delete table predicate =>
        exact ⟨.delete table (predicate.column, .argument predicate.value), rfl⟩
    | select table predicate limit hlimit =>
        cases limit with
        | none => exact ⟨.select table _ none, congrArg (Intent.select table · none) (hp predicate)⟩
        | some n =>
            exact ⟨.select table _ (some ⟨n, hlimit n rfl⟩),
              congrArg (Intent.select table · (some n)) (hp predicate)⟩
    | count table predicate => exact ⟨.count table _, congrArg (Intent.count table) (hp predicate)⟩
  · rintro ⟨d, rfl⟩
    exact d.intent_expressible

end DocQuery.Sql
