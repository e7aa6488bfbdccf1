import DocQuery.Json.Reader
import DocQuery.Store.Call
import DocQuery.Store.Uuid

namespace DocQuery.Store

/-- Serial ids count up in each table. Other ids are texts that come from outside, of which some have
been taken. -/
inductive IdSource where
  | serial
  | texts (text : Nat → String) (taken : Nat)

/-- A source that gives the same texts in every run. -/
def IdSource.drawn (draws : Nat) : IdSource :=
  .texts uuidText draws

/-- Rows in the order of their insertion, and a counter that serial ids come from. -/
structure Table where
  rows : List Row
  lastId : Int64
deriving DecidableEq

namespace Table

def empty : Table := ⟨[], 0⟩

/-- Keeps serial ids above an id that is an integer with sign of 64 bits. -/
def observe (t : Table) : Json → Table
  | .number (.int n _ _) =>
    if n < 0x8000000000000000 then { t with lastId := max t.lastId (.ofInt n) } else t
  | _ => t

/-- The sum has 64 bits: behind the largest integer comes the least one. -/
def nextId (t : Table) : Int64 := t.lastId + 1

def identify (ids : IdSource) (t : Table) (row : Row) : Row × Table × IdSource :=
  match row.id?, ids with
  | some id, ids => (row, t.observe id, ids)
  | none, .serial =>
    (row.insert idColumn (.ofInt64 t.nextId), { t with lastId := t.nextId }, .serial)
  | none, .texts text taken =>
    (row.insert idColumn (.string (text taken)), t, .texts text (taken + 1))

def push (ids : IdSource) (t : Table) (row : Row) : Row × Table × IdSource :=
  let (row, t, ids) := t.identify ids row
  (row, { t with rows := t.rows ++ [row] }, ids)

def updated (t : Table) (values : Row) (filter : Predicate) : List Row :=
  (t.rows.filter filter.holds).map (·.overlay values)

def revise (values : Row) (filter : Predicate) (row : Row) : Row :=
  if filter.holds row then row.overlay values else row

/-- An id among the new values counts only if a row takes it. -/
def update (t : Table) (values : Row) (filter : Predicate) : Table :=
  let revised : Table := ⟨t.rows.map (revise values filter), t.lastId⟩
  match values.get? idColumn with
  | some id => if (t.updated values filter).isEmpty then revised else revised.observe id
  | none => revised

def delete (t : Table) (filter : Predicate) : Table :=
  { t with rows := t.rows.filter fun row => !filter.holds row }

def select (t : Table) (filter : Option Predicate) (limit : Option Nat) : List Row :=
  let wanted := t.rows.filter (Row.wanted filter)
  match limit with
  | some n => wanted.take n
  | none => wanted

def count (t : Table) (filter : Option Predicate) : Nat :=
  (t.rows.filter (Row.wanted filter)).length

end Table

structure Database where
  ids : IdSource
  tables : TextMap Table

namespace Database

def empty (ids : IdSource) : Database := ⟨ids, .empty⟩

def tableNames (db : Database) : List String :=
  db.tables.keys

def table (db : Database) (name : String) : Table :=
  (db.tables.get? name).getD .empty

def insert (db : Database) (name : String) (values : Row) : List Row × Database :=
  let (row, t, ids) := (db.table name).push db.ids values
  ([row], ⟨ids, db.tables.insert name t⟩)

/-- A change of a table that exists; it creates none. -/
def change (db : Database) (name : String) (f : Table → Table) : Database :=
  match db.tables.get? name with
  | some t => { db with tables := db.tables.insert name (f t) }
  | none => db

def update (db : Database) (name : String) (values : Row) (filter : Predicate) :
    List Row × Database :=
  ((db.table name).updated values filter, db.change name (·.update values filter))

def delete (db : Database) (name : String) (filter : Predicate) : List Row × Database :=
  ((db.table name).rows.filter filter.holds, db.change name (·.delete filter))

def selectSingle (db : Database) (name : String) (filter : Option Predicate) : Except Error Row :=
  match (db.table name).select filter (some 1) with
  | row :: _ => .ok row
  | [] => .error (.notFound name)

def answer : (call : Call) → Database → Except Error call.Reply × Database
  | .insert name values, db => let (rows, db) := db.insert name values; (.ok rows, db)
  | .update name values filter, db => let (rows, db) := db.update name values filter; (.ok rows, db)
  | .delete name filter, db => let (rows, db) := db.delete name filter; (.ok rows, db)
  | .select name filter limit, db => (.ok ((db.table name).select filter limit), db)
  | .selectSingle name filter, db => (db.selectSingle name filter, db)
  | .count name filter, db => (.ok ((db.table name).count filter), db)

def server : Server Database := ⟨answer⟩

def seedTable (rows : List Row) : Table :=
  rows.foldl (fun t row => (t.push .serial row).2.1) .empty

def seedRows (name : String) : Json → Except Error (List Row)
  | .array items => items.mapM fun item =>
    match item.toRow? with
    | some row => .ok row
    | none => .error (.decode (.seedNotRow name))
  | _ => .error (.decode (.seedNotRows name))

def ofJson (document : Json) : Except Error Database :=
  match document.toRow? with
  | none => .error (.decode .seedNotObject)
  | some tables => do
    let seeded ← tables.entries.mapM fun (name, rows) =>
      return (name, seedTable (← seedRows name rows))
    return ⟨.serial, .ofList seeded⟩

def ofText (text : String) : Except Error Database :=
  match Json.read? text with
  | some document => ofJson document
  | none => .error (.decode .malformed)

end Database

end DocQuery.Store
