import DocQuery.Proofs.Sql.DraftText
import DocQuery.Proofs.Sql.Projections
import DocQuery.Proofs.Store.Session

namespace DocQuery

open Sql (Arguments)
open Sql.Grammar
open Store (Database)

variable {text : String} {args : Arguments} {d : Query}

/-- The rows that a query for a source is about, in the order in which they are stored. -/
def Sql.Grammar.Source.rows (s : Source) (args : Arguments) (db : Database) : List Row :=
  (db.table s.name.table).rows.filter (Row.wanted (s.predicate args))

def Sql.Grammar.Query.limited (d : Query) (rows : List Row) : List Row :=
  match d.limit with
  | some (_, n) => rows.take n.value
  | none => rows

theorem rows_of_no_table {s : Source} {db : Database} (h : db.tables.get? s.name.table = none) :
    s.rows args db = [] := by
  rw [Source.rows, Database.table, h]
  rfl

theorem ask_count (hts : Sql.tokenize text = .ok d.tokens) (hp : d.projection.IsCount)
    (hfits : d.source.Fits args) (settings : EngineSettings) (db : Database) :
    ∃ row : Row, row.keys = ["count"] ∧
      row.get? "count" = some (.ofNat (d.source.rows args db).length) ∧
      (Engine.mk settings Database.server).all text args db = (.ok [row], db) ∧
      (Engine.mk settings Database.server).get text args db = (.ok (some row), db) := by
  have hparse := Sql.parse_of_isCount hts hp hfits
  exact ⟨_, Row.keys_ofCount _, Row.get?_ofCount _, Store.all_count settings hparse db,
    Store.get_count settings hparse db⟩

theorem ask_list (hts : Sql.tokenize text = .ok d.tokens) (hp : d.projection.IsAll)
    (hfits : d.source.Fits args) (settings : EngineSettings) (db : Database) :
    (Engine.mk settings Database.server).all text args db =
        (.ok (d.limited (d.source.rows args db)), db) ∧
      (Engine.mk settings Database.server).get text args db =
        (.ok (d.source.rows args db).head?, db) := by
  have hparse := Sql.parse_of_isAll hts hp hfits
  have hall : (Engine.mk settings Database.server).ask .all text args db = _ :=
    Engine.ask_of_parse settings Database.server hparse rfl rfl db
  refine ⟨hall.trans ?_, Store.get_select settings hparse db⟩
  rw [Query.limited]
  cases d.limit <;> rfl

/-- Queries for one source, whatever their limits are, agree on its rows. They are understood all or
none, and then by the source and its arguments alone. -/
theorem reads_agree (settings : EngineSettings) (db : Database) (s : Source) (args : Arguments) :
    let engine := Engine.mk settings Database.server
    let rows := s.rows args db
    (s.Fits args →
      (∀ text (d : Query), Sql.tokenize text = .ok d.tokens → d.source = s → d.projection.IsCount →
        ∃ row : Row, row.keys = ["count"] ∧ row.get? "count" = some (.ofNat rows.length) ∧
          engine.all text args db = (.ok [row], db) ∧ engine.get text args db = (.ok (some row), db)) ∧
      (∀ text (d : Query), Sql.tokenize text = .ok d.tokens → d.source = s → d.projection.IsAll →
        engine.all text args db = (.ok (d.limited rows), db) ∧
          engine.get text args db = (.ok rows.head?, db))) ∧
    (¬ s.Fits args → ∀ text (d : Query), Sql.tokenize text = .ok d.tokens → d.source = s →
      d.projection.IsCount ∨ d.projection.IsAll → ∃ e, Sql.parse text args = .error e) ∧
    (db.tables.get? s.name.table = none → rows = []) := by
  refine ⟨fun hfits => ⟨?_, ?_⟩, ?_, rows_of_no_table⟩
  · rintro text d hts rfl hp
    exact ask_count hts hp hfits settings db
  · rintro text d hts rfl hp
    exact ask_list hts hp hfits settings db
  · rintro hfits text d hts rfl hp
    exact (Sql.parse_of_source hts hp.symm args).2 hfits

def threeRows : Database :=
  ⟨.serial, .ofList [("t", ⟨[1, 2, 1].map fun n => TextMap.empty.insert "a" (.ofNat n), 0⟩)]⟩

theorem reads_agree_of_two :
    let engine := Engine.mk .standard Database.server
    let row : Row := TextMap.empty.insert "a" (.ofNat 1)
    (∃ counted : Row, counted.get? "count" = some (.ofNat 2) ∧
        engine.all "SELECT COUNT ( * ) FROM \"t\" WHERE \"a\" = '1'" [] threeRows =
          (.ok [counted], threeRows)) ∧
      engine.all "SELECT * FROM \"t\" WHERE \"a\" = '1' LIMIT 0" [] threeRows = (.ok [], threeRows) ∧
      engine.get "SELECT * FROM \"t\" WHERE \"a\" = '1' LIMIT 0" [] threeRows =
        (.ok (some row), threeRows) := by
  intro engine row
  let condition : Option Sql.Entry := some ("a", .text "1")
  let s : Source := (Sql.Draft.query .all "t" condition none).source
  have hrows : s.rows [] threeRows = [row, row] := by
    decide +kernel
  have hcount : Sql.tokenize "SELECT COUNT ( * ) FROM \"t\" WHERE \"a\" = '1'" =
      .ok (Sql.Draft.query .countOfAll "t" condition none).tokens :=
    Sql.Draft.tokenize (d := .count "t" (some ("a", .text "1"))) (Sql.spells_spaced _)
  have hlist : Sql.tokenize "SELECT * FROM \"t\" WHERE \"a\" = '1' LIMIT 0" =
      .ok (Sql.Draft.query .all "t" condition (some 0)).tokens :=
    Sql.Draft.tokenize (d := .select "t" (some ("a", .text "1")) (some 0)) (Sql.spells_spaced _)
  obtain ⟨hreads, -, -⟩ := reads_agree .standard threeRows s []
  obtain ⟨hcounts, hlists⟩ := hreads ⟨by decide, rfl⟩
  rw [hrows] at hcounts hlists
  obtain ⟨counted, -, htwo, hall, -⟩ := hcounts _ _ hcount rfl ⟨.bare "COUNT", rfl⟩
  obtain ⟨hall', hget⟩ := hlists _ _ hlist rfl rfl
  exact ⟨⟨counted, htwo, hall⟩, hall', hget⟩

end DocQuery
