import DocQuery.Proofs.Store.Table
import Mathlib.Data.List.Forall2
import Mathlib.Data.List.Induction

namespace DocQuery.Store

variable {db : Database}

namespace Database

theorem exists_of_bind_eq_ok {α β ε : Type} {x : Except ε α} {f : α → Except ε β} {b : β}
    (h : (x >>= f) = .ok b) : ∃ a, x = .ok a ∧ f a = .ok b := by
  cases x with
  | error e => cases h
  | ok a => exact ⟨a, rfl, h⟩

theorem map_eq_ok_iff {α β ε : Type} {x : Except ε α} {f : α → β} {b : β} :
    x.map f = .ok b ↔ ∃ a, x = .ok a ∧ f a = b := by
  cases x <;> simp [Except.map]

theorem map_eq_error_iff {α β ε : Type} {x : Except ε α} {f : α → β} {e : ε} :
    x.map f = .error e ↔ x = .error e := by
  cases x <;> simp [Except.map]

theorem forall₂_of_mapM {α β ε : Type} {f : α → Except ε β} {xs : List α} {ys : List β}
    (h : xs.mapM f = .ok ys) : List.Forall₂ (fun x y => f x = .ok y) xs ys := by
  induction xs generalizing ys with
  | nil =>
      cases h
      exact .nil
  | cons x xs ih =>
      rw [List.mapM_cons] at h
      obtain ⟨z, hx, h⟩ := exists_of_bind_eq_ok h
      obtain ⟨zs, hxs, h⟩ := exists_of_bind_eq_ok h
      obtain rfl : z :: zs = ys := Except.ok.inj h
      exact .cons hx (ih hxs)

theorem mapM_eq_error_iff {α β ε : Type} {f : α → Except ε β} {xs : List α} {e : ε} :
    xs.mapM f = .error e ↔ ∃ before x after, xs = before ++ x :: after ∧
      (∀ y ∈ before, ∃ z, f y = .ok z) ∧ f x = .error e := by
  induction xs with
  | nil =>
      constructor
      · intro h
        cases h
      · rintro ⟨before, x, after, h, -, -⟩
        cases before <;> cases h
  | cons x xs ih =>
      rw [List.mapM_cons]
      constructor
      · intro h
        cases hx : f x with
        | error e' =>
            rw [hx] at h
            cases h
            exact ⟨[], x, xs, rfl, nofun, hx⟩
        | ok z =>
            cases hxs : xs.mapM f with
            | error e' =>
                rw [hx, hxs] at h
                cases h
                obtain ⟨before, y, after, rfl, hbefore, hy⟩ := ih.mp hxs
                exact ⟨x :: before, y, after, rfl, List.forall_mem_cons.mpr ⟨⟨z, hx⟩, hbefore⟩, hy⟩
            | ok zs =>
                rw [hx, hxs] at h
                cases h
      · rintro ⟨before, y, after, h, hbefore, hy⟩
        cases before with
        | nil =>
            obtain ⟨rfl, rfl⟩ := List.cons.inj h
            rw [hy]
            rfl
        | cons x' before =>
            obtain ⟨rfl, rfl⟩ := List.cons.inj h
            obtain ⟨⟨z, hz⟩, hbefore⟩ := List.forall_mem_cons.mp hbefore
            rw [hz, ih.mpr ⟨before, y, after, rfl, hbefore, hy⟩]
            rfl

theorem exists_mapM_iff {α β ε : Type} {f : α → Except ε β} {xs : List α} :
    (∃ ys, xs.mapM f = .ok ys) ↔ ∀ x ∈ xs, ∃ y, f x = .ok y := by
  constructor
  · rintro ⟨ys, h⟩
    have hpairs := (forall₂_of_mapM h).imp fun x y hxy => (⟨⟨y, hxy⟩, hxy⟩ : (∃ y, f x = .ok y) ∧ _)
    exact ((List.forall₂_and_left _ _).mp hpairs).1
  · intro h
    cases hxs : xs.mapM f with
    | ok ys => exact ⟨ys, rfl⟩
    | error e =>
        obtain ⟨before, x, after, rfl, -, hx⟩ := mapM_eq_error_iff.mp hxs
        obtain ⟨y, hy⟩ := h x (by simp)
        rw [hx] at hy
        cases hy

theorem lookupEntry_of_forall₂ {α β : Type} {R : α → β → Prop} {xs : List (String × α)}
    {ys : List (String × β)} (h : List.Forall₂ (fun x y => x.1 = y.1 ∧ R x.2 y.2) xs ys)
    (key : String) : Option.Rel R (lookupEntry key xs) (lookupEntry key ys) := by
  induction h with
  | nil => exact .none
  | @cons x y xs ys hxy h ih =>
      obtain ⟨k, v⟩ := x
      obtain ⟨k', w⟩ := y
      obtain ⟨rfl, hvw⟩ : k = k' ∧ R v w := hxy
      rw [lookupEntry, lookupEntry]
      split
      · exact .some hvw
      · exact ih

theorem map_fst_of_forall₂ {α β : Type} {R : α → β → Prop} {xs : List (String × α)}
    {ys : List (String × β)} (h : List.Forall₂ (fun x y => x.1 = y.1 ∧ R x.2 y.2) xs ys) :
    xs.map (·.1) = ys.map (·.1) := by
  induction h with
  | nil => rfl
  | cons hxy h ih => rw [List.map_cons, List.map_cons, hxy.1, ih]

theorem ascending_of_forall₂ {α β : Type} {R : α → β → Prop} {xs : List (String × α)}
    {ys : List (String × β)} (h : List.Forall₂ (fun x y => x.1 = y.1 ∧ R x.2 y.2) xs ys)
    (hx : Ascending xs) : Ascending ys := by
  have hpairs : (ys.map (·.1)).Pairwise (· < ·) := map_fst_of_forall₂ h ▸ List.pairwise_map.mpr hx
  exact List.pairwise_map.mp hpairs

def seedRow (name : String) (item : Json) : Except Error Row :=
  match item.toRow? with
  | some row => .ok row
  | none => .error (.decode (.seedNotRow name))

theorem seedRows_array (name : String) (items : List Json) :
    seedRows name (.array items) = items.mapM (seedRow name) := rfl

theorem toRow?_of_seedRow {name : String} {item : Json} {row : Row}
    (h : seedRow name item = .ok row) : item.toRow? = some row := by
  rw [seedRow] at h
  split at h
  · rename_i hrow
    cases h
    exact hrow
  · cases h

theorem forall₂_of_seedRows {name : String} {items : Json} {rows : List Row}
    (h : seedRows name items = .ok rows) :
    ∃ is, items = .array is ∧ List.Forall₂ (fun item row => item.toRow? = some row) is rows := by
  cases items with
  | array is => exact ⟨is, rfl, (forall₂_of_mapM h).imp fun item row => toRow?_of_seedRow⟩
  | _ => cases h

def seedEntry (entry : String × Json) : Except Error (String × Table) :=
  (seedRows entry.1 entry.2).map fun rows => (entry.1, seedTable rows)

theorem ofJson_of_toRow? {document : Json} {tables : TextMap Json}
    (h : document.toRow? = some tables) :
    ofJson document =
      (tables.entries.mapM seedEntry).map fun seeded => ⟨.serial, .ofList seeded⟩ := by
  have hentry (entry : String × Json) : seedEntry entry = (do
      return (entry.1, seedTable (← seedRows entry.1 entry.2))) := by
    rw [seedEntry]
    cases seedRows entry.1 entry.2 <;> rfl
  simp only [ofJson, h, funext hentry]
  exact bind_pure_comp _ _

def SeededWith (items : Json) (t : Table) : Prop :=
  ∃ is rows, items = .array is ∧ t = seedTable rows ∧
    List.Forall₂ (fun item row => item.toRow? = some row) is rows

def seededItems (document : Json) (name : String) : List Json :=
  match document.toRow?.bind (·.get? name) with
  | some (.array items) => items
  | _ => []

/-- The tables of a seed are those of the document, each filled with its own rows. -/
theorem seeded_of_ofJson {document : Json} (h : ofJson document = .ok db) :
    ∃ tables seeded, document.toRow? = some tables ∧ db = ⟨.serial, .ofList seeded⟩ ∧
      List.Forall₂ (fun x y => x.1 = y.1 ∧ SeededWith x.2 y.2) tables.entries seeded := by
  cases hd : document.toRow? with
  | none =>
      rw [ofJson, hd] at h
      cases h
  | some tables =>
      rw [ofJson_of_toRow? hd] at h
      obtain ⟨seeded, hs, rfl⟩ := map_eq_ok_iff.mp h
      refine ⟨tables, seeded, rfl, rfl, (forall₂_of_mapM hs).imp fun x y hxy => ?_⟩
      obtain ⟨rows, hrows, rfl⟩ := map_eq_ok_iff.mp hxy
      obtain ⟨is, hitems, hrows⟩ := forall₂_of_seedRows hrows
      exact ⟨rfl, is, rows, hitems, rfl, hrows⟩

theorem table_ofJson {document : Json} (h : ofJson document = .ok db) (name : String) :
    db.ids = .serial ∧ ∃ rows, db.table name = seedTable rows ∧
      List.Forall₂ (fun item row => item.toRow? = some row) (seededItems document name) rows := by
  obtain ⟨tables, seeded, hd, rfl, hseeded⟩ := seeded_of_ofJson h
  refine ⟨rfl, ?_⟩
  have hget : (TextMap.ofList seeded).get? name = lookupEntry name seeded := by
    rw [TextMap.ofList, TextMap.get?_insertAll (ascending_of_forall₂ hseeded tables.ascending)]
    exact Option.or_none
  have hlookup : Option.Rel SeededWith (tables.get? name) (lookupEntry name seeded) :=
    lookupEntry_of_forall₂ hseeded name
  rw [seededItems, hd, Option.bind_some, table, hget]
  revert hlookup
  generalize tables.get? name = items?
  generalize lookupEntry name seeded = t?
  intro hlookup
  cases hlookup with
  | none => exact ⟨[], rfl, .nil⟩
  | some hitems =>
      obtain ⟨is, rows, rfl, rfl, hrows⟩ := hitems
      exact ⟨rows, rfl, hrows⟩

theorem filterMap_of_forall₂ {α β : Type} {f : α → Option β} {xs : List α} {ys : List β}
    (h : List.Forall₂ (fun x y => f x = some y) xs ys) : xs.filterMap f = ys := by
  induction h with
  | nil => rfl
  | cons hxy h ih => rw [List.filterMap_cons_some hxy, ih]

def seededRows (document : Json) (name : String) : List Row :=
  (seededItems document name).filterMap Json.toRow?

theorem table_eq_seedTable {document : Json} (h : ofJson document = .ok db) (name : String) :
    db.table name = seedTable (seededRows document name) := by
  obtain ⟨-, rows, htable, hrows⟩ := table_ofJson h name
  rw [htable, seededRows, filterMap_of_forall₂ hrows]

theorem keys_ofJson {document : Json} (h : ofJson document = .ok db) {tables : TextMap Json}
    (hd : document.toRow? = some tables) : db.tables.keys = tables.keys := by
  obtain ⟨tables', seeded, hd', rfl, hseeded⟩ := seeded_of_ofJson h
  obtain rfl : tables' = tables := Option.some.inj (hd'.symm.trans hd)
  have hkeys : (TextMap.ofList tables'.entries).keys = (TextMap.ofList seeded).keys :=
    TextMap.keys_insertAll_congr (map_fst_of_forall₂ hseeded) rfl
  rw [← hkeys, TextMap.ofList_entries]

end Database

theorem seedTable_concat (rows : List Row) (row : Row) :
    Database.seedTable (rows ++ [row]) = ((Database.seedTable rows).push .serial row).2.1 :=
  List.foldl_append

/-- Some rows come one after another, and none of them needs an id beyond the largest integer. -/
def Table.Room : Table → List Row → Prop
  | _, [] => True
  | t, row :: rows => ¬ t.Overflows row ∧ (t.push .serial row).2.1.Room rows

instance Table.decidableRoom : ∀ (t : Table) (rows : List Row), Decidable (t.Room rows)
  | _, [] => isTrue trivial
  | t, row :: rows =>
    have := decidableRoom (t.push .serial row).2.1 rows
    inferInstanceAs (Decidable (¬ t.Overflows row ∧ (t.push .serial row).2.1.Room rows))

theorem seedTable_invariant {P : Table → Prop} (hempty : P .empty)
    (hpush : ∀ t row, P t → ¬ t.Overflows row → P (t.push .serial row).2.1) {rows : List Row}
    (hroom : Table.empty.Room rows) : P (Database.seedTable rows) := by
  rw [Database.seedTable]
  generalize Table.empty = t at hempty hroom ⊢
  induction rows generalizing t with
  | nil => exact hempty
  | cons row rows ih => exact ih _ (hpush t row hempty hroom.1) hroom.2

theorem room_concat_iff {rows : List Row} {row : Row} : Table.empty.Room (rows ++ [row]) ↔
    Table.empty.Room rows ∧ ¬ (Database.seedTable rows).Overflows row := by
  rw [Database.seedTable]
  generalize Table.empty = t
  induction rows generalizing t with
  | nil => exact and_comm
  | cons first rows ih =>
      rw [List.cons_append, Table.Room, ih, ← and_assoc]
      rfl

theorem length_seedTable (rows : List Row) : (Database.seedTable rows).rows.length = rows.length := by
  induction rows using List.reverseRecOn with
  | nil => rfl
  | append_singleton rows row ih =>
      rw [seedTable_concat, Table.length_push, ih, List.length_append, List.length_singleton]

end DocQuery.Store
