namespace DocQuery

variable {α β : Type}

/-- Puts a value under a key of an ascending list, in place of the value that stood there. -/
def insertEntry (key : String) (value : α) : List (String × α) → List (String × α)
  | [] => [(key, value)]
  | (k, v) :: rest =>
    if key < k then (key, value) :: (k, v) :: rest
    else if key = k then (key, value) :: rest
    else (k, v) :: insertEntry key value rest

def lookupEntry (key : String) : List (String × α) → Option α
  | [] => none
  | (k, v) :: rest => if key = k then some v else lookupEntry key rest

def Ascending (entries : List (String × α)) : Prop :=
  entries.Pairwise fun a b => a.1 < b.1

theorem mem_insertEntry {key : String} {value : α} {e : String × α} :
    ∀ {entries : List (String × α)}, e ∈ insertEntry key value entries →
      e = (key, value) ∨ e ∈ entries
  | [], h => by simpa [insertEntry] using h
  | (k, v) :: rest, h => by
    simp only [insertEntry] at h
    split at h
    · simpa using h
    · split at h
      · rcases List.mem_cons.1 h with h | h
        · exact .inl h
        · exact .inr (List.mem_cons_of_mem _ h)
      · rcases List.mem_cons.1 h with h | h
        · exact .inr (by simp [h])
        · rcases mem_insertEntry h with h | h
          · exact .inl h
          · exact .inr (List.mem_cons_of_mem _ h)

theorem ascending_insertEntry {key : String} {value : α} :
    ∀ {entries : List (String × α)}, Ascending entries →
      Ascending (insertEntry key value entries)
  | [], _ => by simp [Ascending, insertEntry]
  | (k, v) :: rest, h => by
    obtain ⟨hk, hrest⟩ := List.pairwise_cons.1 h
    simp only [insertEntry]
    split
    · rename_i hlt
      refine List.pairwise_cons.2 ⟨fun e he => ?_, h⟩
      rcases List.mem_cons.1 he with rfl | he
      · exact hlt
      · exact String.lt_trans hlt (hk e he)
    · rename_i hlt
      split
      · rename_i heq
        exact List.pairwise_cons.2 ⟨fun e he => heq ▸ hk e he, hrest⟩
      · rename_i hne
        refine List.pairwise_cons.2 ⟨fun e he => ?_, ascending_insertEntry hrest⟩
        rcases mem_insertEntry he with rfl | he
        · rcases Decidable.em (k < key) with h' | h'
          · exact h'
          · exact absurd (String.le_antisymm (String.not_lt.1 h') (String.not_lt.1 hlt)) hne
        · exact hk e he

theorem lookupEntry_insertEntry {key k : String} {value : α} :
    ∀ {entries : List (String × α)},
      lookupEntry k (insertEntry key value entries) =
        if k = key then some value else lookupEntry k entries
  | [] => by simp [insertEntry, lookupEntry]
  | (k', v) :: rest => by
    simp only [insertEntry]
    split
    · simp [lookupEntry]
    · split
      · rename_i heq
        subst heq
        simp only [lookupEntry]
        split <;> rfl
      · rename_i hne
        simp only [lookupEntry, lookupEntry_insertEntry]
        by_cases h : k = k'
        · subst h
          simp [Ne.symm hne]
        · simp [h]

theorem lookupEntry_eq_none {key : String} :
    ∀ {entries : List (String × α)}, (∀ e ∈ entries, key < e.1) → lookupEntry key entries = none
  | [], _ => rfl
  | (k, v) :: rest, h => by
    have hk : key < k := h (k, v) (by simp)
    have hne : key ≠ k := fun e => String.lt_irrefl k (e ▸ hk)
    simp only [lookupEntry, if_neg hne]
    exact lookupEntry_eq_none fun e he => h e (List.mem_cons_of_mem _ he)

theorem mem_of_lookupEntry {key : String} {value : α} :
    ∀ {entries : List (String × α)}, lookupEntry key entries = some value → (key, value) ∈ entries
  | (k, v) :: rest, h => by
    rw [lookupEntry] at h
    split at h
    · rename_i heq
      cases heq
      cases h
      exact List.mem_cons_self
    · exact List.mem_cons_of_mem _ (mem_of_lookupEntry h)

theorem entries_eq_of_lookupEntry_eq :
    ∀ {xs ys : List (String × α)}, Ascending xs → Ascending ys →
      (∀ k, lookupEntry k xs = lookupEntry k ys) → xs = ys
  | [], [], _, _, _ => rfl
  | [], (k, v) :: _, _, _, h => by simpa [lookupEntry] using h k
  | (k, v) :: _, [], _, _, h => by simpa [lookupEntry] using h k
  | (k, v) :: xs, (l, w) :: ys, hx, hy, h => by
    obtain ⟨hkx, hxs⟩ := List.pairwise_cons.1 hx
    obtain ⟨hly, hys⟩ := List.pairwise_cons.1 hy
    have below {a b : String} {c : α} {zs : List (String × α)} (hab : a < b)
        (hz : ∀ e ∈ zs, b < e.1) : lookupEntry a ((b, c) :: zs) = none :=
      lookupEntry_eq_none fun e he => by
        rcases List.mem_cons.1 he with rfl | he
        · exact hab
        · exact String.lt_trans hab (hz e he)
    have hkl : k = l := by
      rcases Decidable.em (k < l) with hlt | hle
      · have hk := h k
        rw [below hlt hly] at hk
        simp [lookupEntry] at hk
      · rcases Decidable.em (l < k) with hlt | hle'
        · have hl := h l
          rw [below hlt hkx] at hl
          simp [lookupEntry] at hl
        · exact String.le_antisymm (String.not_lt.1 hle') (String.not_lt.1 hle)
    subst hkl
    have hv : v = w := by simpa [lookupEntry] using h k
    subst hv
    have hxy : xs = ys := entries_eq_of_lookupEntry_eq hxs hys fun a => by
      have ha := h a
      by_cases hak : a = k
      · rw [hak, lookupEntry_eq_none hkx, lookupEntry_eq_none hly]
      · simpa [lookupEntry, hak] using ha
    rw [hxy]

theorem map_fst_insertEntry_congr {key : String} {v : α} {w : β} :
    ∀ {xs : List (String × α)} {ys : List (String × β)}, xs.map (·.1) = ys.map (·.1) →
      (insertEntry key v xs).map (·.1) = (insertEntry key w ys).map (·.1)
  | [], [], _ => rfl
  | [], _ :: _, h => by simp at h
  | _ :: _, [], h => by simp at h
  | (k, a) :: xs, (l, b) :: ys, h => by
    simp only [List.map_cons, List.cons.injEq] at h
    obtain ⟨rfl, h⟩ := h
    simp only [insertEntry]
    split
    · simp [h]
    · split
      · simp [h]
      · rw [List.map_cons, List.map_cons, map_fst_insertEntry_congr h]

theorem insertEntry_eq_append {key : String} {value : α} :
    ∀ {entries : List (String × α)}, (∀ e ∈ entries, e.1 < key) →
      insertEntry key value entries = entries ++ [(key, value)]
  | [], _ => rfl
  | (k, v) :: rest, h => by
    have hk : k < key := h (k, v) (by simp)
    have hne : key ≠ k := fun e => String.lt_irrefl k (e ▸ hk)
    have hlt : ¬ key < k := fun h' => String.lt_irrefl k (String.lt_trans hk h')
    rw [insertEntry, if_neg hlt, if_neg hne,
      insertEntry_eq_append fun e he => h e (List.mem_cons_of_mem _ he)]
    rfl

structure TextMap (α : Type) where
  entries : List (String × α)
  ascending : Ascending entries

namespace TextMap

def empty : TextMap α :=
  ⟨[], List.Pairwise.nil⟩

def get? (m : TextMap α) (key : String) : Option α :=
  lookupEntry key m.entries

def insert (m : TextMap α) (key : String) (value : α) : TextMap α :=
  ⟨insertEntry key value m.entries, ascending_insertEntry m.ascending⟩

def keys (m : TextMap α) : List String :=
  m.entries.map (·.1)

/-- The entries of a list, of which the last one of a key counts. -/
def insertAll (m : TextMap α) (entries : List (String × α)) : TextMap α :=
  entries.foldl (fun m e => m.insert e.1 e.2) m

def ofList (entries : List (String × α)) : TextMap α :=
  empty.insertAll entries

/-- The first map with the values of the second in place of its own. -/
def overlay (m values : TextMap α) : TextMap α :=
  m.insertAll values.entries

theorem ext {m n : TextMap α} (h : ∀ k, m.get? k = n.get? k) : m = n := by
  obtain ⟨xs, hx⟩ := m
  obtain ⟨ys, hy⟩ := n
  have he : xs = ys := entries_eq_of_lookupEntry_eq hx hy h
  subst he
  rfl

@[simp] theorem get?_empty (k : String) : (empty : TextMap α).get? k = none := rfl

@[simp] theorem get?_insert (m : TextMap α) (key k : String) (value : α) :
    (m.insert key value).get? k = if k = key then some value else m.get? k :=
  lookupEntry_insertEntry

theorem get?_insertAll {es : List (String × α)} (h : Ascending es) (m : TextMap α) (k : String) :
    (m.insertAll es).get? k = (lookupEntry k es).or (m.get? k) := by
  induction es generalizing m with
  | nil => rfl
  | cons e es ih =>
    obtain ⟨key, value⟩ := e
    obtain ⟨hkey, hes⟩ := List.pairwise_cons.1 h
    have hins : ((m.insert key value).insertAll es).get? k = _ := ih hes (m.insert key value)
    rw [show m.insertAll ((key, value) :: es) = (m.insert key value).insertAll es from rfl, hins,
      get?_insert, lookupEntry]
    by_cases hk : k = key
    · subst hk
      rw [lookupEntry_eq_none hkey, if_pos rfl, if_pos rfl]
      rfl
    · rw [if_neg hk, if_neg hk]

@[simp] theorem get?_overlay (m values : TextMap α) (k : String) :
    (m.overlay values).get? k = (values.get? k).or (m.get? k) :=
  get?_insertAll values.ascending m k

theorem insert_ne_empty (m : TextMap α) (key : String) (value : α) : m.insert key value ≠ empty := by
  intro h
  have hk : (m.insert key value).get? key = none := by rw [h, get?_empty]
  simp at hk

theorem mem_keys_iff {m : TextMap α} {key : String} : key ∈ m.keys ↔ (m.get? key).isSome := by
  rw [keys, get?]
  generalize m.entries = entries
  induction entries with
  | nil => simp [lookupEntry]
  | cons e entries ih =>
    obtain ⟨k, v⟩ := e
    rw [lookupEntry, List.map_cons, List.mem_cons, ih]
    by_cases h : key = k <;> simp [h]

theorem keys_insertAll_congr {es : List (String × α)} {fs : List (String × β)}
    (h : es.map (·.1) = fs.map (·.1)) {m : TextMap α} {n : TextMap β} (hm : m.keys = n.keys) :
    (m.insertAll es).keys = (n.insertAll fs).keys := by
  induction es generalizing fs m n with
  | nil =>
    obtain rfl : fs = [] := by simpa using h.symm
    exact hm
  | cons e es ih =>
    obtain ⟨f, fs, rfl⟩ := List.exists_cons_of_ne_nil (l := fs) (by rintro rfl; simp at h)
    simp only [List.map_cons, List.cons.injEq] at h
    refine ih h.2 ?_
    simp only [keys, insert, h.1]
    exact map_fst_insertEntry_congr hm

theorem entries_insertAll {es : List (String × α)} {m : TextMap α}
    (h : Ascending (m.entries ++ es)) : (m.insertAll es).entries = m.entries ++ es := by
  induction es generalizing m with
  | nil => exact (List.append_nil _).symm
  | cons e es ih =>
    have he : (m.insert e.1 e.2).entries = m.entries ++ [e] :=
      insertEntry_eq_append fun x hx => (List.pairwise_append.1 h).2.2 x hx e (by simp)
    rw [List.append_cons, ← he] at h ⊢
    exact ih h

theorem ofList_entries (m : TextMap α) : ofList m.entries = m := by
  have h : (ofList m.entries).entries = m.entries := entries_insertAll m.ascending
  exact ext fun k => congrArg (lookupEntry k) h

theorem insertAll_ne_empty {m : TextMap α} (hm : m ≠ empty) (es : List (String × α)) :
    m.insertAll es ≠ empty := by
  induction es generalizing m with
  | nil => exact hm
  | cons e es ih => exact ih (insert_ne_empty m e.1 e.2)

theorem ofList_cons_ne_empty (e : String × α) (es : List (String × α)) :
    ofList (e :: es) ≠ empty :=
  insertAll_ne_empty (insert_ne_empty empty e.1 e.2) es

instance [DecidableEq α] : DecidableEq (TextMap α) := fun m n =>
  decidable_of_iff (m.entries = n.entries) (by cases m; cases n; simp)

end TextMap

end DocQuery
