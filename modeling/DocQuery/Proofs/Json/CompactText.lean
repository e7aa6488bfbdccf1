import DocQuery.Proofs.Decimal.DecimalText
import DocQuery.Proofs.Json.RoundTrip

namespace DocQuery

namespace Number

section

variable {n : Int} {lower : -0x8000000000000000 ≤ n} {upper : n < 0x10000000000000000}

theorem toList_text_int : (int n lower upper).text.toList =
    if 0 ≤ n then Nat.toDigits 10 n.toNat else '-' :: Nat.toDigits 10 (-n).toNat :=
  Json.Reader.toList_compact_int lower upper

theorem mem_text_int {c : Char} (h : c ∈ (int n lower upper).text.toList) :
    c.isDigit = true ∨ c = '-' := by
  rw [toList_text_int] at h
  split at h
  · exact Or.inl (Json.Reader.toDigits_isDigit _ c h)
  · rcases List.mem_cons.mp h with h | h
    · exact Or.inr h
    · exact Or.inl (Json.Reader.toDigits_isDigit _ c h)

theorem text_int_ne {x : Binary64} : (int n lower upper).text ≠ (float x).text := by
  intro h
  obtain ⟨p, htext, hvalid, -⟩ := x.exists_parts
  have hmem : ∀ c ∈ p.text, c.isDigit = true ∨ c = '-' := fun c hc => by
    have hc : c ∈ (int n lower upper).text.toList := by
      rw [h, text, htext]
      exact List.mem_append_right _ hc
    exact mem_text_int hc
  rcases hvalid.marked_text with hc | hc
  · exact absurd (hmem _ hc) (by decide)
  · exact absurd (hmem _ hc) (by decide)

end

theorem mem_text (n : Number) {c : Char} (h : c ∈ n.text.toList) :
    c.isDigit = true ∨ c ∈ ['.', 'e', '-', '+'] := by
  cases n with
  | int n lower upper =>
      rcases mem_text_int h with h | rfl
      · exact Or.inl h
      · exact Or.inr (by decide)
  | float x =>
      obtain ⟨p, htext, hvalid, -⟩ := x.exists_parts
      rw [text, htext] at h
      rcases List.mem_append.mp h with h | h
      · split at h
        · rw [List.mem_singleton.mp h]
          exact Or.inr (by decide)
        · cases h
      · exact hvalid.mem_text h

theorem exists_head (n : Number) :
    ∃ c cs, n.text.toList = c :: cs ∧ (c.isDigit = true ∨ c = '-') := by
  cases n with
  | int n lower upper =>
      have hne : (int n lower upper).text.toList ≠ [] := by
        rw [toList_text_int]
        split
        · exact Nat.toDigits_ne_nil
        · exact List.cons_ne_nil _ _
      obtain ⟨c, cs, hc⟩ := List.exists_cons_of_ne_nil hne
      exact ⟨c, cs, hc, mem_text_int (by rw [hc]; exact List.mem_cons_self)⟩
  | float x =>
      obtain ⟨p, htext, hvalid, -⟩ := x.exists_parts
      obtain ⟨d, ds, hd, hdigit⟩ := hvalid.exists_head
      rw [hd] at htext
      cases hx : x.negative with
      | true => exact ⟨'-', d :: ds, by rw [text, htext, hx]; rfl, Or.inr rfl⟩
      | false => exact ⟨d, ds, by rw [text, htext, hx]; rfl, Or.inl hdigit⟩

theorem text_inj {m n : Number} (h : m.text = n.text) : m = n := by
  cases m with
  | int j lower upper =>
      cases n with
      | int k lower' upper' =>
          obtain rfl := Json.int_of_text lower upper lower' upper' h
          rfl
      | float y => exact absurd h text_int_ne
  | float x =>
      cases n with
      | int k lower upper => exact absurd h.symm text_int_ne
      | float y => exact congrArg float (Binary64.text_inj h)

end Number

namespace Json

open Reader (Closes closes_cons)

/-- The text of `x` shows where it ends and tells `x` from all others, whatever closes it. -/
def Delimited {α : Type} (text : α → List Char) (x : α) : Prop :=
  ∀ y r s, Closes r → Closes s → text x ++ r = text y ++ s → x = y ∧ r = s

section Brackets

variable {α : Type} {text : α → List Char} {closing : Char} {xs ys : List α} {r s : List Char}

theorem intercalate_map_cons (text : α → List Char) (x : α) (xs : List α) :
    [','].intercalate ((x :: xs).map text) = text x ++ xs.flatMap fun x => ',' :: text x := by
  induction xs generalizing x with
  | nil => simp
  | cons y xs ih =>
      rw [List.map_cons, List.map_cons, List.intercalate_cons_cons, ← List.map_cons, ih]
      simp

theorem closes_flatMap (hclosing : closing ∈ [']', '\x7d']) (xs : List α) (r : List Char) :
    Closes (xs.flatMap (fun x => ',' :: text x) ++ closing :: r) := by
  cases xs with
  | nil => exact closes_cons (List.mem_cons_of_mem _ hclosing)
  | cons x xs => exact closes_cons List.mem_cons_self

theorem flatMap_cancel (hclosing : closing ∈ [']', '\x7d']) (h : ∀ x ∈ xs, Delimited text x)
    (heq : xs.flatMap (fun x => ',' :: text x) ++ closing :: r =
      ys.flatMap (fun x => ',' :: text x) ++ closing :: s) : xs = ys ∧ r = s := by
  have hcomma : closing ≠ ',' := by
    rintro rfl
    exact absurd hclosing (by decide)
  induction xs generalizing ys with
  | nil =>
      cases ys with
      | nil => exact ⟨rfl, (List.cons.inj heq).2⟩
      | cons y ys => exact absurd (List.cons.inj heq).1 hcomma
  | cons x xs ih =>
      cases ys with
      | nil => exact absurd (List.cons.inj heq).1.symm hcomma
      | cons y ys =>
          rw [List.flatMap_cons, List.flatMap_cons, List.append_assoc, List.append_assoc,
            List.cons_append, List.cons_append] at heq
          obtain ⟨rfl, hrest⟩ := h x List.mem_cons_self y _ _ (closes_flatMap hclosing xs r)
            (closes_flatMap hclosing ys s) (List.cons.inj heq).2
          obtain ⟨rfl, hr⟩ := ih (fun x hx => h x (List.mem_cons_of_mem _ hx)) hrest
          exact ⟨rfl, hr⟩

theorem brackets_cancel (hclosing : closing ∈ [']', '\x7d'])
    (hhead : ∀ x, ∃ c cs, text x = c :: cs ∧ c ∉ [']', '\x7d'])
    (h : ∀ x ∈ xs, Delimited text x)
    (heq : [','].intercalate (xs.map text) ++ closing :: r =
      [','].intercalate (ys.map text) ++ closing :: s) : xs = ys ∧ r = s := by
  -- no text starts with the bracket that closes an empty list
  have hne (x : α) (xs : List α) (r s : List Char) :
      [','].intercalate ((x :: xs).map text) ++ closing :: r ≠ closing :: s := by
    obtain ⟨c, cs, hc, hmark⟩ := hhead x
    rw [intercalate_map_cons, hc]
    intro he
    exact hmark ((List.cons.inj he).1 ▸ hclosing)
  cases xs with
  | nil =>
      cases ys with
      | nil => exact ⟨rfl, (List.cons.inj heq).2⟩
      | cons y ys => exact absurd heq.symm (hne y ys s r)
  | cons x xs =>
      cases ys with
      | nil => exact absurd heq (hne x xs r s)
      | cons y ys =>
          rw [intercalate_map_cons, intercalate_map_cons, List.append_assoc, List.append_assoc] at heq
          obtain ⟨rfl, hrest⟩ := h x List.mem_cons_self y _ _ (closes_flatMap hclosing xs r)
            (closes_flatMap hclosing ys s) heq
          obtain ⟨rfl, hr⟩ :=
            flatMap_cancel hclosing (fun x hx => h x (List.mem_cons_of_mem _ hx)) hrest
          exact ⟨rfl, hr⟩

end Brackets

inductive Kind where
  | null
  | bool
  | number
  | string
  | array
  | object

def kind : Json → Kind
  | null => .null
  | bool _ => .bool
  | number _ => .number
  | string _ => .string
  | array _ => .array
  | object _ => .object

def Kind.ofHead (c : Char) : Kind :=
  if c = 'n' then .null
  else if c = 't' ∨ c = 'f' then .bool
  else if c = '"' then .string
  else if c = '[' then .array
  else if c = '\x7b' then .object
  else .number

theorem toList_quote_cons (s : String) :
    (quote s).toList = '"' :: (s.toList.flatMap quoteChar ++ ['"']) := by
  have h := Reader.toList_quote s []
  rwa [List.append_nil] at h

theorem toList_compact_array (items : List Json) : (compact (.array items)).toList =
    '[' :: ([','].intercalate (items.map fun v => v.compact.toList) ++ [']']) := by
  have h := Reader.toList_brackets '[' ']' (items.map compact) []
  rw [List.append_nil, List.map_map] at h
  rw [compact, Reader.compactItems_eq]
  exact h

def memberText (e : String × Json) : List Char :=
  (quote e.1).toList ++ ':' :: e.2.compact.toList

theorem toList_compact_object (members : List (String × Json)) : (compact (.object members)).toList =
    '\x7b' :: ([','].intercalate (members.map memberText) ++ ['\x7d']) := by
  have h := Reader.toList_brackets '\x7b' '\x7d'
    (members.map fun e => quote e.1 ++ ":" ++ compact e.2) []
  have htext : (String.toList ∘ fun e : String × Json => quote e.1 ++ ":" ++ compact e.2) =
      memberText := by
    funext e
    simp [memberText, String.toList_append]
  rw [List.append_nil, List.map_map, htext] at h
  rw [compact, Reader.compactMembers_eq]
  exact h

theorem exists_head (v : Json) : ∃ c cs, v.compact.toList = c :: cs ∧
    Kind.ofHead c = v.kind ∧ c ∉ [']', '\x7d'] := by
  cases v with
  | null => exact ⟨'n', _, rfl, rfl, by decide⟩
  | bool b =>
      cases b with
      | true => exact ⟨'t', _, rfl, rfl, by decide⟩
      | false => exact ⟨'f', _, rfl, rfl, by decide⟩
  | number n =>
      obtain ⟨c, cs, htext, hc⟩ := n.exists_head
      have hne {d : Char} (hd : d.isDigit = false ∧ d ≠ '-') : c ≠ d :=
        Reader.ne_of_numeral hc hd
      refine ⟨c, cs, htext, ?_, ?_⟩
      · simp only [Kind.ofHead, kind, hne (d := 'n') (by decide), hne (d := 't') (by decide),
          hne (d := 'f') (by decide), hne (d := '"') (by decide), hne (d := '[') (by decide),
          hne (d := '\x7b') (by decide), or_self, if_false]
      · simp only [List.mem_cons, List.not_mem_nil, or_false, not_or]
        exact ⟨hne (by decide), hne (by decide)⟩
  | string s => exact ⟨'"', _, toList_quote_cons s, rfl, by decide⟩
  | array items => exact ⟨'[', _, toList_compact_array items, rfl, by decide⟩
  | object members => exact ⟨'\x7b', _, toList_compact_object members, rfl, by decide⟩

theorem kind_eq {a b : Json} {r s : List Char}
    (h : a.compact.toList ++ r = b.compact.toList ++ s) : a.kind = b.kind := by
  obtain ⟨c, cs, hc, hkind, -⟩ := a.exists_head
  obtain ⟨d, ds, hd, hkind', -⟩ := b.exists_head
  rw [hc, hd] at h
  rw [← hkind, ← hkind', (List.cons.inj h).1]

theorem append_cancel {xs ys r s : List Char} (hx : ∀ c ∈ xs, c ∉ [',', ']', '\x7d'])
    (hy : ∀ c ∈ ys, c ∉ [',', ']', '\x7d']) (hr : Closes r) (hs : Closes s)
    (h : xs ++ r = ys ++ s) : xs = ys ∧ r = s := by
  induction xs generalizing ys with
  | nil =>
      cases ys with
      | nil => exact ⟨rfl, h⟩
      | cons y ys =>
          rw [List.nil_append] at h
          rw [h] at hr
          exact absurd (hr y rfl) (hy y List.mem_cons_self)
  | cons x xs ih =>
      cases ys with
      | nil =>
          rw [List.nil_append] at h
          rw [← h] at hs
          exact absurd (hs x rfl) (hx x List.mem_cons_self)
      | cons y ys =>
          obtain ⟨rfl, htail⟩ := List.cons.inj h
          obtain ⟨rfl, hrest⟩ := ih (fun c hc => hx c (List.mem_cons_of_mem _ hc))
            (fun c hc => hy c (List.mem_cons_of_mem _ hc)) htail
          exact ⟨rfl, hrest⟩

abbrev TextDelimited (v : Json) : Prop :=
  Delimited (fun v : Json => v.compact.toList) v

theorem delimited_null : TextDelimited .null := by
  intro b r s _ _ h
  cases b with
  | null => exact ⟨rfl, List.append_cancel_left h⟩
  | _ => cases kind_eq h

theorem delimited_bool (x : Bool) : TextDelimited (.bool x) := by
  intro b r s _ _ h
  cases b with
  | bool y =>
      have hhead : x = y := by
        cases x <;> cases y
        · rfl
        · exact absurd (List.cons.inj h).1 (by decide)
        · exact absurd (List.cons.inj h).1 (by decide)
        · rfl
      subst hhead
      exact ⟨rfl, List.append_cancel_left h⟩
  | _ => cases kind_eq h

theorem delimited_number (n : Number) : TextDelimited (.number n) := by
  intro b r s hr hs h
  cases b with
  | number m =>
      have hmark (n : Number) : ∀ c ∈ n.text.toList, c ∉ [',', ']', '\x7d'] := by
        rintro c hc hmark
        have hc := n.mem_text hc
        simp only [List.mem_cons, List.not_mem_nil, or_false] at hmark
        rcases hmark with rfl | rfl | rfl <;> exact absurd hc (by decide)
      obtain ⟨htext, hrest⟩ := append_cancel (hmark n) (hmark m) hr hs h
      exact ⟨congrArg Json.number (Number.text_inj (String.toList_inj.mp htext)), hrest⟩
  | _ => cases kind_eq h

theorem quote_cancel {x y : String} {r s : List Char}
    (h : (quote x).toList ++ r = (quote y).toList ++ s) : x = y ∧ r = s := by
  have hx := Reader.string?_quote x r
  rw [h, Reader.string?_quote y s] at hx
  exact ⟨(Prod.mk.inj (Option.some.inj hx)).1.symm, (Prod.mk.inj (Option.some.inj hx)).2.symm⟩

theorem delimited_string (x : String) : TextDelimited (.string x) := by
  intro b r s _ _ h
  cases b with
  | string y =>
      obtain ⟨rfl, hrest⟩ := quote_cancel h
      exact ⟨rfl, hrest⟩
  | _ => cases kind_eq h

theorem delimited_array {items : List Json} (hitems : ∀ v ∈ items, TextDelimited v) :
    TextDelimited (.array items) := by
  intro b r s _ _ h
  cases b with
  | array others =>
      simp only [toList_compact_array, List.cons_append, List.append_assoc] at h
      obtain ⟨rfl, hrest⟩ := brackets_cancel (by decide)
        (fun v => (exists_head v).imp fun c => Exists.imp fun cs h => ⟨h.1, h.2.2⟩) hitems
        (List.cons.inj h).2
      exact ⟨rfl, hrest⟩
  | _ => cases kind_eq h

theorem delimited_member {e : String × Json} (hvalue : TextDelimited e.2) :
    Delimited memberText e := by
  intro f r s hr hs h
  simp only [memberText, List.append_assoc, List.cons_append] at h
  obtain ⟨hkey, hrest⟩ := quote_cancel h
  obtain ⟨hvalue, hrest⟩ := hvalue f.2 r s hr hs (List.cons.inj hrest).2
  exact ⟨Prod.ext hkey hvalue, hrest⟩

theorem delimited_object {members : List (String × Json)} (hmembers : ∀ e ∈ members, TextDelimited e.2) :
    TextDelimited (.object members) := by
  intro b r s _ _ h
  cases b with
  | object others =>
      simp only [toList_compact_object, List.cons_append, List.append_assoc] at h
      have hhead (e : String × Json) : ∃ c cs, memberText e = c :: cs ∧ c ∉ [']', '\x7d'] :=
        ⟨'"', _, by rw [memberText, toList_quote_cons]; rfl, by decide⟩
      obtain ⟨rfl, hrest⟩ := brackets_cancel (by decide) hhead
        (fun e he => delimited_member (hmembers e he)) (List.cons.inj h).2
      exact ⟨rfl, hrest⟩
  | _ => cases kind_eq h

mutual

theorem delimited : (v : Json) → TextDelimited v
  | .null => delimited_null
  | .bool b => delimited_bool b
  | .number n => delimited_number n
  | .string s => delimited_string s
  | .array items => delimited_array (delimited_items items)
  | .object members => delimited_object (delimited_members members)

theorem delimited_items : (items : List Json) → ∀ v ∈ items, TextDelimited v
  | [] => nofun
  | v :: items => List.forall_mem_cons.mpr ⟨delimited v, delimited_items items⟩

theorem delimited_members : (members : List (String × Json)) → ∀ e ∈ members, TextDelimited e.2
  | [] => nofun
  | (_, v) :: members => List.forall_mem_cons.mpr ⟨delimited v, delimited_members members⟩

end

theorem compact_inj {a b : Json} (h : a.compact = b.compact) : a = b :=
  (delimited a b [] [] nofun nofun (congrArg (fun text => text.toList ++ []) h)).1

end Json

end DocQuery
