import DocQuery.Predicate
import DocQuery.Proofs.Json.CompactText

namespace DocQuery

def Binary64.unsignedZero (x : Binary64) : Binary64 :=
  if x.isZero then zero false else x

theorem Binary64.same_iff (x y : Binary64) : x.same y = true ↔ x.unsignedZero = y.unsignedZero := by
  obtain ⟨s, c, hc⟩ := x
  obtain ⟨t, d, hd⟩ := y
  by_cases hx : c = 0 <;> by_cases hy : d = 0
  · subst hx hy
    simp [same, unsignedZero, isZero]
  · subst hx
    simp [same, unsignedZero, isZero, zero, hy, Ne.symm hy]
  · subst hy
    simp [same, unsignedZero, isZero, zero, hx]
  · simp [same, unsignedZero, isZero, hx, hy, and_comm]

def Number.unsignedZero : Number → Number
  | int n lower upper => .int n lower upper
  | float x => .float x.unsignedZero

theorem Number.same_iff (m n : Number) : m.same n = true ↔ m.unsignedZero = n.unsignedZero := by
  cases m <;> cases n <;> simp [same, unsignedZero, Binary64.same_iff]

namespace Json

mutual

/-- The value with unsigned zeros in all of its parts. -/
def unsignedZeros : Json → Json
  | .null => .null
  | .bool b => .bool b
  | .number n => .number n.unsignedZero
  | .string s => .string s
  | .array items => .array (unsignedItems items)
  | .object members => .object (unsignedMembers members)

def unsignedItems : List Json → List Json
  | [] => []
  | a :: as => unsignedZeros a :: unsignedItems as

def unsignedMembers : List (String × Json) → List (String × Json)
  | [] => []
  | (k, a) :: as => (k, unsignedZeros a) :: unsignedMembers as

end

mutual

theorem same_iff : (a b : Json) → (a.same b = true ↔ a.unsignedZeros = b.unsignedZeros)
  | .null, b => by cases b <;> simp [same, unsignedZeros]
  | .bool x, b => by cases b <;> simp [same, unsignedZeros]
  | .number m, b => by cases b <;> simp [same, unsignedZeros, Number.same_iff]
  | .string s, b => by cases b <;> simp [same, unsignedZeros]
  | .array items, b => by
      cases b with
      | array others => simp [same, unsignedZeros, sameItems_iff items others]
      | _ => simp [same, unsignedZeros]
  | .object members, b => by
      cases b with
      | object others => simp [same, unsignedZeros, sameMembers_iff members others]
      | _ => simp [same, unsignedZeros]

theorem sameItems_iff : (as bs : List Json) →
    (sameItems as bs = true ↔ unsignedItems as = unsignedItems bs)
  | [], bs => by cases bs <;> simp [sameItems, unsignedItems]
  | a :: as, [] => by simp [sameItems, unsignedItems]
  | a :: as, b :: bs => by simp [sameItems, unsignedItems, same_iff a b, sameItems_iff as bs]

theorem sameMembers_iff : (as bs : List (String × Json)) →
    (sameMembers as bs = true ↔ unsignedMembers as = unsignedMembers bs)
  | [], bs => by cases bs <;> simp [sameMembers, unsignedMembers]
  | (k, a) :: as, [] => by simp [sameMembers, unsignedMembers]
  | (k, a) :: as, (l, b) :: bs => by
      simp [sameMembers, unsignedMembers, same_iff a b, sameMembers_iff as bs, and_assoc]

end

def isString : Json → Bool
  | .string _ => true
  | _ => false

/-- What a comparison without strings looks at: of a number its floating-point value, of another
value all of its parts, and of no zero the sign. -/
def comparand : Json → Json
  | .number n => .number (.float n.toBinary64.unsignedZero)
  | v => v.unsignedZeros

theorem same_or_compact_iff (a b : Json) :
    (a.same b || a.compact == b.compact) = true ↔ a.unsignedZeros = b.unsignedZeros := by
  rw [Bool.or_eq_true, beq_iff_eq, same_iff]
  exact or_iff_left_of_imp fun h => congrArg unsignedZeros (compact_inj h)

theorem looselyEqual_string_iff (s : String) (b : Json) :
    (string s).looselyEqual b = true ↔ b.isNull = false ∧ s = b.filterText := by
  cases b <;> simp [looselyEqual, same, isNull, filterText]

theorem looselyEqual_comm (a b : Json) : a.looselyEqual b = b.looselyEqual a := by
  have hsame : a.same b = b.same a := by
    rw [Bool.eq_iff_iff, same_iff, same_iff, eq_comm]
  have htext : (a.filterText == b.filterText) = (b.filterText == a.filterText) := BEq.comm
  cases a <;> cases b <;> simp only [looselyEqual, hsame, htext, Binary64.same_comm]

theorem looselyEqual_of_not_string {a b : Json} (ha : a.isString = false) (hb : b.isString = false) :
    a.looselyEqual b = true ↔ a.comparand = b.comparand := by
  have hor := same_or_compact_iff a b
  cases a with
  | null => cases b <;> simp [looselyEqual, comparand, unsignedZeros]
  | string s => cases ha
  | number m =>
      cases b with
      | null => simp [looselyEqual, comparand, unsignedZeros]
      | string s => cases hb
      | number n => simp [looselyEqual, comparand, Binary64.same_iff]
      | _ => exact hor.trans (by simp [comparand, unsignedZeros])
  | _ =>
      cases b with
      | null => simp [looselyEqual, comparand, unsignedZeros]
      | string s => cases hb
      | number n => exact hor.trans (by simp [comparand, unsignedZeros])
      | _ => exact hor

theorem looselyEqual_refl (a : Json) : a.looselyEqual a = true := by
  cases h : a.isString with
  | true =>
      cases a with
      | string s => exact (looselyEqual_string_iff s _).mpr ⟨rfl, rfl⟩
      | _ => cases h
  | false => exact (looselyEqual_of_not_string h h).mpr rfl

theorem isNull_eq {a b : Json} (h : a.looselyEqual b = true) : a.isNull = b.isNull := by
  cases a <;> cases b <;> first | rfl | cases h

theorem looselyEqual_of_string {a b : Json} (h : a.isString = true ∨ b.isString = true) :
    a.looselyEqual b = true ↔ a.isNull = b.isNull ∧ a.filterText = b.filterText := by
  rcases h with h | h
  · cases a with
    | string s =>
        rw [looselyEqual_string_iff, eq_comm (a := (string s).isNull)]
        rfl
    | _ => cases h
  · cases b with
    | string s =>
        rw [looselyEqual_comm, looselyEqual_string_iff, eq_comm (a := s)]
        rfl
    | _ => cases h

theorem filterText_eq_compact {a : Json} (h : a.isString = false) : a.filterText = a.compact := by
  cases a with
  | string s => cases h
  | _ => rfl

/-- Over a value in between, loose equality goes on to a value that is a string if the first one is,
and otherwise to one with the same text. -/
theorem looselyEqual_chain {a b c : Json} (hab : a.looselyEqual b = true)
    (hbc : b.looselyEqual c = true) : a.looselyEqual c = true ↔
      a.isString = c.isString ∨ a.filterText = c.filterText := by
  have hnull : a.isNull = c.isNull := (isNull_eq hab).trans (isNull_eq hbc)
  cases ha : a.isString with
  | true =>
      rw [looselyEqual_of_string (Or.inl ha), and_iff_right hnull]
      cases hc : c.isString with
      | true =>
          have htext := ((looselyEqual_of_string (Or.inl ha)).mp hab).2.trans
            ((looselyEqual_of_string (Or.inr hc)).mp hbc).2
          exact iff_of_true htext (Or.inl rfl)
      | false => simp
  | false =>
      cases hc : c.isString with
      | true =>
          rw [looselyEqual_of_string (Or.inr hc), and_iff_right hnull]
          simp
      | false =>
          rw [looselyEqual_of_not_string ha hc]
          refine iff_of_true ?_ (Or.inl rfl)
          cases hb : b.isString with
          | true =>
              -- over a string only texts are compared, and a compact text has one value
              have htext := ((looselyEqual_of_string (Or.inr hb)).mp hab).2.trans
                ((looselyEqual_of_string (Or.inl hb)).mp hbc).2
              rw [filterText_eq_compact ha, filterText_eq_compact hc] at htext
              exact congrArg comparand (compact_inj htext)
          | false =>
              exact ((looselyEqual_of_not_string ha hb).mp hab).trans
                ((looselyEqual_of_not_string hb hc).mp hbc)

end Json

def Row.compared (row : Row) (column : String) : Json :=
  (row.get? column).getD .null

theorem Row.compared_eq_number {row : Row} {column : String} {n : Number}
    (h : row.compared column = .number n) : row.get? column = some (.number n) := by
  rw [compared] at h
  cases hv : row.get? column with
  | none =>
      rw [hv] at h
      cases h
  | some v =>
      rw [hv, Option.getD_some] at h
      rw [h]

theorem Json.looselyEqual_number_iff (v : Json) (n : Number) :
    v.looselyEqual (.number n) = true ↔ v.looselyEqual (.string n.text) = true ∨
      ∃ m, v = .number m ∧ m.toBinary64.same n.toBinary64 = true := by
  cases v with
  | null => simp [looselyEqual]
  | number m =>
      have htext (h : m.text = n.text) : m.toBinary64.same n.toBinary64 = true := by
        rw [Number.text_inj h]
        exact Binary64.same_refl _
      simpa [looselyEqual, same, filterText, compact] using htext
  | _ => simp [looselyEqual, same, filterText, compact]

/-- Loose equality is reflexive and symmetric. From a value over an equal one it goes on to those
that are strings as the value is or not, and otherwise exactly to those with its text, so always if
the value in between is a string. Rows that satisfy one condition match each other's values to the
same extent. A number finds the rows that its text finds, and besides them just the numbers of its
value that are written otherwise. -/
theorem loose_equality_chains :
    (∀ a : Json, a.looselyEqual a = true) ∧
    (∀ a b : Json, a.looselyEqual b = b.looselyEqual a) ∧
    (∀ a b c : Json, a.looselyEqual b = true → b.looselyEqual c = true →
      (a.looselyEqual c = true ↔ a.isString = c.isString ∨ a.filterText = c.filterText) ∧
      (b.isString = true → a.looselyEqual c = true)) ∧
    (∀ (p : Predicate) (row row' : Row), p.holds row = true → p.holds row' = true →
      let value := row.compared p.column
      let value' := row'.compared p.column
      ((Predicate.mk p.column value').holds row = true ↔
        value.isString = value'.isString ∨ value.filterText = value'.filterText) ∧
      (p.value.isString = true → (Predicate.mk p.column value').holds row = true)) ∧
    ∀ (column : String) (n : Number) (row : Row),
      let byNumber := (Predicate.mk column (.number n)).holds row
      let byText := (Predicate.mk column (.string n.text)).holds row
      (byText = true ↔ byNumber = true ∧ (row.compared column).filterText = n.text) ∧
      (byNumber = true ↔ byText = true ∨
        ∃ m, row.get? column = some (.number m) ∧ m.toBinary64.same n.toBinary64 = true) := by
  have hchain (a b c : Json) (hab : a.looselyEqual b = true) (hbc : b.looselyEqual c = true) :
      (a.looselyEqual c = true ↔ a.isString = c.isString ∨ a.filterText = c.filterText) ∧
      (b.isString = true → a.looselyEqual c = true) := by
    refine ⟨Json.looselyEqual_chain hab hbc, fun hb => (Json.looselyEqual_chain hab hbc).mpr ?_⟩
    exact Or.inr (((Json.looselyEqual_of_string (Or.inr hb)).mp hab).2.trans
      ((Json.looselyEqual_of_string (Or.inl hb)).mp hbc).2)
  refine ⟨Json.looselyEqual_refl, Json.looselyEqual_comm, hchain, ?_, ?_⟩
  · intro p row row' hrow hrow'
    apply hchain _ p.value _ hrow
    rw [Json.looselyEqual_comm]
    exact hrow'
  · intro column n row
    have hnumber := Json.looselyEqual_number_iff (row.compared column) n
    have htext := Json.looselyEqual_of_string (a := row.compared column) (b := .string n.text) (Or.inr rfl)
    refine ⟨⟨fun h => ⟨hnumber.mpr (Or.inl h), (htext.mp h).2⟩, fun h => htext.mpr ⟨?_, h.2⟩⟩, ?_⟩
    · exact Json.isNull_eq (b := .number n) h.1
    · refine hnumber.trans (or_congr_right (exists_congr fun m => and_congr_left fun _ => ?_))
      exact ⟨Row.compared_eq_number, fun h => by rw [Row.compared, h]; rfl⟩

theorem loose_equality_chains_of_text :
    let one := Json.number (.int 1 (by decide) (by decide))
    let row : Row := .ofList [("v", .string "1")]
    let row' : Row := .ofList [("v", one)]
    (Predicate.mk "v" (.string "1")).holds row = true ∧
      (Predicate.mk "v" (.string "1")).holds row' = true ∧
      (Predicate.mk "v" one).holds row = true := by
  intro one row row'
  have hrow : (Predicate.mk "v" (.string "1")).holds row = true := by decide +kernel
  have hrow' : (Predicate.mk "v" (.string "1")).holds row' = true := by decide +kernel
  obtain ⟨-, -, -, hrows, -⟩ := loose_equality_chains
  exact ⟨hrow, hrow', (hrows _ row row' hrow hrow').2 rfl⟩

/-- The number `1.0` equals the number `1`, and that the text `"1"`, but `1.0` does not equal the
text. A row with `1.0` is found under the number and not under its text. -/
theorem one_not_equal_to_its_text :
    let float := Json.number (.float ⟨false, 0x3FF0000000000000, by decide⟩)
    let one := Json.number (.int 1 (by decide) (by decide))
    let row : Row := .ofList [("v", float)]
    (float.looselyEqual one = true ∧ one.looselyEqual (.string "1") = true ∧
      float.looselyEqual (.string "1") = false) ∧
    (Predicate.mk "v" one).holds row = true ∧ (Predicate.mk "v" (.string "1")).holds row = false := by
  decide +kernel

end DocQuery
