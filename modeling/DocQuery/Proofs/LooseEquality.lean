import DocQuery.Predicate
import DocQuery.Proofs.Decimal.Rounding

namespace DocQuery

/-- The ids that a look-up of the serial id `n` takes for it. -/
def Json.StandsFor (n : Int64) : Json → Prop
  | .string s => s = toString n.toInt
  | .number x => x.toBinary64.same (Binary64.ofInt n.toInt)
  | .null | .bool _ | .array _ | .object _ => False

theorem Number.ofNat_eq {n : Nat} (h : n < 0x10000000000000000) :
    ofNat n = .int n (by omega) (by omega) := by
  have hm : min (n : Int) 0xFFFFFFFFFFFFFFFF = n := by omega
  simp only [ofNat, hm]

theorem toString_ne_of_head? {n : Int} {s : String} {c : Char} (hs : s.toList.head? = some c)
    (hdigit : c.isDigit = false) (hminus : c ≠ '-') : s ≠ toString n := by
  rintro rfl
  cases n with
  | ofNat m =>
      change (toString m).toList.head? = some c at hs
      rw [Nat.toString_eq_ofList_toDigits, String.toList_ofList] at hs
      have hd := Nat.isDigit_of_mem_toDigits (b := 10) (n := m) (by decide) (by decide)
        (List.mem_of_mem_head? hs)
      rw [hdigit] at hd
      cases hd
  | negSucc m =>
      change ("-" ++ Nat.repr (m + 1)).toList.head? = some c at hs
      rw [String.toList_append] at hs
      exact hminus (Option.some.inj hs).symm

theorem Json.looselyEqual_ofInt64_iff (n : Int64) (id : Json) :
    id.looselyEqual (.ofInt64 n) = true ↔ id.StandsFor n := by
  have htext (s : String) : (s == toString n.toInt) = true ↔ s = toString n.toInt := beq_iff_eq
  cases id with
  | null => exact iff_of_false Bool.false_ne_true not_false
  | number x => rfl
  | string s => exact htext s
  | bool b =>
      change ((if b then "true" else "false") == toString n.toInt) = true ↔ False
      rw [htext, iff_false]
      cases b with
      | true => exact toString_ne_of_head? (c := 't') rfl (by decide) (by decide)
      | false => exact toString_ne_of_head? (c := 'f') rfl (by decide) (by decide)
  | array items =>
      change (("[" ++ String.intercalate "," (compactItems items) ++ "]") == toString n.toInt) =
        true ↔ False
      rw [htext, iff_false]
      exact toString_ne_of_head? (c := '[') (by simp) (by decide) (by decide)
  | object members =>
      change (("\x7b" ++ String.intercalate "," (compactMembers members) ++ "\x7d") ==
        toString n.toInt) = true ↔ False
      rw [htext, iff_false]
      exact toString_ne_of_head? (c := '\x7b') (by simp) (by decide) (by decide)

theorem Json.looselyEqual_ofInt64_self (n : Int64) :
    (Json.ofInt64 n).looselyEqual (.ofInt64 n) = true :=
  Binary64.same_refl _

theorem Row.get?_of_id? {row : Row} {id : Json} (h : row.id? = some id) :
    row.get? idColumn = some id := by
  rw [Row.id?] at h
  split at h
  · cases h
  · exact h

theorem Predicate.holds_id_iff (n : Int64) (row : Row) :
    (Predicate.mk idColumn (.ofInt64 n)).holds row = true ↔
      ∃ id, row.id? = some id ∧ id.looselyEqual (.ofInt64 n) = true := by
  have hnull : Json.null.looselyEqual (.ofInt64 n) = false := rfl
  rw [holds, Row.id?]
  cases row.get? idColumn with
  | none => simp [hnull]
  | some id => cases id <;> simp [hnull]

theorem Json.standsFor_int_iff {k : Int} {lower : -0x8000000000000000 ≤ k}
    {upper : k < 0x10000000000000000} {n : Int64} (h : n.toInt.natAbs < 2 ^ 53) :
    (Json.number (.int k lower upper)).StandsFor n ↔ k = n.toInt :=
  Binary64.same_ofInt_iff (by omega) h

end DocQuery
