import DocQuery.Json.Text

namespace DocQuery

def Json.filterText : Json → String
  | .string s => s
  | value => value.compact

def Json.looselyEqual : Json → Json → Bool
  | .null, .null => true
  | .null, _ | _, .null => false
  | .number a, .number b => a.toBinary64.same b.toBinary64
  | a, b => a.same b || a.filterText == b.filterText

structure Predicate where
  column : String
  value : Json
deriving DecidableEq

/-- A column that a row does not have counts as null. -/
def Predicate.holds (p : Predicate) (row : Row) : Bool :=
  ((row.get? p.column).getD .null).looselyEqual p.value

def Row.wanted (filter : Option Predicate) (row : Row) : Bool :=
  match filter with
  | some p => p.holds row
  | none => true

def idColumn : String := "id"

def Row.id? (row : Row) : Option Json :=
  match row.get? idColumn with
  | some .null => none
  | id => id

def Row.ofCount (n : Nat) : Row :=
  TextMap.empty.insert "count" (.ofNat n)

theorem Row.get?_ofCount (n : Nat) : (ofCount n).get? "count" = some (.ofNat n) := by
  rw [ofCount, TextMap.get?_insert, if_pos rfl]

theorem Row.keys_ofCount (n : Nat) : (ofCount n).keys = ["count"] := rfl

end DocQuery
