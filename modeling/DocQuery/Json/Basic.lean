import DocQuery.Decimal.Binary64
import DocQuery.TextMap

namespace DocQuery

/-- An integer of 64 bits, with or without a sign, or a floating-point number: `1` and `1.0` differ. -/
inductive Number where
  | int (value : Int) (lower : -0x8000000000000000 ≤ value)
    (upper : value < 0x10000000000000000)
  | float (value : Binary64)
deriving DecidableEq

namespace Number

def int? (n : Int) : Option Number :=
  if h : -0x8000000000000000 ≤ n ∧ n < 0x10000000000000000 then some (.int n h.1 h.2) else none

/-- A natural number, the largest one standing for all that need more than 64 bits. -/
def ofNat (n : Nat) : Number :=
  .int (min n 0xFFFFFFFFFFFFFFFF) (by omega) (by omega)

def ofInt64 (n : Int64) : Number :=
  .int n.toInt n.le_toInt (Int.lt_trans n.toInt_lt (by decide))

def toBinary64 : Number → Binary64
  | .int n _ _ => .ofInt n
  | .float x => x

def same : Number → Number → Bool
  | .int m _ _, .int n _ _ => m == n
  | .float x, .float y => x.same y
  | _, _ => false

end Number

inductive Json where
  | null
  | bool (value : Bool)
  | number (value : Number)
  | string (value : String)
  | array (items : List Json)
  | object (members : List (String × Json))

abbrev Row := TextMap Json

namespace Json

def ofNat (n : Nat) : Json :=
  .number (.ofNat n)

def ofInt64 (n : Int64) : Json :=
  .number (.ofInt64 n)

def ofRow (row : Row) : Json :=
  .object row.entries

def toRow? : Json → Option Row
  | .object members => some (TextMap.ofList members)
  | _ => none

def isNull : Json → Bool
  | .null => true
  | _ => false

mutual

/-- Equality part by part, under which the two floating-point zeros are equal. -/
def same : Json → Json → Bool
  | .null, .null => true
  | .bool a, .bool b => a == b
  | .number a, .number b => a.same b
  | .string a, .string b => a == b
  | .array a, .array b => sameItems a b
  | .object a, .object b => sameMembers a b
  | _, _ => false

def sameItems : List Json → List Json → Bool
  | [], [] => true
  | a :: as, b :: bs => same a b && sameItems as bs
  | _, _ => false

def sameMembers : List (String × Json) → List (String × Json) → Bool
  | [], [] => true
  | (k, a) :: as, (l, b) :: bs => k == l && (same a b && sameMembers as bs)
  | _, _ => false

end

mutual

def decEq : (a b : Json) → Decidable (a = b)
  | .null, .null => isTrue rfl
  | .bool a, .bool b => decidable_of_iff (a = b) (by simp)
  | .number a, .number b => decidable_of_iff (a = b) (by simp)
  | .string a, .string b => decidable_of_iff (a = b) (by simp)
  | .array a, .array b =>
    match decEqItems a b with
    | isTrue h => isTrue (h ▸ rfl)
    | isFalse h => isFalse fun e => h (by injection e)
  | .object a, .object b =>
    match decEqMembers a b with
    | isTrue h => isTrue (h ▸ rfl)
    | isFalse h => isFalse fun e => h (by injection e)
  | .null, .bool _ | .null, .number _ | .null, .string _ | .null, .array _ | .null, .object _
  | .bool _, .null | .bool _, .number _ | .bool _, .string _ | .bool _, .array _
  | .bool _, .object _
  | .number _, .null | .number _, .bool _ | .number _, .string _ | .number _, .array _
  | .number _, .object _
  | .string _, .null | .string _, .bool _ | .string _, .number _ | .string _, .array _
  | .string _, .object _
  | .array _, .null | .array _, .bool _ | .array _, .number _ | .array _, .string _
  | .array _, .object _
  | .object _, .null | .object _, .bool _ | .object _, .number _ | .object _, .string _
  | .object _, .array _ => isFalse nofun

def decEqItems : (as bs : List Json) → Decidable (as = bs)
  | [], [] => isTrue rfl
  | [], _ :: _ => isFalse nofun
  | _ :: _, [] => isFalse nofun
  | a :: as, b :: bs =>
    match decEq a b, decEqItems as bs with
    | isTrue h, isTrue hs => isTrue (h ▸ hs ▸ rfl)
    | isFalse h, _ => isFalse fun e => h (by injection e)
    | _, isFalse hs => isFalse fun e => hs (by injection e)

def decEqMembers : (as bs : List (String × Json)) → Decidable (as = bs)
  | [], [] => isTrue rfl
  | [], _ :: _ => isFalse nofun
  | _ :: _, [] => isFalse nofun
  | (k, a) :: as, (l, b) :: bs =>
    match decEq a b, decEqMembers as bs with
    | isTrue h, isTrue hs =>
      decidable_of_iff (k = l) (by subst h; subst hs; simp)
    | isFalse h, _ => isFalse fun e => h (by simp at e; exact e.1.2)
    | _, isFalse hs => isFalse fun e => hs (by injection e)

end

instance : DecidableEq Json := decEq

end Json

end DocQuery
