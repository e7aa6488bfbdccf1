namespace DocQuery

/-- A finite 64-bit binary number, with both zeros. Its magnitude is a code, biased exponent and
fraction read as one number, so that codes are ordered as the values are. -/
structure Binary64 where
  negative : Bool
  code : Nat
  finite : code < 0x7FF0000000000000
deriving DecidableEq

namespace Binary64

/-- Magnitudes are counted in units of `2 ^ (-1074)`, the least of them. -/
def unitsInOne : Nat :=
  1 <<< 1074

def binade : Nat := 0x10000000000000

def unitsOfCode (code : Nat) : Nat :=
  if code < binade then code else (binade + code % binade) <<< (code / binade - 1)

def units (x : Binary64) : Nat :=
  unitsOfCode x.code

/-- The quotient to nearest, a tie going to the even neighbour. -/
def roundedQuotient (num den : Nat) : Nat :=
  let q := num / den
  let r := num % den
  if den < 2 * r ∨ (den = 2 * r ∧ q % 2 = 1) then q + 1 else q

/-- The code nearest to `num / den` units. Fifty-three bits are kept; a carry out of them moves the
code to the next exponent by itself. -/
def nearestCode (num den : Nat) : Nat :=
  let q := num / den
  let shift := if q < 2 * binade then 0 else q.log2 - 52
  shift * binade + roundedQuotient num (den <<< shift)

def ofUnits? (negative : Bool) (num den : Nat) : Option Binary64 :=
  if h : nearestCode num den < 0x7FF0000000000000 then some ⟨negative, _, h⟩ else none

def zero (negative : Bool) : Binary64 :=
  ⟨negative, 0, by decide⟩

def largest (negative : Bool) : Binary64 :=
  ⟨negative, 0x7FEFFFFFFFFFFFFF, by decide⟩

def ofInt (n : Int) : Binary64 :=
  (ofUnits? (decide (n < 0)) (n.natAbs * unitsInOne) 1).getD (largest (decide (n < 0)))

def isZero (x : Binary64) : Bool :=
  x.code == 0

def neg (x : Binary64) : Binary64 :=
  { x with negative := !x.negative }

def same (x y : Binary64) : Bool :=
  x.code == y.code && (x.negative == y.negative || x.isZero)

def mul? (x y : Binary64) : Option Binary64 :=
  ofUnits? (x.negative ^^ y.negative) (x.units * y.units) unitsInOne

def div? (x y : Binary64) : Option Binary64 :=
  ofUnits? (x.negative ^^ y.negative) (x.units * unitsInOne) y.units

def tenTo (n : Nat) : Binary64 :=
  ofInt (Nat.pow 10 n)

/-- The value divided by `10 ^ n`, rounded after each of the divisors, which are at most `10 ^ 308`.
Below the range it becomes zero. -/
def shrink? (x : Binary64) (n : Nat) : Option Binary64 :=
  if n ≤ 308 then x.div? (tenTo n)
  else if x.isZero then some x
  else (x.div? (tenTo 308)).bind fun y => shrink? y (n - 308)
termination_by n

def grow? (x : Binary64) (n : Nat) : Option Binary64 :=
  if n ≤ 308 then x.mul? (tenTo n)
  else if x.isZero then some x
  else none

def scale? (x : Binary64) (e : Int) : Option Binary64 :=
  if 0 ≤ e then x.grow? e.natAbs else x.shrink? e.natAbs

theorem same_refl (x : Binary64) : x.same x := by simp [same]

theorem same_comm (x y : Binary64) : x.same y = y.same x := by
  obtain ⟨s, c, _⟩ := x
  obtain ⟨t, d, _⟩ := y
  simp only [same, isZero, @BEq.comm _ _ _ c d, @BEq.comm _ _ _ s t]
  by_cases h : d = c
  · rw [h]
  · rw [beq_false_of_ne h, Bool.false_and, Bool.false_and]

end Binary64

end DocQuery
