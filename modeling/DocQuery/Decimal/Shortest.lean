import DocQuery.Decimal.Binary64

namespace DocQuery.Decimal

open Binary64

/-- The reals that round to a value, in units of `2 ^ (-1075)`; the ends belong to them or not. -/
structure RoundingInterval where
  lower : Nat
  value : Nat
  upper : Nat
  closed : Bool

def RoundingInterval.ofCode (code : Nat) : RoundingInterval where
  lower := unitsOfCode (code - 1) + unitsOfCode code
  value := 2 * unitsOfCode code
  upper := unitsOfCode code + unitsOfCode (code + 1)
  closed := code % 2 == 0

def RoundingInterval.has (r : RoundingInterval) (scale point : Nat) : Bool :=
  if r.closed then decide (r.lower * scale ≤ point ∧ point ≤ r.upper * scale)
  else decide (r.lower * scale < point ∧ point < r.upper * scale)

/-- The number of the point of the grid of multiples of `10 ^ e` that is nearest to the value, if
one of the two neighbours of the value lies in the interval. -/
def RoundingInterval.onGrid? (r : RoundingInterval) (e : Int) : Option Nat :=
  let scale := if e < 0 then Nat.pow 10 e.natAbs else 1
  let step := (if e < 0 then 1 else Nat.pow 10 e.natAbs) * (2 * unitsInOne)
  let below := r.value * scale / step
  let rest := r.value * scale % step
  match r.has scale (below * step), r.has scale ((below + 1) * step) with
  | false, false => none
  | true, false => some below
  | false, true => some (below + 1)
  | true, true =>
    if step < 2 * rest ∨ (step = 2 * rest ∧ below % 2 = 1) then some (below + 1) else some below

structure Scientific where
  digits : Nat
  exponent : Int
deriving DecidableEq

/-- The coarsest grid with a point in the interval, among those up to `10 ^ (n - 324)`. The finest
one, `10 ^ (-324)`, is narrower than every interval. -/
def RoundingInterval.coarsest (r : RoundingInterval) : Nat → Scientific
  | 0 => ⟨(r.onGrid? (-324)).getD 0, -324⟩
  | n + 1 =>
    let e := (n : Int) + 1 - 324
    match r.onGrid? e with
    | some k => ⟨k, e⟩
    | none => coarsest r n

/-- The shortest decimal that rounds to a value, and of the shortest ones the nearest. -/
def shortest (code : Nat) : Scientific :=
  (RoundingInterval.ofCode code).coarsest 633

structure Layout where
  least : Int
  greatest : Int

def Layout.text (layout : Layout) (s : Scientific) : String :=
  let digits := Nat.toDigits 10 s.digits
  let lead := (digits.length : Int) - 1 + s.exponent
  if layout.least ≤ lead ∧ lead ≤ layout.greatest then
    if 0 ≤ s.exponent then
      String.ofList (digits ++ List.replicate s.exponent.toNat '0') ++ ".0"
    else if 0 ≤ lead then
      let whole := lead.toNat + 1
      String.ofList (digits.take whole) ++ "." ++ String.ofList (digits.drop whole)
    else
      "0." ++ String.ofList (List.replicate (-lead - 1).toNat '0' ++ digits)
  else
    let fraction := if digits.length ≤ 1 then "" else "." ++ String.ofList (digits.drop 1)
    let sign := if lead < 0 then "-" else "+"
    String.ofList (digits.take 1) ++ fraction ++ "e" ++ sign ++ toString lead.natAbs

end DocQuery.Decimal

namespace DocQuery.Binary64

open Decimal

def layout : Layout := ⟨-5, 15⟩

def text (x : Binary64) : String :=
  (if x.negative then "-" else "") ++
    if x.isZero then "0.0" else layout.text (shortest x.code)

end DocQuery.Binary64
