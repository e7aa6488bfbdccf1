import DocQuery.Text.Hex
import DocQuery.Sql.Token

namespace DocQuery.Sql

open Text (hexValue?)

def exponentOf (cs : List Char) : List Char :=
  match cs with
  | c :: rest =>
    if c = 'e' ∨ c = 'E' then
      let sign := match rest with
        | '+' :: _ => ['+']
        | '-' :: _ => ['-']
        | _ => []
      let digits := (rest.drop sign.length).takeWhile Char.isDigit
      if digits.isEmpty then [] else c :: (sign ++ digits)
    else []
  | [] => []

/-- What follows the digits `whole`: a point and more digits, an exponent, and an `L` that is
dropped. A point by itself is a period. -/
def decimal (whole cs : List Char) : Token × List Char :=
  let point := if cs.head? = some '.' then ['.'] else []
  let behindPoint := cs.drop point.length
  let fraction := behindPoint.takeWhile Char.isDigit
  let behindFraction := behindPoint.drop fraction.length
  if whole.isEmpty ∧ fraction.isEmpty then (.period, behindFraction)
  else
    let exponent := exponentOf behindFraction
    let behindExponent := behindFraction.drop exponent.length
    (.number (String.ofList (whole ++ point ++ fraction ++ exponent)),
      if behindExponent.head? = some 'L' then behindExponent.tail else behindExponent)

/-- The number at the start of a text and what follows it. Digits in base sixteen behind `0x` are a
text. -/
def numeral (cs : List Char) : Token × List Char :=
  let whole := cs.takeWhile Char.isDigit
  let rest := cs.dropWhile Char.isDigit
  if whole = ['0'] ∧ rest.head? = some 'x' then
    let digits := rest.tail.takeWhile fun c => (hexValue? c).isSome
    (.other ("X'" ++ String.ofList digits ++ "'"), rest.tail.drop digits.length)
  else decimal whole rest

theorem length_dropWhile_le (p : Char → Bool) (cs : List Char) :
    (cs.dropWhile p).length ≤ cs.length :=
  (List.dropWhile_suffix p).length_le

theorem decimal_rest_le (whole cs : List Char) :
    (decimal whole cs).2.length ≤ cs.length - (if cs.head? = some '.' then 1 else 0) := by
  by_cases hp : cs.head? = some '.' <;> simp only [decimal, hp, if_true, if_false]
  all_goals
    split
    · simp <;> omega
    · split <;> simp <;> omega

theorem numeral_rest_le {c : Char} {cs : List Char} (h : c.isDigit ∨ c = '.') :
    (numeral (c :: cs)).2.length ≤ cs.length := by
  simp only [numeral, List.takeWhile_cons, List.dropWhile_cons]
  by_cases hd : c.isDigit
  · have hle := length_dropWhile_le Char.isDigit cs
    simp only [hd, if_true]
    split
    · simp only [List.length_drop, List.length_tail]; omega
    · exact Nat.le_trans (decimal_rest_le _ _) (Nat.le_trans (Nat.sub_le _ _) hle)
  · obtain rfl : c = '.' := h.resolve_left hd
    rw [if_neg hd, if_neg hd, if_neg (by simp)]
    simpa using decimal_rest_le [] ('.' :: cs)

end DocQuery.Sql
