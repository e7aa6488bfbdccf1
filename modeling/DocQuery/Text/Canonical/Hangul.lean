namespace DocQuery.Text.Canonical

def syllableIndex? (c : Char) : Option Nat :=
  if 0xAC00 ≤ c.toNat ∧ c.toNat < 0xD7A4 then some (c.toNat - 0xAC00) else none

def lettersOf? (c : Char) : Option (List Char) :=
  (syllableIndex? c).map fun n =>
    let start := [Char.ofNat (0x1100 + n / 588), Char.ofNat (0x1161 + n % 588 / 28)]
    if n % 28 = 0 then start else start ++ [Char.ofNat (0x11A7 + n % 28)]

/-- The syllable of an initial and a vowel, or of a syllable without a final and a final. -/
def syllableOf? (a b : Char) : Option Char :=
  let m := a.toNat
  let n := b.toNat
  if 0x1100 ≤ m ∧ m < 0x1113 ∧ 0x1161 ≤ n ∧ n < 0x1176 then
    some (Char.ofNat (0xAC00 + (m - 0x1100) * 588 + (n - 0x1161) * 28))
  else
    match syllableIndex? a with
    | some i =>
      if i % 28 = 0 ∧ 0x11A7 < n ∧ n < 0x11C3 then some (Char.ofNat (m + (n - 0x11A7))) else none
    | none => none

end DocQuery.Text.Canonical
