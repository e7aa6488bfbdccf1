namespace DocQuery.Text

def digitValue (c : Char) : Nat :=
  c.toNat - '0'.toNat

def natOfDigits (cs : List Char) : Nat :=
  cs.foldl (fun n c => n * 10 + digitValue c) 0

/-- The number that digits stand for, a plus sign in front of them being allowed, if it has at most
64 bits. -/
def natural64? (cs : List Char) : Option Nat :=
  let digits := match cs with
    | '+' :: rest => rest
    | cs => cs
  if digits.isEmpty || !digits.all Char.isDigit then none
  else
    let n := natOfDigits digits
    if n < 0x10000000000000000 then some n else none

theorem natOfDigits_toDigits (n : Nat) : natOfDigits (Nat.toDigits 10 n) = n := by
  have hfold (cs : List Char) (m : Nat) :
      cs.foldl (fun n c => n * 10 + digitValue c) m = Nat.ofDigitChars 10 cs m := by
    simp only [Nat.ofDigitChars, digitValue, Nat.mul_comm]
  rw [natOfDigits, hfold, Nat.ofDigitChars_ten_toDigits]

theorem natural64?_toDigits_eq (n : Nat) :
    natural64? (Nat.toDigits 10 n) = if n < 0x10000000000000000 then some n else none := by
  have hall : (Nat.toDigits 10 n).all Char.isDigit = true :=
    List.all_eq_true.2 fun c hc => Nat.isDigit_of_mem_toDigits (by decide) (by decide) hc
  obtain ⟨c, cs, hd⟩ := List.exists_cons_of_ne_nil (Nat.toDigits_ne_nil (n := n) (b := 10))
  have hplus : c ≠ '+' := by
    rintro rfl
    rw [hd] at hall
    cases hall
  have hn := natOfDigits_toDigits n
  rw [hd] at hall hn ⊢
  unfold natural64?
  split
  · rename_i he
    exact absurd (List.cons.inj he).1 hplus
  · simp [hall, hn]

theorem natural64?_toDigits {n : Nat} (h : n < 0x10000000000000000) :
    natural64? (Nat.toDigits 10 n) = some n := by
  rw [natural64?_toDigits_eq, if_pos h]

end DocQuery.Text
