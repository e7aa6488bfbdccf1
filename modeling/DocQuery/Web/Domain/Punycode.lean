namespace DocQuery.Web.Domain.Punycode

def digit? (c : Char) : Option Nat :=
  if c.isLower then some (c.toNat - 0x61)
  else if c.isDigit then some (c.toNat - 0x30 + 26)
  else none

def threshold (bias place : Nat) : Nat :=
  if place ≤ bias then 1 else min (place - bias) 26

def weightLimit : Nat := 0x100000000

def readNumber (bias : Nat) : Nat → Nat → List Char → Option (Nat × List Char)
  | _, _, [] => none
  | place, weight, c :: cs =>
    match digit? c with
    | none => none
    | some d =>
      let t := threshold bias place
      if d < t then some (d * weight, cs)
      else if weightLimit ≤ weight * (36 - t) then none
      else (readNumber bias (place + 36) (weight * (36 - t)) cs).map fun (n, rest) =>
        (d * weight + n, rest)

theorem length_lt_of_readNumber {bias place weight n : Nat} {cs rest : List Char}
    (h : readNumber bias place weight cs = some (n, rest)) : rest.length < cs.length := by
  induction cs generalizing place weight n with
  | nil => simp [readNumber] at h
  | cons c cs ih =>
    rw [readNumber] at h
    split at h
    · simp at h
    · dsimp only at h
      split at h
      · simp only [Option.some.injEq, Prod.mk.injEq] at h
        simp [← h.2]
      · split at h
        · simp at h
        · obtain ⟨⟨m, tail⟩, hm, he⟩ := Option.map_eq_some_iff.1 h
          simp only [Prod.mk.injEq] at he
          have := ih (he.2 ▸ hm)
          simp only [List.length_cons]
          omega

def biasOf (place n : Nat) : Nat :=
  if 455 < n then biasOf (place + 36) (n / 35) else place + 36 * n / (n + 38)
termination_by n
decreasing_by omega

/-- The bias behind a number that has made a label of some size. The first number is the largest. -/
def nextBias (n size : Nat) (isFirst : Bool) : Nat :=
  let n := if isFirst then n / 700 else n / 2
  biasOf 0 (n + n / size)

def insertAll (bias code place : Nat) (label cs : List Char) : Option (List Char) :=
  if cs.isEmpty then some label
  else
    match h : readNumber bias 36 1 cs with
    | none => none
    | some (n, rest) =>
      let size := label.length + 1
      let code := code + (place + n) / size
      let here := (place + n) % size
      if code.isValidChar then
        insertAll (nextBias n size (place == 0)) code (here + 1)
          (label.insertIdx here (Char.ofNat code)) rest
      else none
termination_by cs.length
decreasing_by exact length_lt_of_readNumber h

/-- The label that a text in lower case stands for. Its last hyphen ends the part of ASCII, which is
not empty then. -/
def decode? (cs : List Char) : Option (List Char) :=
  match cs.reverse.span (· != '-') with
  | (digits, []) => insertAll 72 0x80 0 [] digits.reverse
  | (_, [_]) => none
  | (digits, _ :: label) => insertAll 72 0x80 0 label.reverse digits.reverse

end DocQuery.Web.Domain.Punycode
