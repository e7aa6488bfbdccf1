import DocQuery.Text.Canonical.Composite
import DocQuery.Text.Canonical.Equivalent
import DocQuery.Text.Canonical.Hangul
import DocQuery.Text.CombiningClass

namespace DocQuery.Text.Canonical

def takeApart (c : Char) : List Char :=
  if c.toNat < 0xC0 then [c]
  else ((lettersOf? c <|> partsOf? c <|> equivalentOf? c).getD [c])

def decompose (cs : List Char) : List Char :=
  Nat.repeat (fun cs => cs.flatMap takeApart) 4 cs

def placeMark (c : Char) : List Char → List Char
  | [] => [c]
  | d :: ds =>
    if combiningClass d ≠ 0 ∧ combiningClass d < combiningClass c then d :: placeMark c ds
    else c :: d :: ds

/-- The marks behind each letter in the order of their classes. -/
def orderMarks : List Char → List Char
  | [] => []
  | c :: cs => placeMark c (orderMarks cs)

def composed? (a b : Char) : Option Char :=
  syllableOf? a b <|> compositeOf? a b

/-- Puts an ordered text behind a letter together with it. The marks that stay are kept, the last one
first; one of them keeps away from the letter what is not of a higher class. -/
def composeWith (letter : Char) (marks : List Char) : List Char → List Char
  | [] => letter :: marks.reverse
  | c :: cs =>
    let reachable := marks.head?.all fun mark => combiningClass mark < combiningClass c
    match if reachable then composed? letter c else none with
    | some d => composeWith d marks cs
    | none =>
      if combiningClass c = 0 then letter :: marks.reverse ++ composeWith c [] cs
      else composeWith letter (c :: marks) cs

def compose : List Char → List Char
  | [] => []
  | c :: cs => if combiningClass c = 0 then composeWith c [] cs else c :: compose cs

def normalForm (cs : List Char) : List Char :=
  compose (orderMarks (decompose cs))

end DocQuery.Text.Canonical
