import DocQuery.Web.Address
import DocQuery.Web.Domain.Direction
import DocQuery.Web.Domain.Joining
import DocQuery.Web.Domain.Punycode

namespace DocQuery.Web.Domain

open Text (isAscii)

def isForbidden (c : Char) : Bool :=
  c.toNat ≤ 0x20 || c.toNat == 0x7F || "%#/:<>?@[\\]^|".toList.contains c

def encodedLimit : Nat := 2000

def decodedLimit : Nat := 1000

/-- A label as it is shown. One behind `xn--` is encoded; it must have been encoded from what
comparing leaves as it is. -/
def shownLabel? : List Char → Option (List Char)
  | 'x' :: 'n' :: '-' :: '-' :: code =>
    if code.getLast?.getD '-' = '-' ∨ encodedLimit < code.length then none
    else (Punycode.decode? code).filter fun label => fold? label == some label
  | label => some label

def isLabel (label : List Char) : Bool :=
  (label.all isAscii || decide (label.length ≤ decodedLimit)) &&
    !label.head?.any Text.isMark && joinersFit [] label

def areReadable (labels : List (List Char)) : Bool :=
  let directions := labels.map (List.map Direction.ofChar)
  !directions.any (List.any · Direction.isOpposite) || directions.all Direction.areReadable

def ofText? (cs : List Char) : Option (List Char) := do
  let name ← fold? cs
  let labels ← (splitAtChar (· == '.') name).mapM shownLabel?
  if !name.any isForbidden && labels.all isLabel && areReadable labels then some name else none

end DocQuery.Web.Domain
