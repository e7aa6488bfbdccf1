import DocQuery.Web.Percent

namespace DocQuery.Web

open Text (hexValue?)

def splitAtChar (separates : Char → Bool) : List Char → List (List Char)
  | [] => [[]]
  | c :: cs =>
    if separates c then [] :: splitAtChar separates cs
    else
      match splitAtChar separates cs with
      | part :: parts => (c :: part) :: parts
      | [] => [[c]]

def numberInBase? (base : Nat) (cs : List Char) : Option Nat :=
  cs.foldl (fun n c => do
    let n ← n
    let d ← hexValue? c
    if d < base then some (n * base + d) else none) (some 0)

/-- A part of an address of four bytes: hexadecimal behind `0x`, octal behind another zero. -/
def ipv4Number? : List Char → Option Nat
  | [] => none
  | '0' :: 'x' :: cs | '0' :: 'X' :: cs => numberInBase? 16 cs
  | '0' :: c :: cs => numberInBase? 8 (c :: cs)
  | cs => numberInBase? 10 cs

def dottedParts (cs : List Char) : List (List Char) :=
  let parts := splitAtChar (· == '.') cs
  if 1 < parts.length ∧ parts.getLast? = some [] then parts.dropLast else parts

def endsInNumber (host : List Char) : Bool :=
  match (dottedParts host).getLast? with
  | some part => (!part.isEmpty && part.all Char.isDigit) || (ipv4Number? part).isSome
  | none => false

/-- At most four numbers. The last one fills all the bytes that the others leave. -/
def isIpv4 (host : List Char) : Bool :=
  let parts := dottedParts host
  match parts.mapM ipv4Number? with
  | some numbers =>
    decide (parts.length ≤ 4) && numbers.dropLast.all (· < 256) &&
      decide (numbers.getLast?.getD 0 < 1 <<< (8 * (5 - parts.length)))
  | none => false

def isDottedQuad (cs : List Char) : Bool :=
  let parts := splitAtChar (· == '.') cs
  parts.length == 4 && parts.all fun part =>
    !part.isEmpty && part.all Char.isDigit && (part.length == 1 || part.head? != some '0') &&
      decide ((numberInBase? 10 part).getD 256 < 256)

def isHexGroup (cs : List Char) : Bool :=
  !cs.isEmpty && decide (cs.length ≤ 4) && cs.all fun c => (hexValue? c).isSome

/-- How many pairs of bytes some groups between colons stand for. Only the last group may be a
dotted one, and only where `atEnd` holds. -/
def groupCount? (atEnd : Bool) : List (List Char) → Option Nat
  | [] => some 0
  | [g] => if isHexGroup g then some 1 else if atEnd && isDottedQuad g then some 2 else none
  | g :: gs => if isHexGroup g then (groupCount? atEnd gs).map (· + 1) else none

def sideCount? (atEnd : Bool) (cs : List Char) : Option Nat :=
  if cs.isEmpty then some 0 else groupCount? atEnd (splitAtChar (· == ':') cs)

def splitAtDoubleColon : List Char → Option (List Char × List Char)
  | [] => none
  | ':' :: ':' :: rest => some ([], rest)
  | c :: rest => (splitAtDoubleColon rest).map fun (before, behind) => (c :: before, behind)

def isIpv6 (cs : List Char) : Bool :=
  match splitAtDoubleColon cs with
  | none => groupCount? true (splitAtChar (· == ':') cs) == some 8
  | some (before, behind) =>
    match sideCount? false before, sideCount? true behind with
    | some m, some n => decide (m + n ≤ 7)
    | _, _ => false

end DocQuery.Web
