import DocQuery.Json.Basic
import DocQuery.Text.Hex
import DocQuery.Text.Natural

namespace DocQuery.Json.Reader

open Text (digitValue hexValue? natOfDigits)

/-- The strict reader takes texts with at most 127 arrays and objects inside one another, no lone
surrogates and only numbers in range. The lenient one skips values that nobody looks at. -/
inductive Rigour where
  | strict
  | lenient
deriving DecidableEq

def isSpace (c : Char) : Bool :=
  c == ' ' || c == '\t' || c == '\n' || c == '\r'

def skipSpace (cs : List Char) : List Char :=
  cs.dropWhile isSpace

structure Significand where
  value : Nat
  exponent : Int

/-- Digits before the point count until the first one for which 64 bits are too few; from there on
each of them only raises the exponent. -/
def Significand.addWhole (s : Significand) : List Char → Significand
  | [] => s
  | c :: cs =>
    let next := s.value * 10 + digitValue c
    if next < 0x10000000000000000 then addWhole { s with value := next } cs
    else { s with exponent := s.exponent + (c :: cs).length }

def Significand.addFraction (s : Significand) : List Char → Significand
  | [] => s
  | c :: cs =>
    let next := s.value * 10 + digitValue c
    if next < 0x10000000000000000 then addFraction ⟨next, s.exponent - 1⟩ cs else s

structure Numeral where
  negative : Bool
  whole : List Char
  fraction : Option (List Char)
  exponent : Option (Bool × List Char)

def digits? (cs : List Char) : Option (List Char × List Char) :=
  match cs.span Char.isDigit with
  | ([], _) => none
  | (ds, rest) => some (ds, rest)

def fraction? : List Char → Option (Option (List Char) × List Char)
  | '.' :: rest => (digits? rest).map fun (ds, rest) => (some ds, rest)
  | rest => some (none, rest)

def exponent? : List Char → Option (Option (Bool × List Char) × List Char)
  | 'e' :: rest | 'E' :: rest =>
    match rest with
    | '-' :: rest => (digits? rest).map fun (ds, rest) => (some (true, ds), rest)
    | '+' :: rest => (digits? rest).map fun (ds, rest) => (some (false, ds), rest)
    | rest => (digits? rest).map fun (ds, rest) => (some (false, ds), rest)
  | rest => some (none, rest)

def whole? (cs : List Char) : Option (List Char × List Char) :=
  match digits? cs with
  | some (ds, rest) => if ds.head? = some '0' ∧ ds.length ≠ 1 then none else some (ds, rest)
  | none => none

def numeral? (cs : List Char) : Option (Numeral × List Char) := do
  let (negative, cs) := match cs with
    | '-' :: rest => (true, rest)
    | cs => (false, cs)
  let (whole, cs) ← whole? cs
  let (fraction, cs) ← fraction? cs
  let (exponent, cs) ← exponent? cs
  some (⟨negative, whole, fraction, exponent⟩, cs)

def Numeral.significand (n : Numeral) : Significand :=
  let s := Significand.addFraction (Significand.addWhole ⟨0, 0⟩ n.whole) (n.fraction.getD [])
  match n.exponent with
  | none => s
  | some (true, ds) => { s with exponent := s.exponent - natOfDigits ds }
  | some (false, ds) => { s with exponent := s.exponent + natOfDigits ds }

def Numeral.int? (n : Numeral) : Option Number :=
  match n.fraction, n.exponent with
  | none, none =>
    let value := natOfDigits n.whole
    if n.negative then
      if value = 0 then none else Number.int? (-value)
    else Number.int? value
  | _, _ => none

/-- Any other numeral is the significand, rounded, scaled by its power of ten. -/
def Numeral.float? (n : Numeral) : Option Number :=
  let s := n.significand
  ((Binary64.ofInt s.value).scale? s.exponent).map fun x =>
    .float (if n.negative then x.neg else x)

def Numeral.number? (n : Numeral) : Option Number :=
  match n.int? with
  | some m => some m
  | none => n.float?

def hex4? (a b c d : Char) : Option Nat := do
  let a ← hexValue? a
  let b ← hexValue? b
  let c ← hexValue? c
  let d ← hexValue? d
  some (((a * 16 + b) * 16 + c) * 16 + d)

def escaped? : Char → Option Char
  | '"' => some '"'
  | '\\' => some '\\'
  | '/' => some '/'
  | 'b' => some '\x08'
  | 'f' => some '\x0c'
  | 'n' => some '\n'
  | 'r' => some '\r'
  | 't' => some '\t'
  | _ => none

inductive Piece where
  | char (c : Char)
  | unit (n : Nat)

def pieces : List Char → Option (List Piece × List Char)
  | [] => none
  | '"' :: rest => some ([], rest)
  | '\\' :: 'u' :: a :: b :: c :: d :: rest => do
    let n ← hex4? a b c d
    let (ps, rest) ← pieces rest
    some (.unit n :: ps, rest)
  | '\\' :: c :: rest => do
    let x ← escaped? c
    let (ps, rest) ← pieces rest
    some (.char x :: ps, rest)
  | c :: rest =>
    if c.toNat < 0x20 then none
    else (pieces rest).map fun (ps, rest) => (.char c :: ps, rest)

def isHighSurrogate (n : Nat) : Bool :=
  decide (0xD800 ≤ n ∧ n < 0xDC00)

def isLowSurrogate (n : Nat) : Bool :=
  decide (0xDC00 ≤ n ∧ n < 0xE000)

/-- Two surrogates in a row are one character; a lone one is refused. The argument `high` is the
surrogate that waits for its partner. -/
def joinPieces (high : Option Nat) : List Piece → Option (List Char)
  | [] => if high.isNone then some [] else none
  | .char c :: ps => if high.isNone then (joinPieces none ps).map (c :: ·) else none
  | .unit n :: ps =>
    match high with
    | some h =>
      if isLowSurrogate n then
        (joinPieces none ps).map (Char.ofNat (0x10000 + (h - 0xD800) * 0x400 + (n - 0xDC00)) :: ·)
      else none
    | none =>
      if isHighSurrogate n then joinPieces (some n) ps
      else if isLowSurrogate n then none
      else (joinPieces none ps).map (Char.ofNat n :: ·)

def stringBody (rigour : Rigour) (cs : List Char) : Option (List Char × List Char) := do
  let (ps, rest) ← pieces cs
  match rigour with
  | .strict => (joinPieces none ps).map fun s => (s, rest)
  | .lenient => some ([], rest)

def string? (rigour : Rigour) (cs : List Char) : Option (String × List Char) :=
  match skipSpace cs with
  | '"' :: rest => (stringBody rigour rest).map fun (s, rest) => (String.ofList s, rest)
  | _ => none

def parts {α : Type} (part : List Char → Option (α × List Char)) (closing : Char) :
    Nat → List Char → Option (List α × List Char)
  | 0, _ => none
  | fuel + 1, cs => do
    let (x, cs) ← part cs
    match skipSpace cs with
    | ',' :: cs => (parts part closing fuel cs).map fun (xs, cs) => (x :: xs, cs)
    | c :: cs => if c = closing then some ([x], cs) else none
    | [] => none

def enclosed {α : Type} (part : List Char → Option (α × List Char)) (closing : Char)
    (cs : List Char) : Option (List α × List Char) :=
  match skipSpace cs with
  | c :: rest => if c = closing then some ([], rest) else parts part closing cs.length cs
  | [] => none

def member {α : Type} (rigour : Rigour) (value : String → List Char → Option (α × List Char))
    (cs : List Char) : Option ((String × α) × List Char) := do
  let (key, cs) ← string? rigour cs
  match skipSpace cs with
  | ':' :: cs => (value key cs).map fun (v, cs) => ((key, v), cs)
  | _ => none

def value (rigour : Rigour) (depth : Nat) (cs : List Char) : Option (Json × List Char) :=
  match skipSpace cs, depth with
  | '[' :: cs, depth + 1 =>
    (enclosed (value rigour depth) ']' cs).map fun (items, cs) => (.array items, cs)
  | '\x7b' :: cs, depth + 1 =>
    (enclosed (member rigour fun _ => value rigour depth) '\x7d' cs).map fun (members, cs) =>
      (.object (TextMap.ofList members).entries, cs)
  | '"' :: cs, _ => (stringBody rigour cs).map fun (s, cs) => (.string (String.ofList s), cs)
  | 't' :: 'r' :: 'u' :: 'e' :: cs, _ => some (.bool true, cs)
  | 'f' :: 'a' :: 'l' :: 's' :: 'e' :: cs, _ => some (.bool false, cs)
  | 'n' :: 'u' :: 'l' :: 'l' :: cs, _ => some (.null, cs)
  | cs, _ =>
    match numeral? cs, rigour with
    | some (n, cs), .strict => n.number?.map fun m => (.number m, cs)
    | some (_, cs), .lenient => some (.number (.ofNat 0), cs)
    | none, _ => none

def whole {α : Type} (read : List Char → Option (α × List Char)) (cs : List Char) : Option α :=
  match read cs with
  | some (x, rest) => if (skipSpace rest).isEmpty then some x else none
  | none => none

end DocQuery.Json.Reader

namespace DocQuery.Json

def read? (text : String) : Option Json :=
  Reader.whole (Reader.value .strict 127) text.toList

end DocQuery.Json
