namespace DocQuery.Sql

inductive Flaw where
  | unclosedString
  | unclosedEscapedString
  | unclosedUnicodeString
  | missingHexDigit
  | badHexDigit (found : Char)
  | badCodePoint (n : Nat)
  | unclosedIdentifier (quote : Char)
  | loneUnderscore
  | unclosedComment
  | unclosedDollarString
  | unclosedTaggedString
deriving DecidableEq

def Flaw.message : Flaw → String
  | unclosedString => "Unterminated string literal"
  | unclosedEscapedString => "Unterminated encoded string literal"
  | unclosedUnicodeString => "Unterminated unicode encoded string literal"
  | missingHexDigit => "Unexpected EOF while parsing hex digit in escaped unicode string."
  | badHexDigit found =>
    "Invalid hex digit in escaped unicode string: " ++ String.singleton found
  | badCodePoint n => "Invalid unicode character: " ++ String.ofList (Nat.toDigits 16 n)
  | unclosedIdentifier quote =>
    "Expected close delimiter '" ++ String.singleton quote ++ "' before EOF."
  | loneUnderscore => "Unexpected character '_'"
  | unclosedComment => "Unexpected EOF while in a multi-line comment"
  | unclosedDollarString => "Unterminated dollar-quoted string"
  | unclosedTaggedString => "Unterminated dollar-quoted, expected $"

/-- A flaw, and the characters that were still to come when it was found. -/
structure Fault where
  flaw : Flaw
  rest : List Char
deriving DecidableEq

structure Location where
  line : Nat
  column : Nat
deriving DecidableEq

def Location.behind (cs : List Char) : Location :=
  cs.foldl (fun l c => if c = '\n' then ⟨l.line + 1, 1⟩ else ⟨l.line, l.column + 1⟩) ⟨1, 1⟩

def Location.of (text rest : List Char) : Location :=
  .behind (text.take (text.length - rest.length))

def Location.message (l : Location) : String :=
  " at Line: " ++ toString l.line ++ ", Column: " ++ toString l.column

end DocQuery.Sql
