import DocQuery.Sql.Tokenizer
import DocQuery.Sql.Verb
import DocQuery.Text.WordCharacter

namespace DocQuery.Sql

open Text

namespace Search

/-- What a pattern leaves of a text that starts with a match. -/
abbrev Pattern := List Char → Option (List Char)

/-- Letters match in either case, and the long s matches an s. -/
def matchesLetter (letter c : Char) : Bool :=
  c.toLower == letter.toLower || (c == '\u017f' && letter.toLower == 's')

def letters : List Char → Pattern
  | [], cs => some cs
  | l :: ls, c :: cs => if matchesLetter l c then letters ls cs else none
  | _ :: _, [] => none

def wordEnd : Pattern
  | [] => some []
  | c :: cs => if isWordCharacter c then none else some (c :: cs)

def blanks : Pattern := fun cs =>
  some (cs.dropWhile isBlank)

def someBlanks : Pattern
  | [] => none
  | c :: cs => if isBlank c then blanks cs else none

def sequence (ps : List Pattern) : Pattern := fun cs =>
  ps.foldlM (fun cs p => p cs) cs

def keywords (first : String) (second : Option String) : Pattern :=
  match second with
  | none => sequence [letters first.toList, wordEnd]
  | some second => sequence [letters first.toList, someBlanks, letters second.toList, wordEnd]

def countOfAll : Pattern :=
  sequence [letters "COUNT".toList, blanks, letters ['('], blanks, letters ['*'], blanks,
    letters [')']]

def find? (p : Pattern) (insideWord : Bool) (cs : List Char) : Option (List Char × List Char) :=
  match if insideWord then none else p cs with
  | some rest => some ([], rest)
  | none =>
    match cs with
    | [] => none
    | c :: cs => (find? p (isWordCharacter c) cs).map (push c)

def occurs (p : Pattern) (cs : List Char) : Bool :=
  (find? p false cs).isSome

end Search

open Search

def Token.skeleton : Token → String
  | word value false => value
  | word _ true => "\"_\""
  | string _ => "''"
  | number _ => "0"
  | other _ => "_"
  | symbol => symbol.display

/-- The text in which keywords are sought. -/
def skeleton (statement : String) : String :=
  match tokenize statement with
  | .ok tokens => String.intercalate " " (tokens.map Token.skeleton)
  | .error _ => statement

/-- The verb of a text; only a count of all rows between `SELECT` and `FROM` makes it a count. -/
def verbOf (text : List Char) : Verb :=
  if occurs (keywords "INSERT" (some "INTO")) text then .insert
  else if occurs (keywords "UPDATE" none) text then .update
  else if occurs (keywords "DELETE" (some "FROM")) text then .delete
  else
    match find? (keywords "SELECT" none) false text with
    | none => .unknown
    | some (_, rest) =>
      let projection := match find? (keywords "FROM" none) false rest with
        | some (before, _) => before
        | none => rest
      if occurs countOfAll projection then .count else .select

def classify (statement : String) : Verb :=
  verbOf (skeleton statement).toList

end DocQuery.Sql
