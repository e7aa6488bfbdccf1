import DocQuery.Sql.Error
import DocQuery.Sql.Lexeme

namespace DocQuery.Sql

def Lexeme.isWord : Lexeme → Bool
  | .token t => t.isWord
  | .blank => false

def Lexeme.tokens : Lexeme → List Token
  | .token t => [t]
  | .blank => []

def scan (afterWord : Bool) (cs : List Char) : Except Fault (List Token) :=
  match cs with
  | [] => .ok []
  | c :: cs =>
    match _h : lexeme afterWord c cs with
    | .ok (x, rest) => (scan x.isWord rest).map (x.tokens ++ ·)
    | .error fault => .error fault
termination_by cs.length
decreasing_by exact Nat.lt_succ_of_le (lexeme_rest_le ‹_›)

def tokenize (statement : String) : Except ParseError (List Token) :=
  match scan false statement.toList with
  | .ok tokens => .ok tokens
  | .error fault => .error (.lexical fault.flaw (.of statement.toList fault.rest))

end DocQuery.Sql
