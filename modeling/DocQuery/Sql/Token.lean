namespace DocQuery.Sql

inductive Token where
  | word (value : String) (quoted : Bool)
  | number (text : String)
  | string (value : String)
  | placeholder
  | leftParen
  | rightParen
  | comma
  | equal
  | star
  | minus
  | period
  | semicolon
  | other (text : String)
deriving DecidableEq

namespace Token

def display : Token → String
  | word value _ => "'" ++ value ++ "'"
  | number text => text
  | string value => "'" ++ value ++ "'"
  | placeholder => "?"
  | leftParen => "("
  | rightParen => ")"
  | comma => ","
  | equal => "="
  | star => "*"
  | minus => "-"
  | period => "."
  | semicolon => ";"
  | other text => "'" ++ text ++ "'"

def isWord : Token → Bool
  | word _ _ => true
  | _ => false

def isKeyword (keyword : String) : Token → Bool
  | word value false => value.toList.map Char.toLower == keyword.toList.map Char.toLower
  | _ => false

end Token

end DocQuery.Sql
