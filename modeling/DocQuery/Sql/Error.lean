import DocQuery.Sql.Fault
import DocQuery.Sql.Token

namespace DocQuery.Sql

inductive Expectation where
  | keyword (text : String)
  | token (token : Token)
  | identifier
  | number
  | value
  | columnList
  | endOfStatement
deriving DecidableEq

def Expectation.display : Expectation → String
  | keyword text => text
  | token t => t.display
  | identifier => "identifier"
  | number => "number"
  | value => "value or '?'"
  | columnList => "column list"
  | endOfStatement => "end of statement"

inductive Clause where
  | whereClause
deriving DecidableEq

def Clause.display : Clause → String
  | whereClause => "WHERE"

/-- Where a token is `none`, the statement had ended. -/
inductive ParseError where
  | unrecognized (echo : String)
  | lexical (flaw : Flaw) (location : Location)
  | unexpected (expected : Expectation) (found : Option Token)
  | columnValueMismatch (columns values : Nat)
  | invalidLimit (found : Option Token)
  | missingClause (clause : Clause)
deriving DecidableEq

def displayOr (ended : String) : Option Token → String
  | some t => t.display
  | none => ended

def ParseError.message : ParseError → String
  | unrecognized echo => "Unrecognized statement: " ++ echo
  | lexical flaw location => "Tokenizer error: " ++ flaw.message ++ location.message
  | unexpected expected found =>
    "Expected " ++ expected.display ++ ", found " ++ displayOr "end of statement" found
  | columnValueMismatch columns values =>
    "Column count (" ++ toString columns ++ ") does not match value count (" ++
      toString values ++ ")"
  | invalidLimit found => "Invalid LIMIT: " ++ displayOr "missing value" found
  | missingClause clause => "Statement is missing its " ++ clause.display ++ " clause"

end DocQuery.Sql
