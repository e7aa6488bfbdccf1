import DocQuery.Sql.Classification
import DocQuery.Sql.Filling

namespace DocQuery.Sql

def echoLimit : Nat := 64

/-- A statement as it is shown in a message: without blanks around it, and cut if it is long. -/
def echo (statement : String) : String :=
  let cs := Text.trimChars Text.isBlank statement.toList
  if echoLimit < cs.length then String.ofList (cs.take echoLimit) ++ "..." else String.ofList cs

def Verb.reading? : Verb → Option (Reading Form)
  | insert => some Form.readInsert
  | update => some Form.readUpdate
  | delete => some Form.readDelete
  | select | count => some Form.readSelect
  | unknown => none

def formOf (r : Reading Form) (statement : String) : Except ParseError Form := do
  let tokens ← tokenize statement
  Form.ofTokens r tokens

inductive StatementError where
  | parse (error : ParseError)
  | binding (error : BindingError)
deriving DecidableEq

def parseAs (verb : Verb) (r : Reading Form) (statement : String) (args : Arguments) :
    Except StatementError Intent :=
  match formOf r statement with
  | .error e => .error (.parse e)
  | .ok form => (form.fill verb args).mapError .binding

def parse (statement : String) (args : Arguments) : Except StatementError Intent :=
  let verb := classify statement
  match verb.reading? with
  | some r => parseAs verb r statement args
  | none => .error (.parse (.unrecognized (echo statement)))

end DocQuery.Sql
