import DocQuery.Settings.Connection
import DocQuery.Sql.Statement
import DocQuery.Store.Call
import DocQuery.Execution.Mode

namespace DocQuery

inductive Error where
  | parse (error : Sql.ParseError)
  | binding (error : Sql.BindingError)
  | store (error : Store.Error)
  | wrongCall (verb : Sql.Verb) (mode : Mode)
  | settings (error : SettingsError)
deriving DecidableEq

namespace Error

def message : Error → String
  | parse e => "Parse error: " ++ e.message
  | binding e => "Binding error: " ++ e.message
  | store e => "Store error: " ++ e.message
  | wrongCall verb mode => verb.name ++ " statements cannot be used with " ++ mode.name ++ "()"
  | settings e => "Configuration error: " ++ e.message

def ofStatement : Sql.StatementError → Error
  | .parse e => parse e
  | .binding e => binding e

end Error

end DocQuery
