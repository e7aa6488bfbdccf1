import DocQuery.Settings.Connection

namespace DocQuery

namespace Environment

def strict : String := "DOCSQL_STRICT"

def fallbackTable : String := "DOCSQL_FALLBACK_TABLE"

end Environment

inductive UnknownPolicy where
  | failSoft
  | reject
deriving DecidableEq

/-- The fallback table is the table of the intent that does nothing. -/
structure EngineSettings where
  policy : UnknownPolicy
  fallbackTable : String
deriving DecidableEq

namespace EngineSettings

def standard : EngineSettings := ⟨.failSoft, "unknown"⟩

def strict : EngineSettings := { standard with policy := .reject }

def isYes (text : String) : Bool :=
  let word := String.ofList ((Text.trimChars Text.isBlank text.toList).map Char.toLower)
  ["1", "true", "yes", "on"].contains word

def policyOf (env : Environment) : UnknownPolicy :=
  if (env.get? Environment.strict).any isYes then .reject else .failSoft

def fallbackTableOf (env : Environment) : Option String :=
  ((env.get? Environment.fallbackTable).map Text.trim).filter (!·.isEmpty)

def ofEnvironment (env : Environment) : EngineSettings :=
  ⟨policyOf env, (fallbackTableOf env).getD standard.fallbackTable⟩

end EngineSettings

end DocQuery
