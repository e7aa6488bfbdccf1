import DocQuery.Json.Basic

namespace DocQuery.Sql

inductive BindingError where
  | countMismatch (expected supplied : Nat)
  | missingArgument (index supplied : Nat)
deriving DecidableEq

def BindingError.message : BindingError → String
  | countMismatch expected supplied =>
    "Statement binds " ++ toString expected ++ " argument(s), " ++ toString supplied ++ " supplied"
  | missingArgument index supplied =>
    "No argument at position " ++ toString index ++ " (" ++ toString supplied ++ " supplied)"

abbrev Arguments := List Json

namespace Arguments

def at? (args : Arguments) (index : Nat) : Except BindingError Json :=
  match args[index]? with
  | some value => .ok value
  | none => .error (.missingArgument index args.length)

def last (args : Arguments) : Except BindingError Json :=
  match args.getLast? with
  | some value => .ok value
  | none => .error (.missingArgument 0 0)

def expectCount (args : Arguments) (expected : Nat) : Except BindingError Unit :=
  if args.length = expected then .ok ()
  else .error (.countMismatch expected args.length)

end Arguments

end DocQuery.Sql
