import DocQuery.Predicate

namespace DocQuery.Store

inductive Call where
  | insert (table : String) (values : Row)
  | update (table : String) (values : Row) (filter : Predicate)
  | delete (table : String) (filter : Predicate)
  | select (table : String) (filter : Option Predicate) (limit : Option Nat)
  | selectSingle (table : String) (filter : Option Predicate)
  | count (table : String) (filter : Option Predicate)
deriving DecidableEq

abbrev Call.Reply : Call → Type
  | insert _ _ | update _ _ _ | delete _ _ | select _ _ _ => List Row
  | selectSingle _ _ => Row
  | count _ _ => Nat

def Call.table : Call → String
  | insert table _ | update table _ _ | delete table _ | select table _ _ | selectSingle table _
  | count table _ => table

inductive DecodeError where
  | malformed
  | seedNotObject
  | seedNotRows (table : String)
  | seedNotRow (table : String)
  | noContentRange
  | unreadableContentRange (text : String)
deriving DecidableEq

def DecodeError.message : DecodeError → String
  | malformed => "malformed data"
  | seedNotObject => "seed document must be an object of tables"
  | seedNotRows table => "seed table '" ++ table ++ "' must be an array of rows"
  | seedNotRow table => "seed table '" ++ table ++ "' contains a non-object row"
  | noContentRange => "count response has no Content-Range"
  | unreadableContentRange text => "unreadable Content-Range '" ++ text ++ "'"

/-- Failures of connections and files, and malformed data, have fixed texts here: those that other
libraries give to them are not kept. -/
inductive Error where
  | notFound (table : String)
  | api (status : Nat) (code : Option String) (message : String)
  | transport
  | decode (cause : DecodeError)
  | io
deriving DecidableEq

def Error.message : Error → String
  | notFound table => "No row found in '" ++ table ++ "'"
  | api status _ message => "Store returned " ++ toString status ++ ": " ++ message
  | transport => "Transport error: no response"
  | decode cause => "Decode error: " ++ cause.message
  | io => "I/O error: cannot read the file"

/-- A store answers every call in every state and may change its state. -/
structure Server (σ : Type) where
  answer : (call : Call) → σ → Except Error call.Reply × σ

end DocQuery.Store
