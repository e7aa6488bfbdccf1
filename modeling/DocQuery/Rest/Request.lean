import DocQuery.Store.Call
import DocQuery.Web.BaseUrl
import DocQuery.Web.Header

namespace DocQuery.Rest

open Store (Call)

inductive Method where
  | get
  | head
  | post
  | patch
  | delete
deriving DecidableEq

namespace Method

def name : Method → String
  | get => "GET"
  | head => "HEAD"
  | post => "POST"
  | patch => "PATCH"
  | delete => "DELETE"

def profileHeader : Method → String
  | get | head => "accept-profile"
  | post | patch | delete => "content-profile"

def preference? : Method → Option String
  | get => none
  | head => some "count=exact"
  | post | patch | delete => some "return=representation"

end Method

structure Resource where
  schema : Option String
  name : String
deriving DecidableEq

def splitAtPeriod? (s : String) : Option (String × String) :=
  match s.toList.span (· != '.') with
  | (before, _ :: behind) => some (String.ofList before, String.ofList behind)
  | (_, []) => none

/-- A name with a period names a schema and a table, unless one of the two would be empty. Any other
name is a table of the standard schema. -/
def Resource.ofTable (standard : Option String) (table : String) : Resource :=
  match splitAtPeriod? table with
  | some (schema, name) =>
    if schema.isEmpty || name.isEmpty then ⟨standard, table⟩ else ⟨some schema, name⟩
  | none => ⟨standard, table⟩

structure Request where
  method : Method
  resource : Resource
  pairs : List (String × String)
  single : Bool
  body : Option Row
deriving DecidableEq

def filterPair (filter : Predicate) : String × String :=
  (filter.column, if filter.value.isNull then "is.null" else "eq." ++ filter.value.filterText)

def readPairs (filter : Option Predicate) (limit : Option Nat) : List (String × String) :=
  ("select", "*") :: (filter.map filterPair).toList ++
    (limit.map fun n => ("limit", toString n)).toList

namespace Request

def ofCall (standard : Option String) : Call → Request
  | .insert table values => ⟨.post, .ofTable standard table, [], false, some values⟩
  | .update table values filter =>
    ⟨.patch, .ofTable standard table, [filterPair filter], false, some values⟩
  | .delete table filter => ⟨.delete, .ofTable standard table, [filterPair filter], false, none⟩
  | .select table filter limit =>
    ⟨.get, .ofTable standard table, readPairs filter limit, false, none⟩
  | .selectSingle table filter =>
    ⟨.get, .ofTable standard table, readPairs filter (some 1), true, none⟩
  | .count table filter => ⟨.head, .ofTable standard table, readPairs filter none, false, none⟩

def isSendable (r : Request) : Bool :=
  r.resource.schema.all Web.isHeaderValue

def target (r : Request) (base : Web.BaseUrl) : String :=
  base.target r.resource.name r.pairs

def accept (r : Request) : String :=
  if r.single then "application/vnd.pgrst.object+json" else "*/*"

def headers (r : Request) (key : String) : List (String × String) :=
  [("accept", r.accept), ("apikey", Web.headerValue key),
    ("authorization", Web.headerValue ("Bearer " ++ key))] ++
    (r.resource.schema.map fun s => (r.method.profileHeader, Web.headerValue s)).toList ++
    (r.body.map fun _ => ("content-type", "application/json")).toList ++
    (r.method.preference?.map fun p => ("prefer", p)).toList

end Request

end DocQuery.Rest
