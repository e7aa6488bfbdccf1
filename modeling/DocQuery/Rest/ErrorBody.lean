import DocQuery.Json.Reader

namespace DocQuery.Rest

open Json Json.Reader

structure ErrorBody where
  code : Option String
  message : Option String
  details : Option String
  hint : Option String
deriving DecidableEq

namespace ErrorBody

def empty : ErrorBody := ⟨none, none, none, none⟩

def fieldNames : List String := ["code", "message", "details", "hint"]

def optionalText (cs : List Char) : Option (Option String × List Char) :=
  match skipSpace cs with
  | 'n' :: 'u' :: 'l' :: 'l' :: rest => some (none, rest)
  | cs => (string? .strict cs).map fun (s, rest) => (some s, rest)

def fieldValue (name : String) (cs : List Char) : Option (Option String × List Char) :=
  if fieldNames.contains name then optionalText cs
  else (value .lenient cs.length cs).map fun (_, rest) => (none, rest)

def ofFields? (fields : List (String × Option String)) : Option ErrorBody :=
  let known := (fields.map (·.1)).filter fieldNames.contains
  let field (name : String) := (fields.lookup name).join
  if known.Nodup then some ⟨field "code", field "message", field "details", field "hint"⟩ else none

def ofList? : List (Option String) → Option ErrorBody
  | [code, message, details, hint] => some ⟨code, message, details, hint⟩
  | _ => none

def read? (cs : List Char) : Option (ErrorBody × List Char) :=
  match skipSpace cs with
  | '\x7b' :: cs => do
    let (fields, rest) ← enclosed (member .strict fieldValue) '\x7d' cs
    let body ← ofFields? fields
    some (body, rest)
  | '[' :: cs => do
    let (texts, rest) ← enclosed optionalText ']' cs
    let body ← ofList? texts
    some (body, rest)
  | _ => none

def ofText (text : String) : ErrorBody :=
  (whole read? text.toList).getD empty

def extras (e : ErrorBody) : List String :=
  [e.details, e.hint].filterMap id

end ErrorBody

end DocQuery.Rest
