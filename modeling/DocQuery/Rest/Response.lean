import DocQuery.Rest.ErrorBody
import DocQuery.Store.Call
import DocQuery.Text.Natural
import DocQuery.Web.Header
import DocQuery.Web.Status

namespace DocQuery.Rest

open Store (Call DecodeError)

/-- A status of three digits that ends an exchange. Those below 200 only announce another one, except
the one that says that another protocol follows. -/
def IsFinal (status : Nat) : Prop :=
  status = 101 ∨ 200 ≤ status ∧ status < 1000

instance (status : Nat) : Decidable (IsFinal status) :=
  inferInstanceAs (Decidable (_ ∨ _))

structure Response where
  status : Nat
  body : String
  contentRange : Option String
  final : IsFinal status
deriving DecidableEq

/-- What arrives when another program sends a status, a body and a range: nothing if the status is
not final or the range is no value of a header. -/
def Response.receive? (status : Nat) (body : String) (range : Option String) : Option Response :=
  if h : IsFinal status then
    if range.all Web.isHeaderValue then some ⟨status, body, range.map Web.headerValue, h⟩ else none
  else none

def noRowsCode : String := "PGRST116"

def dropByteOrderMark (s : String) : String :=
  match s.toList with
  | '\uFEFF' :: cs => String.ofList cs
  | cs => String.ofList cs

/-- The message of an error. Without one of its own it is the content itself, and without content it
is the phrase of the status. -/
def errorMessage (status : Nat) (text : String) (e : ErrorBody) : String :=
  let own := e.message.getD <|
    let shown := Text.trim text
    if shown.isEmpty then (Web.reasonPhrase? status).getD "request failed" else shown
  e.extras.foldl (fun message extra => message ++ " (" ++ extra ++ ")") own

def apiError (status : Nat) (text table : String) : Store.Error :=
  let e := ErrorBody.ofText text
  if e.code = some noRowsCode then .notFound table
  else .api status e.code (errorMessage status text e)

def rowsOfJson? : Json → Option (List Row)
  | .array items => items.mapM Json.toRow?
  | _ => none

def decodeRows (text : String) : Except Store.Error (List Row) :=
  match (Json.read? text).bind rowsOfJson? with
  | some rows => .ok rows
  | none => .error (.decode .malformed)

def decodeRow (text : String) : Except Store.Error Row :=
  match (Json.read? text).bind Json.toRow? with
  | some row => .ok row
  | none => .error (.decode .malformed)

def total? (range : String) : Option Nat :=
  match range.toList.reverse.span (· != '/') with
  | (behind, _ :: _) => Text.natural64? (Text.trimChars Text.isBlank behind.reverse)
  | (_, []) => none

def decodeCount (contentRange : Option String) : Except Store.Error Nat :=
  match contentRange.filter Web.isAsciiText with
  | none => .error (.decode .noContentRange)
  | some range =>
    match total? range with
    | some n => .ok n
    | none => .error (.decode (.unreadableContentRange range))

namespace Response

def content (r : Response) : Call → String
  | .count _ _ => ""
  | _ => if Web.isBare r.status then "" else r.body

def decode (r : Response) : (call : Call) → Except Store.Error call.Reply
  | .insert table values => decodeRows (r.content (.insert table values))
  | .update table values filter => decodeRows (r.content (.update table values filter))
  | .delete table filter => decodeRows (r.content (.delete table filter))
  | .select table filter limit => decodeRows (r.content (.select table filter limit))
  | .selectSingle table filter => decodeRow (r.content (.selectSingle table filter))
  | .count _ _ => decodeCount r.contentRange

def reply (r : Response) (call : Call) : Except Store.Error call.Reply :=
  if Web.isSuccess r.status then r.decode call
  else .error (apiError r.status (dropByteOrderMark (r.content call)) call.table)

end Response

end DocQuery.Rest
