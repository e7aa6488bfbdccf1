import DocQuery.Proofs.Rest.References
import DocQuery.Proofs.Rest.Scalar

namespace DocQuery

open Store (Call Database)

namespace Rest

structure Message where
  method : Method
  target : String
  headers : List (String × String)
  body : String

structure Answer where
  status : Nat
  body : String
  range : Option String

def Request.message (r : Request) (client : Client) : Message where
  method := r.method
  target := r.target client.base
  headers := r.headers client.settings.apiKey
  body := (r.body.map fun row => (Json.ofRow row).compact).getD ""

def Client.deliver {π : Type} (client : Client) (service : Message → π → Option Answer × π) :
    Peer π := fun request state =>
  let (answer, state) := service (request.message client) state
  (answer.bind fun a => Response.receive? a.status a.body a.range, state)

namespace Message

def header? (m : Message) (name : String) : Option String :=
  (m.headers.lookup name).filter Web.isAsciiText

def profile? (m : Message) : Option String :=
  ((m.headers.lookup "accept-profile").or (m.headers.lookup "content-profile")).filter
    Web.isAsciiText

def table (m : Message) (name : String) : String :=
  match m.profile? with
  | some schema => schema ++ "." ++ name
  | none => name

def wantsObject (m : Message) : Bool :=
  (m.header? "accept").any fun s => s.toList.tails.any "vnd.pgrst.object+json".toList.isPrefixOf

def row? (m : Message) : Option Row :=
  (Json.read? m.body).bind Json.toRow?

end Message

namespace Service

def root : List Web.Segment := ["rest".toList, "v1".toList]

def key : String := "test-service-key"

/-- The table that the service always fails on. -/
def failing : String := "broken"

def error (status : Nat) (code message : String) : Answer :=
  ⟨status, (Json.object [("code", .string code), ("details", .null), ("hint", .null),
    ("message", .string message)]).compact, none⟩

def address? (target : String) : Option (String × List (String × String)) := do
  let found ← Web.Target.read? target
  let segment ← found.path.getLast?
  if found.path.dropLast = root ∧ segment ≠ [] then
    let name ← Web.textOfBytes? (Web.percentDecode segment)
    some (name, found.pairs.getD [])
  else none

/-- The call of a database that a message asks for. Without one there is another answer, or none
when a body is not understood. -/
def call? (m : Message) : Except (Option Answer) Call :=
  match address? m.target with
  | none => .error (some ⟨404, "", none⟩)
  | some (name, pairs) =>
    if m.header? "apikey" ≠ some key then .error (some (error 401 "PGRST301" "Invalid API key"))
    else if name = failing then .error (some (error 500 "XX000" "internal failure"))
    else
      let table := m.table name
      let query := Query.ofPairs pairs
      match m.method with
      | .head => .ok (.count table query.filter)
      | .get =>
        if m.wantsObject then .ok (.selectSingle table query.filter)
        else .ok (.select table query.filter query.limit)
      | .post =>
        match m.row? with
        | some values => .ok (.insert table values)
        | none => .error none
      | .patch =>
        match m.row?, query.filter with
        | some values, some filter => .ok (.update table values filter)
        | some _, none => .error (some (error 400 "21000" "UPDATE requires a WHERE clause"))
        | none, _ => .error none
      | .delete =>
        match query.filter with
        | some filter => .ok (.delete table filter)
        | none => .error (some (error 400 "21000" "DELETE requires a WHERE clause"))

def rowsText (rows : List Row) : String :=
  (Json.array (rows.map Json.ofRow)).compact

def rangeText (n : Nat) : String :=
  if n = 0 then "*/0" else "0-" ++ toString (n - 1) ++ "/" ++ toString n

/-- Only a look-up of a single row may fail; there is no answer to another failure. -/
def present : (call : Call) → Except Store.Error call.Reply → Option Answer
  | .insert _ _, .ok rows => some ⟨201, rowsText rows, none⟩
  | .update _ _ _, .ok rows | .delete _ _, .ok rows | .select _ _ _, .ok rows =>
    some ⟨200, rowsText rows, none⟩
  | .selectSingle _ _, .ok row => some ⟨200, (Json.ofRow row).compact, none⟩
  | .selectSingle _ _, .error _ =>
    some (error 406 noRowsCode "JSON object requested, multiple (or no) rows returned")
  | .count _ _, .ok n => some ⟨200, "", some (rangeText n)⟩
  | .insert _ _, .error _ | .update _ _ _, .error _ | .delete _ _, .error _
  | .select _ _ _, .error _ | .count _ _, .error _ => none

def answer (m : Message) (db : Database) : Option Answer × Database :=
  match call? m with
  | .ok call =>
    let (reply, db) := Database.answer call db
    (present call reply, db)
  | .error refusal => (refusal, db)

end Service

def Visible (s : String) : Prop := ∀ c ∈ s.toList, 0x20 < c.toNat ∧ c.toNat < 0x7F

theorem trimChars_eq_self {drop : Char → Bool} {cs : List Char} (h : ∀ c ∈ cs, drop c = false) :
    Text.trimChars drop cs = cs := by
  have hkept (cs : List Char) (h : ∀ c ∈ cs, drop c = false) : cs.dropWhile drop = cs := by
    cases cs with
    | nil => rfl
    | cons c cs => rw [List.dropWhile_cons, h c List.mem_cons_self]; rfl
  rw [Text.trimChars, hkept cs h, hkept _ fun c hc => h c (List.mem_reverse.mp hc),
    List.reverse_reverse]

namespace Visible

variable {s : String}

theorem isHeaderValue (h : Visible s) : Web.isHeaderValue s = true := by
  refine List.all_eq_true.mpr fun c hc => ?_
  obtain ⟨hlow, hhigh⟩ := h c hc
  have hlow : 0x20 ≤ c.toNat := by omega
  have hne : c.toNat ≠ 0x7F := by omega
  simp [hlow, hne]

theorem isAsciiText (h : Visible s) : Web.isAsciiText s = true := by
  refine List.all_eq_true.mpr fun c hc => decide_eq_true ?_
  obtain ⟨-, hhigh⟩ := h c hc
  omega

theorem ne_of_toNat_le {c d : Char} (hc : 0x20 < c.toNat) (hd : d.toNat ≤ 0x20) : (c == d) = false := by
  refine beq_false_of_ne ?_
  rintro rfl
  omega

theorem headerValue (h : Visible s) : Web.headerValue s = s := by
  rw [Web.headerValue, trimChars_eq_self fun c hc => ?_, String.ofList_toList]
  obtain ⟨hlow, -⟩ := h c hc
  rw [ne_of_toNat_le hlow (by decide), ne_of_toNat_le hlow (by decide)]
  rfl

end Visible

def Word (s : String) : Prop := ∀ c ∈ s.toList, c.isAlphanum = true ∨ c = '_'

instance (s : String) : Decidable (Word s) :=
  List.decidableBAll _ s.toList

theorem Word.bounds {s : String} (h : Word s) : ∀ c ∈ s.toList, 0x30 ≤ c.toNat ∧ c.toNat ≤ 0x7A := by
  intro c hc
  have hval : c.toNat = c.val.toNat := rfl
  rcases h c hc with hc | rfl
  · delta Char.isAlphanum Char.isAlpha Char.isUpper Char.isLower Char.isDigit at hc
    simp only [Bool.or_eq_true, Bool.and_eq_true, decide_eq_true_eq, ge_iff_le,
      UInt32.le_iff_toNat_le] at hc
    rcases hc with (⟨h1, h2⟩ | ⟨h1, h2⟩) | ⟨h1, h2⟩ <;> simp at h1 h2 <;> omega
  · decide

theorem Word.visible {s : String} (h : Word s) : Visible s := by
  intro c hc
  obtain ⟨hlow, hhigh⟩ := h.bounds c hc
  omega

/-- The name of a table that the service keeps: a word or two, the last of them not the one that the
service fails on. -/
def Served (table : String) : Prop :=
  ∃ r : Sql.Reference, r.text = table ∧ (∀ i ∈ r.table :: r.schema.toList, Word i.value) ∧
    r.table.value ≠ Service.failing

variable {name : String}

theorem address?_target {base : Web.BaseUrl} (hbase : base = ⟨Service.root, none⟩)
    (hsegment : Web.HasSegment name.toList) (hname : Web.counted name.toList = name.toList)
    (pairs : List (String × String)) :
    Service.address? (base.target name pairs) = some (name, pairs) := by
  have hinert : ∀ s ∈ base.path, s.Inert := by
    rw [hbase]
    decide
  have hpath : Web.pushSegment base.path name.toList =
      Service.root ++ [Web.percentEncode Web.isSegmentLiteral name.toList] := by
    rw [Web.pushSegment_of_hasSegment hsegment, hname, hbase]
    rfl
  have hne : Web.percentEncode Web.isSegmentLiteral name.toList ≠ [] := by
    intro h
    have hempty : name.toList = [] := Web.percentEncode_segment_inj h
    rw [Web.HasSegment, hname, hempty] at hsegment
    exact hsegment List.mem_cons_self
  have hpairs : (if pairs.isEmpty then none else some pairs).getD [] = pairs := by
    cases pairs <;> rfl
  have hread := Web.Target.read?_target hinert (by rw [hbase]) name pairs
  rw [hpath] at hread
  rw [Service.address?, hread]
  simp only [Option.bind_eq_bind, Option.bind_some, List.getLast?_append, List.getLast?_singleton,
    Option.some_or, List.dropLast_concat, ne_eq, hne, not_false_eq_true, and_self, if_true,
    Web.textOfBytes?_percentDecode (by decide : Web.isSegmentLiteral '%' = false), hpairs,
    String.ofList_toList]

namespace Request

variable (r : Request) (client : Client)

theorem header?_apikey (h : client.settings.apiKey = Service.key) :
    (r.message client).header? "apikey" = some Service.key := by
  change (some (Web.headerValue client.settings.apiKey)).filter Web.isAsciiText = _
  rw [h]
  decide

theorem wantsObject_message : (r.message client).wantsObject = r.single := by
  change ((some r.accept).filter Web.isAsciiText).any _ = _
  rw [accept]
  cases r.single <;> decide

theorem profile?_message : (r.message client).profile? =
    (r.resource.schema.map Web.headerValue).filter Web.isAsciiText := by
  refine congrArg (Option.filter Web.isAsciiText) ?_
  obtain ⟨method, ⟨schema, name⟩, pairs, single, body⟩ := r
  cases schema <;> cases method <;> cases body <;> rfl

theorem row?_message {r : Request} {values : Row} (h : r.body = some values)
    (hvalues : values.Scalar) : (r.message client).row? = some values := by
  have hbody : (r.message client).body = (Json.ofRow values).compact := by
    rw [message, h]
    rfl
  rw [Message.row?, hbody, Json.read?_compact hvalues.reads, Option.bind_some, Json.toRow?_ofRow]

theorem ofCall_resource (standard : Option String) (call : Call) :
    (Request.ofCall standard call).resource = .ofTable standard call.table := by
  cases call <;> rfl

end Request

/-- A client that sends its requests to the service, with no schema of its own. -/
structure Client.Reaches (client : Client) : Prop where
  base : client.base = ⟨Service.root, none⟩
  key : client.settings.apiKey = Service.key
  schema : client.settings.schema = none

/-- A call that keeps its meaning on the way. -/
structure Servable (call : Call) : Prop where
  table : Served call.table
  values : ∀ row ∈ call.values?, row.Scalar
  filter : ∀ p ∈ call.filter?, p.column ∉ Query.reserved ∧ p.value.Scalar
  limit : ∀ n ∈ call.limit?, n < 0x10000000000000000

theorem plain_of_words {r : Sql.Reference} (h : ∀ i ∈ r.table :: r.schema.toList, Word i.value) :
    r.Plain where
  period i hi hperiod := by
    obtain ⟨hlow, -⟩ := (h i hi).bounds _ hperiod
    exact absurd hlow (by decide)
  kept c hc := by
    obtain ⟨hlow, -⟩ := (h r.table List.mem_cons_self).bounds c hc
    have hlow : 0x20 < c.toNat := by omega
    rw [Web.isIgnored, Visible.ne_of_toNat_le hlow (by decide), Visible.ne_of_toNat_le hlow (by decide),
      Visible.ne_of_toNat_le hlow (by decide)]
    rfl
  trimmed s hs := (h s (List.mem_cons_of_mem _ (by simpa using hs))).visible.headerValue

variable {client : Client} {call : Call}

theorem found_of_servable (hreach : client.Reaches) (h : Servable call) :
    (client.request call).isSendable = true ∧
    ∃ name, name ≠ Service.failing ∧
      Service.address? ((client.request call).message client).target =
        some (name, (client.request call).pairs) ∧
      ((client.request call).message client).table name = call.table ∧
      Query.ofPairs (client.request call).pairs =
        ⟨call.filter?.map Predicate.carried, call.limit?⟩ := by
  obtain ⟨r, htext, hwords, hname⟩ := h.table
  have hplain := plain_of_words hwords
  have hresource : (client.request call).resource = r.resource none := by
    rw [Client.request, Request.ofCall_resource, hreach.schema, ← htext]
    exact (Sql.Reference.ofTable_text_iff none r).mpr hplain.faithful
  refine ⟨?_, r.table.value, hname, ?_, ?_, ?_⟩
  · rw [Request.isSendable, hresource]
    obtain ⟨_ | s, t⟩ := r
    · rfl
    · exact (hwords s (by simp)).visible.isHeaderValue
  · change Service.address? (client.base.target (client.request call).resource.name _) = _
    rw [hresource]
    exact address?_target hreach.base hplain.hasSegment hplain.counted_eq _
  · have hschema : (r.resource none).schema.filter Web.isAsciiText = r.schema.map (·.value) := by
      obtain ⟨_ | s, t⟩ := r
      · rfl
      · exact Option.filter_eq_some_iff.mpr ⟨rfl, (hwords s (by simp)).visible.isAsciiText⟩
    have hheader : (r.resource none).schema.map Web.headerValue = (r.resource none).schema :=
      hplain.headerValue_resource fun s hs => by cases hs
    rw [Message.table, Request.profile?_message, hresource, hheader, hschema, ← htext]
    obtain ⟨_ | s, t⟩ := r <;> rfl
  · rw [Client.request, Query.ofPairs_ofCall, (Query.kept_eq_iff _).mpr fun p hp => (h.filter p hp).1,
      (Query.shortEnough_eq_iff _).mpr h.limit]

/-- The service reads the call from its request, with the filter as it was carried. -/
theorem call?_message (hreach : client.Reaches) (h : Servable call) :
    Service.call? ((client.request call).message client) = .ok call.carried := by
  obtain ⟨-, name, hname, haddress, htable, hquery⟩ := found_of_servable hreach h
  have hkey := (client.request call).header?_apikey client hreach.key
  have hobject := (client.request call).wantsObject_message client
  have hrow (values : Row) (hv : call.values? = some values)
      (hbody : (client.request call).body = some values) :
      ((client.request call).message client).row? = some values :=
    Request.row?_message client hbody (h.values values hv)
  simp only [Service.call?, haddress, hkey, ne_eq, not_true_eq_false, if_false, hname, htable, hquery]
  have hmethod : ((client.request call).message client).method =
    (Request.ofCall client.settings.schema call).method := rfl
  rw [hmethod]
  cases call with
  | insert table values =>
      simp only [Request.ofCall, hrow values rfl rfl]
      rfl
  | update table values filter =>
      simp only [Request.ofCall, hrow values rfl rfl]
      rfl
  | delete table filter => rfl
  | select table filter limit =>
      simp only [Request.ofCall, hobject]
      rfl
  | selectSingle table filter =>
      simp only [Request.ofCall, hobject]
      rfl
  | count table filter => rfl

end Rest

end DocQuery
