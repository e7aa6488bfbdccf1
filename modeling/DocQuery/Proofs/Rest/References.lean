import DocQuery.Proofs.Rest.Containment
import DocQuery.Proofs.Sql.GrammarReading

namespace DocQuery

open Store (Call)

def Store.Call.onTable (call : Call) (table : String) : Call :=
  match call with
  | .insert _ values => .insert table values
  | .update _ values filter => .update table values filter
  | .delete _ filter => .delete table filter
  | .select _ filter limit => .select table filter limit
  | .selectSingle _ filter => .selectSingle table filter
  | .count _ filter => .count table filter

namespace Rest

variable {schema name : String} {standard : Option String}

theorem forall_ne_period (h : '.' ∉ name.toList) : ∀ c ∈ name.toList, (c != '.') = true := by
  intro c hc
  have hne : c ≠ '.' := by
    rintro rfl
    exact h hc
  simpa using hne

theorem splitAtPeriod?_append (h : '.' ∉ schema.toList) (name : String) :
    splitAtPeriod? (schema ++ "." ++ name) = some (schema, name) := by
  have htext : (schema ++ "." ++ name).toList = schema.toList ++ '.' :: name.toList := by
    simp [String.toList_append]
  rw [splitAtPeriod?, htext, Web.span_append_of_forall (forall_ne_period h) (by decide)]
  simp only [String.ofList_toList]

theorem splitAtPeriod?_eq_none (h : '.' ∉ name.toList) : splitAtPeriod? name = none := by
  rw [splitAtPeriod?, List.span_eq_takeWhile_dropWhile,
    List.dropWhile_eq_nil_iff.mpr (forall_ne_period h)]

theorem eq_append_of_mem {s : String} (h : '.' ∈ s.toList) :
    ∃ before behind : String, s = before ++ "." ++ behind ∧ '.' ∉ before.toList := by
  obtain ⟨before, behind, hs, hbefore⟩ := List.eq_append_cons_of_mem h
  refine ⟨String.ofList before, String.ofList behind, ?_, by simpa using hbefore⟩
  apply String.toList_injective
  simp [String.toList_append, hs]

theorem ne_append (before behind : String) : behind ≠ before ++ "." ++ behind := by
  intro h
  have hl := congrArg String.length h
  simp only [String.length_append] at hl
  have hperiod : ".".length = 1 := rfl
  omega

namespace Resource

theorem ofTable_append (h : '.' ∉ schema.toList) :
    Resource.ofTable standard (schema ++ "." ++ name) =
      if schema = "" ∨ name = "" then ⟨standard, schema ++ "." ++ name⟩ else ⟨some schema, name⟩ := by
  rw [ofTable, splitAtPeriod?_append h]
  simp only [Bool.or_eq_true, String.isEmpty_iff]

theorem ofTable_of_not_mem (h : '.' ∉ name.toList) :
    Resource.ofTable standard name = ⟨standard, name⟩ := by
  rw [ofTable, splitAtPeriod?_eq_none h]

end Resource

end Rest

namespace Sql

open Grammar
open Rest (Resource splitAtPeriod?)

structure Identifier where
  value : String
  quoted : Bool
  ne_empty : value ≠ ""

def Identifier.word (i : Identifier) : Word := ⟨i.value, i.quoted⟩

/-- A table, perhaps with the schema that it belongs to. -/
structure Reference where
  schema : Option Identifier
  table : Identifier

namespace Reference

def name : Reference → Name
  | ⟨some s, t⟩ => ⟨s.word, [t.word]⟩
  | ⟨none, t⟩ => ⟨t.word, []⟩

def text (r : Reference) : String := r.name.table

/-- What a reference means where one schema is the standard. -/
def resource (standard : Option String) (r : Reference) : Resource :=
  ⟨(r.schema.map Identifier.value).or standard, r.table.value⟩

/-- The text of a reference has no period that could be taken for another one. -/
def Faithful : Reference → Prop
  | ⟨some s, _⟩ => '.' ∉ s.value.toList
  | ⟨none, t⟩ => ∀ parts ∈ splitAtPeriod? t.value, parts.1 = "" ∨ parts.2 = ""

/-- A reference with no character that the text of a table, a path or a header does not keep. -/
structure Plain (r : Reference) : Prop where
  period : ∀ i ∈ r.table :: r.schema.toList, '.' ∉ i.value.toList
  kept : ∀ c ∈ r.table.value.toList, Web.isIgnored c = false
  trimmed : ∀ s ∈ r.schema, Web.headerValue s.value = s.value

variable {r : Reference} {standard : Option String}

theorem tableName_tokens (r : Reference) {rest : List Token} (h : rest.head? ≠ some .period) :
    Reading.tableName (r.name.tokens ++ rest) = (.ok r.text, rest) :=
  Reading.tableName_eq_ok.mpr ⟨r.name, rfl, rfl, h⟩

theorem ofTable_text_iff (standard : Option String) (r : Reference) :
    Resource.ofTable standard r.text = r.resource standard ↔ r.Faithful := by
  obtain ⟨_ | s, t⟩ := r
  · change Resource.ofTable standard t.value = ⟨standard, t.value⟩ ↔
      ∀ parts ∈ splitAtPeriod? t.value, parts.1 = "" ∨ parts.2 = ""
    by_cases hperiod : '.' ∈ t.value.toList
    · obtain ⟨before, behind, ht, hbefore⟩ := Rest.eq_append_of_mem hperiod
      rw [ht, Rest.splitAtPeriod?_append hbefore, Resource.ofTable_append hbefore]
      by_cases hempty : before = "" ∨ behind = ""
      · rw [if_pos hempty]
        exact iff_of_true rfl fun parts hparts => by rwa [← Option.some.inj hparts]
      · rw [if_neg hempty]
        refine iff_of_false (fun h => ?_) fun h => hempty (h _ rfl)
        exact Rest.ne_append before behind (congrArg Resource.name h)
    · rw [Rest.splitAtPeriod?_eq_none hperiod, Resource.ofTable_of_not_mem hperiod]
      exact iff_of_true rfl nofun
  · change Resource.ofTable standard (s.value ++ "." ++ t.value) = ⟨some s.value, t.value⟩ ↔
      '.' ∉ s.value.toList
    by_cases hperiod : '.' ∈ s.value.toList
    · refine iff_of_false (fun h => ?_) fun h => h hperiod
      obtain ⟨before, behind, hs, hbefore⟩ := Rest.eq_append_of_mem hperiod
      -- what stands in front of the first period is taken for the schema
      have htext : s.value ++ "." ++ t.value = before ++ "." ++ (behind ++ "." ++ t.value) := by
        simp only [hs, String.append_assoc]
      rw [htext, Resource.ofTable_append hbefore, ← htext] at h
      split at h
      · exact Rest.ne_append s.value t.value (congrArg Resource.name h).symm
      · exact Rest.ne_append behind t.value (congrArg Resource.name h).symm
    · rw [Resource.ofTable_append hperiod, if_neg (not_or.mpr ⟨s.ne_empty, t.ne_empty⟩)]
      exact iff_of_true rfl hperiod

namespace Plain

theorem faithful (h : r.Plain) : r.Faithful := by
  obtain ⟨_ | s, t⟩ := r
  · have hperiod := h.period t List.mem_cons_self
    change ∀ parts ∈ splitAtPeriod? t.value, parts.1 = "" ∨ parts.2 = ""
    rw [Rest.splitAtPeriod?_eq_none hperiod]
    exact nofun
  · exact h.period s (by simp)

theorem counted_eq (h : r.Plain) : Web.counted r.table.value.toList = r.table.value.toList :=
  List.filter_eq_self.mpr fun c hc => by simp [h.kept c hc]

theorem hasSegment (h : r.Plain) : Web.HasSegment r.table.value.toList := by
  have hperiod := h.period r.table List.mem_cons_self
  have hempty : r.table.value.toList ≠ [] := by
    simpa using r.table.ne_empty
  rw [Web.HasSegment, h.counted_eq]
  simp only [List.mem_cons, List.not_mem_nil, or_false, not_or]
  refine ⟨hempty, ?_, ?_⟩ <;> intro he <;> rw [he] at hperiod <;> exact hperiod List.mem_cons_self

theorem headerValue_resource (h : r.Plain) (hstandard : ∀ s ∈ standard, Web.headerValue s = s) :
    (r.resource standard).schema.map Web.headerValue = (r.resource standard).schema := by
  obtain ⟨_ | s, t⟩ := r
  · cases standard with
    | none => rfl
    | some schema => exact congrArg some (hstandard schema rfl)
  · exact congrArg some (h.trimmed s rfl)

end Plain

end Reference

end Sql

namespace Rest

open Sql (Identifier Reference)

theorem Request.ofCall_onTable (standard : Option String) (call : Call) (table : String) :
    Request.ofCall standard (call.onTable table) =
      { Request.ofCall standard call with resource := .ofTable standard table } := by
  cases call <;> rfl

def Request.profile (r : Request) (key : String) : Option String :=
  (r.headers key).lookup r.method.profileHeader

theorem Request.profile_eq (r : Request) (key : String) :
    r.profile key = r.resource.schema.map Web.headerValue := by
  obtain ⟨method, ⟨schema, name⟩, pairs, single, body⟩ := r
  cases schema with
  | some schema => cases method <;> rfl
  | none => cases method <;> cases body <;> rfl

namespace Client

variable {client : Client} {call : Call} {r other : Reference}

/-- Where a request goes: its path and the schema in its headers. -/
def address (client : Client) (call : Call) : List Web.Segment × Option String :=
  (client.path call, (client.request call).profile client.settings.apiKey)

theorem address_onTable (client : Client) (call : Call) {table : String} {resource : Resource}
    (h : Resource.ofTable client.settings.schema table = resource) :
    client.address (call.onTable table) =
      (Web.pushSegment client.base.path resource.name.toList,
        resource.schema.map Web.headerValue) := by
  rw [address, path, request, Request.profile_eq, Request.ofCall_onTable, h]

theorem address_eq_iff (client : Client) (call : Call) (hr : r.Faithful) (ho : other.Faithful)
    (hsegment : Web.HasSegment r.table.value.toList) :
    client.address (call.onTable r.text) = client.address (call.onTable other.text) ↔
      Web.counted r.table.value.toList = Web.counted other.table.value.toList ∧
        (r.resource client.settings.schema).schema.map Web.headerValue =
          (other.resource client.settings.schema).schema.map Web.headerValue := by
  rw [address_onTable client call ((Reference.ofTable_text_iff _ r).mpr hr),
    address_onTable client call ((Reference.ofTable_text_iff _ other).mpr ho), Prod.mk.injEq]
  exact and_congr (Web.pushSegment_eq_iff hsegment) Iff.rfl

theorem address_of_not_hasSegment (client : Client) (call : Call) (hr : r.Faithful)
    (hsegment : ¬ Web.HasSegment r.table.value.toList) :
    (client.address (call.onTable r.text)).1 ∈ [Web.freePlace client.base.path,
      Web.freePlace client.base.path ++ [[]],
      Web.parent (Web.freePlace client.base.path) ++ [[]]] := by
  rw [address_onTable client call ((Reference.ofTable_text_iff _ r).mpr hr)]
  exact Web.pushSegment_of_not_hasSegment hsegment

theorem address_ne (client : Client) (call : Call) (hr : r.Plain) (ho : other.Plain)
    (hstandard : ∀ s ∈ client.settings.schema, Web.headerValue s = s)
    (hne : r.resource client.settings.schema ≠ other.resource client.settings.schema) :
    client.address (call.onTable r.text) ≠ client.address (call.onTable other.text) := by
  intro he
  obtain ⟨hname, hschema⟩ := (address_eq_iff client call hr.faithful ho.faithful hr.hasSegment).mp he
  rw [hr.counted_eq, ho.counted_eq] at hname
  rw [hr.headerValue_resource hstandard, ho.headerValue_resource hstandard] at hschema
  refine hne ?_
  rw [Reference.resource, Reference.resource, Resource.mk.injEq]
  exact ⟨hschema, String.toList_injective hname⟩

/-- How the requests for two references differ. The text of a reference is read from its tokens, and
it stands for what the reference means exactly if it is faithful. For faithful references the
requests go to one place exactly if the names count the same and the headers name one schema, where
a name has a segment; all names without one share three paths. References that are plain and mean
different tables go to different places. -/
theorem references_addressed (client : Client) (call : Call) (r other : Reference) :
    (∀ rest, rest.head? ≠ some .period →
        Sql.Reading.tableName (r.name.tokens ++ rest) = (.ok r.text, rest)) ∧
      (Resource.ofTable client.settings.schema r.text = r.resource client.settings.schema ↔
        r.Faithful) ∧
      (r.Faithful → other.Faithful → Web.HasSegment r.table.value.toList →
        (client.address (call.onTable r.text) = client.address (call.onTable other.text) ↔
          Web.counted r.table.value.toList = Web.counted other.table.value.toList ∧
            (r.resource client.settings.schema).schema.map Web.headerValue =
              (other.resource client.settings.schema).schema.map Web.headerValue)) ∧
      (r.Faithful → ¬ Web.HasSegment r.table.value.toList →
        (client.address (call.onTable r.text)).1 ∈ [Web.freePlace client.base.path,
          Web.freePlace client.base.path ++ [[]],
          Web.parent (Web.freePlace client.base.path) ++ [[]]]) ∧
      (r.Plain → other.Plain → (∀ s ∈ client.settings.schema, Web.headerValue s = s) →
        r.resource client.settings.schema ≠ other.resource client.settings.schema →
        client.address (call.onTable r.text) ≠ client.address (call.onTable other.text)) :=
  ⟨fun _ h => r.tableName_tokens h, Reference.ofTable_text_iff _ r, address_eq_iff client call,
    address_of_not_hasSegment client call, address_ne client call⟩

theorem references_addressed_qualified :
    Sql.Reading.tableName [.word "public" false, .period, .word "shoots" false] =
        (.ok "public.shoots", []) ∧
      nested.address (.select "public.shoots" none none) ≠
        nested.address (.select "shoots" none none) := by
  have hqualified : Reference.Plain ⟨some ⟨"public", false, by decide⟩, ⟨"shoots", false, by decide⟩⟩ :=
    ⟨by decide, List.forall_iff_forall_mem.mp (by decide), by decide⟩
  have hbare : Reference.Plain ⟨none, ⟨"shoots", false, by decide⟩⟩ :=
    ⟨by decide, List.forall_iff_forall_mem.mp (by decide), by decide⟩
  obtain ⟨hread, -, -, -, hne⟩ := references_addressed nested (.select "" none none)
    ⟨some ⟨"public", false, by decide⟩, ⟨"shoots", false, by decide⟩⟩
    ⟨none, ⟨"shoots", false, by decide⟩⟩
  exact ⟨hread [] (by decide), hne hqualified hbare nofun (by decide)⟩

/-- A name with a tab is sent as the one without it, and a quoted name with a period as the one of a
table in a schema. -/
theorem references_collide :
    (Reference.resource none ⟨none, ⟨"a\tb", true, by decide⟩⟩ ≠
        Reference.resource none ⟨none, ⟨"ab", false, by decide⟩⟩ ∧
      Sql.Reading.tableName [.word "a\tb" true] = (.ok "a\tb", []) ∧
      nested.address (.select "a\tb" none none) = nested.address (.select "ab" none none)) ∧
    Reference.resource none ⟨none, ⟨"a.b", true, by decide⟩⟩ ≠
        Reference.resource none ⟨some ⟨"a", false, by decide⟩, ⟨"b", false, by decide⟩⟩ ∧
      Sql.Reading.tableName [.word "a.b" true] =
        Sql.Reading.tableName [.word "a" false, .period, .word "b" false] := by
  exact ⟨⟨by decide, rfl, by decide⟩, by decide, rfl⟩

end Client

end Rest

end DocQuery
