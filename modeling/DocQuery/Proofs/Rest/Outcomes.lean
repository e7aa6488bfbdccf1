import DocQuery.Proofs.Execution.Calls
import DocQuery.Proofs.Rest.ContentRange
import DocQuery.Proofs.Rest.ErrorBody
import DocQuery.Proofs.Rest.Service
import DocQuery.Proofs.Store.SerialIds

namespace DocQuery

open Store (Call DecodeError)

namespace Rest

/-- The status ends the exchange, and the range is the value of a header. -/
structure Answer.Arrives (a : Answer) : Prop where
  final : IsFinal a.status
  range : ∀ range ∈ a.range, Web.isHeaderValue range = true

def Answer.response (a : Answer) (h : a.Arrives) : Response :=
  ⟨a.status, a.body, a.range.map Web.headerValue, h.final⟩

theorem Answer.receive?_eq_some {a : Answer} (h : a.Arrives) :
    Response.receive? a.status a.body a.range = some (a.response h) := by
  have hrange : a.range.all Web.isHeaderValue = true := Option.all_eq_true _ _ |>.mpr h.range
  rw [Response.receive?, dif_pos h.final, if_pos hrange]
  rfl

theorem Answer.receive?_eq_none {a : Answer} (h : ¬ a.Arrives) :
    Response.receive? a.status a.body a.range = none := by
  rw [Response.receive?]
  split
  · rename_i hfinal
    split
    · rename_i hrange
      exact absurd ⟨hfinal, (Option.all_eq_true _ _).mp hrange⟩ h
    · rfl
  · rfl

/-- A result that is just what is shown, and an error where nothing is. -/
structure Exactly {α : Type} (Shown : α → Prop) (cause : DecodeError)
    (result : Except Store.Error α) : Prop where
  ok_iff : ∀ v, result = .ok v ↔ Shown v
  error : (∀ v, ¬ Shown v) → result = .error (.decode cause)

theorem Exactly.of_option {α : Type} {Shown : α → Prop} {cause : DecodeError} {o : Option α}
    {result : Except Store.Error α} (h : ∀ v, o = some v ↔ Shown v)
    (hsome : ∀ v, o = some v → result = .ok v)
    (hnone : o = none → result = .error (.decode cause)) : Exactly Shown cause result := by
  cases o with
  | none =>
      have hnot (v : α) : ¬ Shown v := by
        intro hv
        cases (h v).mpr hv
      rw [hnone rfl]
      exact ⟨fun v => iff_of_false nofun (hnot v), fun _ => rfl⟩
  | some w =>
      rw [hsome w rfl]
      refine ⟨fun v => ?_, fun hnot => absurd ((h w).mp rfl) (hnot w)⟩
      rw [Except.ok.injEq, ← h v, Option.some.injEq]

def ShowsRows (text : String) (rows : List Row) : Prop :=
  ∃ items, Json.read? text = some (.array items) ∧
    List.Forall₂ (fun item row => item.toRow? = some row) items rows

def ShowsRow (text : String) (row : Row) : Prop :=
  ∃ item, Json.read? text = some item ∧ item.toRow? = some row

def ShowsCount (range? : Option String) (n : Nat) : Prop :=
  ∃ range ∈ range?, Web.isAsciiText range = true ∧ States range n

theorem decodeRows_exact (text : String) : Exactly (ShowsRows text) .malformed (decodeRows text) := by
  refine .of_option (o := (Json.read? text).bind rowsOfJson?) (fun rows => ?_)
    (fun rows h => by rw [decodeRows, h]) (fun h => by rw [decodeRows, h])
  rw [Option.bind_eq_some_iff]
  constructor
  · rintro ⟨v, hv, hrows⟩
    cases v with
    | array items => exact ⟨items, hv, Json.mapM_toRow?_iff.mp hrows⟩
    | _ => cases hrows
  · rintro ⟨items, hv, hrows⟩
    exact ⟨.array items, hv, Json.mapM_toRow?_iff.mpr hrows⟩

theorem decodeRow_exact (text : String) : Exactly (ShowsRow text) .malformed (decodeRow text) :=
  .of_option (fun _ => Option.bind_eq_some_iff) (fun row h => by rw [decodeRow, h])
    (fun h => by rw [decodeRow, h])

def countFlaw (range? : Option String) : DecodeError :=
  match range?.filter Web.isAsciiText with
  | some range => .unreadableContentRange range
  | none => .noContentRange

theorem decodeCount_exact (range? : Option String) :
    Exactly (ShowsCount range?) (countFlaw range?) (decodeCount range?) := by
  rw [decodeCount, countFlaw]
  cases hfilter : range?.filter Web.isAsciiText with
  | none =>
      have hnone (n : Nat) : ¬ ShowsCount range? n := by
        rintro ⟨range, hrange, hascii, -⟩
        rw [Option.mem_def.mp hrange, Option.filter_some, if_pos hascii] at hfilter
        cases hfilter
      exact ⟨fun n => iff_of_false nofun (hnone n), fun _ => rfl⟩
  | some range =>
      obtain ⟨rfl, hascii⟩ := Option.filter_eq_some_iff.mp hfilter
      refine .of_option (o := total? range) (fun n => total?_eq_some_iff.trans ?_)
        (fun n h => by simp only [h]) (fun h => by simp only [h])
      constructor
      · intro h
        exact ⟨range, rfl, hascii, h⟩
      · rintro ⟨range', hrange, -, h⟩
        cases Option.mem_def.mp hrange
        exact h

namespace Response

variable (r : Response)

/-- A successful response shows a reply. -/
def Shows : (call : Call) → call.Reply → Prop
  | .insert table values => ShowsRows (r.content (.insert table values))
  | .update table values filter => ShowsRows (r.content (.update table values filter))
  | .delete table filter => ShowsRows (r.content (.delete table filter))
  | .select table filter limit => ShowsRows (r.content (.select table filter limit))
  | .selectSingle table filter => ShowsRow (r.content (.selectSingle table filter))
  | .count _ _ => ShowsCount r.contentRange

def flaw : Call → DecodeError
  | .count _ _ => countFlaw r.contentRange
  | .insert _ _ | .update _ _ _ | .delete _ _ | .select _ _ _ | .selectSingle _ _ => .malformed

def text (call : Call) : String := dropByteOrderMark (r.content call)

def errorBody (call : Call) : ErrorBody := .ofText (r.text call)

/-- The message of an error: its own, or else the text of the response, or else the phrase of the
status, and behind it in parentheses what else the error says. -/
def message (call : Call) : String :=
  let e := r.errorBody call
  let shown := Text.trim (r.text call)
  let spoken := if shown = "" then (Web.reasonPhrase? r.status).getD "request failed" else shown
  let aside (extra : Option String) := (extra.map fun s => " (" ++ s ++ ")").getD ""
  e.message.getD spoken ++ aside e.details ++ aside e.hint

/-- What a response settles about the reply to a call. -/
structure Settles (call : Call) (reply : Except Store.Error call.Reply) : Prop where
  success : Web.isSuccess r.status = true → Exactly (r.Shows call) (r.flaw call) reply
  noRow : Web.isSuccess r.status = false → (r.errorBody call).code = some noRowsCode →
    reply = .error (.notFound call.table)
  failure : Web.isSuccess r.status = false → (r.errorBody call).code ≠ some noRowsCode →
    reply = .error (.api r.status (r.errorBody call).code (r.message call))

theorem errorMessage_eq (call : Call) :
    errorMessage r.status (r.text call) (r.errorBody call) = r.message call := by
  have hempty (s : String) : s.isEmpty = true ↔ s = "" := by
    exact String.isEmpty_iff
  rw [errorMessage, message, ErrorBody.extras]
  obtain ⟨code, message?, details, hint⟩ := r.errorBody call
  simp only [hempty]
  cases details <;> cases hint <;> simp [String.append_assoc]

theorem settles_reply (call : Call) : r.Settles call (r.reply call) where
  success h := by
    rw [reply, if_pos h]
    cases call with
    | insert | update | delete | select => exact decodeRows_exact _
    | selectSingle => exact decodeRow_exact _
    | count => exact decodeCount_exact _
  noRow h hcode := by
    rw [reply, if_neg (by rw [h]; decide)]
    exact congrArg Except.error (if_pos hcode)
  failure h hcode := by
    rw [reply, if_neg (by rw [h]; decide), ← r.errorMessage_eq]
    exact congrArg Except.error (if_neg hcode)

end Response

def Client.heard {π : Type} (client : Client) (service : Message → π → Option Answer × π) (call : Call)
    (state : π) : Option Answer :=
  (service ((client.request call).message client) state).1

/-- The reply to a call, by the answer of the other side. -/
def Client.replyOf {π : Type} (client : Client) (service : Message → π → Option Answer × π) (call : Call)
    (state : π) : Except Store.Error call.Reply :=
  (client.answer (client.deliver service) call state).1

section

variable {π : Type} {client : Client} {service : Message → π → Option Answer × π} {call : Call}
  {state : π} (hsent : (client.request call).isSendable = true)

include hsent

theorem replyOf_eq : client.replyOf service call state =
    match (client.heard service call state).bind fun a =>
      Response.receive? a.status a.body a.range with
    | some r => r.reply call
    | none => .error .transport := by
  have hdeliver : client.deliver service (client.request call) state =
      ((client.heard service call state).bind fun a => Response.receive? a.status a.body a.range,
        (service ((client.request call).message client) state).2) := rfl
  rw [Client.replyOf, Client.answer, if_pos hsent, hdeliver]
  cases (client.heard service call state).bind fun a => Response.receive? a.status a.body a.range with
  | none => rfl
  | some r => rfl

theorem replyOf_of_silence (h : client.heard service call state = none) :
    client.replyOf service call state = .error .transport := by
  rw [replyOf_eq hsent, h]
  rfl

theorem replyOf_of_not_arrives {a : Answer} (h : client.heard service call state = some a)
    (ha : ¬ a.Arrives) : client.replyOf service call state = .error .transport := by
  rw [replyOf_eq hsent, h, Option.bind_some, Answer.receive?_eq_none ha]

theorem settles_replyOf {a : Answer} (h : client.heard service call state = some a) (ha : a.Arrives) :
    (a.response ha).Settles call (client.replyOf service call state) := by
  rw [replyOf_eq hsent, h, Option.bind_some, Answer.receive?_eq_some ha]
  exact (a.response ha).settles_reply call

theorem replyOf_eq_notFound_iff (table : String) :
    client.replyOf service call state = .error (.notFound table) ↔
      table = call.table ∧ ∃ a, client.heard service call state = some a ∧ ∃ ha : a.Arrives,
        Web.isSuccess a.status = false ∧
          ((a.response ha).errorBody call).code = some noRowsCode := by
  constructor
  · intro h
    cases hheard : client.heard service call state with
    | none => cases (replyOf_of_silence hsent hheard).symm.trans h
    | some a =>
        by_cases ha : a.Arrives
        · have hsettles := settles_replyOf hsent hheard ha
          cases hsuccess : Web.isSuccess a.status with
          | true =>
              have hexact := hsettles.success hsuccess
              by_cases hshown : ∃ v, (a.response ha).Shows call v
              · obtain ⟨v, hv⟩ := hshown
                cases ((hexact.ok_iff v).mpr hv).symm.trans h
              · cases (hexact.error (not_exists.mp hshown)).symm.trans h
          | false =>
              by_cases hcode : ((a.response ha).errorBody call).code = some noRowsCode
              · cases (hsettles.noRow hsuccess hcode).symm.trans h
                exact ⟨rfl, a, rfl, ha, hsuccess, hcode⟩
              · cases (hsettles.failure hsuccess hcode).symm.trans h
        · cases (replyOf_of_not_arrives hsent hheard ha).symm.trans h
  · rintro ⟨rfl, a, hheard, ha, hsuccess, hcode⟩
    exact (settles_replyOf hsent hheard ha).noRow hsuccess hcode

end

end Rest

theorem Mode.shape_error (mode : Mode) (call : Call) (e : Store.Error) :
    mode.shape call (.error e) = .error (.store e) ∨
      (∃ name filter table, call = .selectSingle name filter ∧ e = .notFound table) ∧
        mode.shape call (.error e) = .ok mode.empty := by
  cases call with
  | selectSingle name filter =>
      cases e with
      | notFound table => exact Or.inr ⟨⟨name, filter, table, rfl, rfl⟩, rfl⟩
      | _ => exact Or.inl rfl
  | _ => exact Or.inl rfl

namespace Rest

section

variable {π : Type} {client : Client} {service : Message → π → Option Answer × π} {call : Call}
  {state : π} {mode : Mode} {text : String} {args : Sql.Arguments} {intent : Sql.Intent}

theorem ask_eq_shape (settings : EngineSettings) (hparse : Sql.parse text args = .ok intent)
    (hasks : Asks mode intent call) :
    ((Engine.mk settings (client.server (client.deliver service))).ask mode text args state).1 =
      mode.shape call (client.replyOf service call state) := by
  have hadmits : mode.admits intent.verb = true := by cases hasks <;> rfl
  rw [Engine.ask_of_parse settings _ hparse hadmits hasks.ofIntent]
  rfl

theorem shape_get_eq_none_iff {name : String} {filter : Option Predicate}
    (reply : Except Store.Error Row) :
    Mode.get.shape (.selectSingle name filter) reply = .ok none ↔
      ∃ table, reply = .error (.notFound table) := by
  cases reply with
  | ok row => exact iff_of_false nofun nofun
  | error e =>
      cases e with
      | notFound table => exact iff_of_true rfl ⟨table, rfl⟩
      | _ => exact iff_of_false nofun nofun

end

/-- What becomes of a request that was sent, for every answer of the other side and none. The last
parts are about statements: a look-up of one row finds none only if the other side says so, and no
other error is hidden by an empty result. -/
theorem outcomes_exact {π : Type} (client : Client) (service : Message → π → Option Answer × π)
    (call : Call) (state : π) (hsent : (client.request call).isSendable = true) :
    let reply := client.replyOf service call state
    (client.heard service call state = none → reply = .error .transport) ∧
    (∀ a ∈ client.heard service call state,
      (¬ a.Arrives → reply = .error .transport) ∧
      ∀ ha : a.Arrives, (a.response ha).Settles call reply) ∧
    (∀ fields : List (String × Option String), (∀ f ∈ fields, f.1 ∈ ErrorBody.fieldNames) →
      (fields.map (·.1)).Nodup →
      ErrorBody.ofText (Json.object (fields.map ErrorBody.fieldMember)).compact = .ofNamed fields) ∧
    ∀ settings mode text args intent, Sql.parse text args = .ok intent → Asks mode intent call →
      let result := ((Engine.mk settings (client.server (client.deliver service))).ask mode text args
        state).1
      (∀ v, reply = .ok v → result = .ok (mode.view call v)) ∧
      (∀ e, reply = .error e → result = .error (.store e) ∨
        mode = .get ∧ intent.verb = .select ∧ e = .notFound call.table ∧ result = .ok mode.empty) ∧
      (mode = .get → intent.verb = .select → (result = .ok mode.empty ↔
        ∃ a, client.heard service call state = some a ∧ ∃ ha : a.Arrives,
          Web.isSuccess a.status = false ∧
            ((a.response ha).errorBody call).code = some noRowsCode)) := by
  intro reply
  refine ⟨replyOf_of_silence hsent, fun a ha => ⟨replyOf_of_not_arrives hsent ha,
    settles_replyOf hsent ha⟩, ErrorBody.ofText_fields, ?_⟩
  intro settings mode text args intent hparse hasks result
  have hresult : result = mode.shape call reply := ask_eq_shape settings hparse hasks
  rw [hresult]
  refine ⟨fun v hv => ?_, fun e he => ?_, fun hmode hverb => ?_⟩
  · rw [hv]
    cases call <;> rfl
  · rw [he]
    refine (mode.shape_error call e).imp_right ?_
    rintro ⟨⟨name, filter, table, hcall, rfl⟩, hempty⟩
    obtain ⟨rfl, -⟩ := (replyOf_eq_notFound_iff hsent table).mp he
    subst hcall
    cases hasks with
    | selectOne name filter limit => exact ⟨rfl, rfl, rfl, hempty⟩
  · cases hasks with
    | selectOne name filter limit =>
        refine (shape_get_eq_none_iff reply).trans ⟨?_, fun h => ?_⟩
        · rintro ⟨table, h⟩
          exact ((replyOf_eq_notFound_iff hsent table).mp h).2
        · exact ⟨_, (replyOf_eq_notFound_iff hsent _).mpr ⟨rfl, h⟩⟩
    | countOne table filter => cases hverb
    | _ => cases hmode

def scripted (answer : Option Answer) : Message → Unit → Option Answer × Unit :=
  fun _ state => (answer, state)

def missingRow : Answer := Service.error 406 noRowsCode "no such row"

def outage : Answer := ⟨503, "", none⟩

theorem missingRow_arrives : missingRow.Arrives := ⟨by decide, by decide⟩

theorem outage_arrives : outage.Arrives := ⟨by decide, by decide⟩

/-- A row is looked up by its id, and the service says that there is none, is out of order, or does
not answer. -/
theorem outcomes_exact_lookup :
    let call : Call := .selectSingle "t" (some ⟨idColumn, .ofNat 7⟩)
    let asked (answer : Option Answer) :=
      ((Engine.mk .standard (localClient.server (localClient.deliver (scripted answer)))).ask .get
        "SELECT * FROM \"t\" WHERE \"id\" = ?" [.ofNat 7] ()).1
    (localClient.request call).isSendable = true ∧
      asked (some missingRow) = .ok none ∧
      asked (some outage) = .error (.store (.api 503 none "Service Unavailable")) ∧
      asked none = .error (.store .transport) := by
  intro call asked
  have hsent : (localClient.request call).isSendable = true := by decide +kernel
  have hparse := Store.parse_lookup_of_id (.ofNat 7)
  have hasks : Asks .get (.select "t" (some ⟨idColumn, .ofNat 7⟩) none) call :=
    .selectOne "t" (some ⟨idColumn, .ofNat 7⟩) none
  have hshown (answer : Option Answer) (e : Store.Error) (he : ∀ table, e ≠ .notFound table)
      (hreply : localClient.replyOf (scripted answer) call () = .error e) :
      asked answer = .error (.store e) := by
    obtain ⟨-, -, -, hasked⟩ := outcomes_exact localClient (scripted answer) call () hsent
    obtain ⟨-, herror, -⟩ := hasked .standard .get _ _ _ hparse hasks
    exact (herror e hreply).resolve_right fun h => he _ h.2.2.1
  refine ⟨hsent, ?_, ?_, ?_⟩
  · obtain ⟨-, -, -, hasked⟩ := outcomes_exact localClient (scripted (some missingRow)) call () hsent
    obtain ⟨-, -, hempty⟩ := hasked .standard .get _ _ _ hparse hasks
    exact (hempty rfl rfl).mpr ⟨missingRow, rfl, missingRow_arrives, rfl, by decide +kernel⟩
  · obtain ⟨-, hanswer, -, -⟩ := outcomes_exact localClient (scripted (some outage)) call () hsent
    have hcode : ((outage.response outage_arrives).errorBody call).code = none := by decide +kernel
    have hmessage : (outage.response outage_arrives).message call = "Service Unavailable" := by
      decide +kernel
    have hfailure := ((hanswer outage rfl).2 outage_arrives).failure rfl (by rw [hcode]; nofun)
    rw [hcode, hmessage] at hfailure
    exact hshown _ _ nofun hfailure
  · obtain ⟨hsilence, -⟩ := outcomes_exact localClient (scripted none) call () hsent
    exact hshown _ _ nofun (hsilence rfl)

/-- A number behind a character that is not of ASCII is not read, and a status that only announces
another one is no answer. -/
theorem unread_range_and_announcement :
    (States "\u00a0*/5" 5 ∧
      localClient.replyOf (scripted (some ⟨206, "", some "\u00a0*/5"⟩)) (.count "t" none) () =
        .error (.decode .noContentRange)) ∧
    Web.isSuccess 199 = false ∧
      localClient.replyOf (scripted (some ⟨199, "", none⟩)) (.select "t" none none) () =
        .error .transport :=
  ⟨⟨total?_eq_some_iff.mp (by decide +kernel), by decide +kernel⟩, rfl, by decide +kernel⟩

end Rest

end DocQuery
