import DocQuery.Proofs.Rest.ErrorBody
import DocQuery.Proofs.Rest.Service

namespace DocQuery

open Store (Call Database Server Table)

namespace Rest

variable {rows : List Row} {row : Row} {n : Nat}

theorem mapM_toRow? (rows : List Row) : (rows.map Json.ofRow).mapM Json.toRow? = some rows :=
  Json.mapM_toRow?_iff.mpr
    (List.forall₂_map_left_iff.mpr (List.forall₂_same.mpr fun row _ => Json.toRow?_ofRow row))

theorem decodeRows_rowsText (h : ∀ row ∈ rows, row.Scalar) :
    decodeRows (Service.rowsText rows) = .ok rows := by
  have hreads : Json.Reader.Reads 127 (.array (rows.map Json.ofRow)) := by
    refine Json.Reader.reads_array fun v hv => ?_
    obtain ⟨row, hrow, rfl⟩ := List.mem_map.mp hv
    exact (h row hrow).reads
  rw [decodeRows, Service.rowsText, Json.read?_compact hreads, Option.bind_some, rowsOfJson?,
    mapM_toRow?]

theorem decodeRow_compact (h : row.Scalar) : decodeRow (Json.ofRow row).compact = .ok row := by
  rw [decodeRow, Json.read?_compact h.reads, Option.bind_some, Json.toRow?_ofRow]

theorem toDigits_bounds (n : Nat) : ∀ c ∈ Nat.toDigits 10 n, 0x30 ≤ c.toNat ∧ c.toNat ≤ 0x39 := by
  intro c hc
  have hdigit := Json.Reader.toDigits_isDigit n c hc
  simp only [Char.isDigit, Bool.and_eq_true, decide_eq_true_eq, ge_iff_le,
    UInt32.le_iff_toNat_le] at hdigit
  exact hdigit

theorem toList_rangeText (n : Nat) : ∃ before : List Char,
    (∀ c ∈ before, 0x20 < c.toNat ∧ c.toNat < 0x7F) ∧
      (Service.rangeText n).toList = before ++ '/' :: Nat.toDigits 10 n := by
  rw [Service.rangeText]
  by_cases hn : n = 0
  · subst hn
    exact ⟨['*'], by simp, rfl⟩
  · refine ⟨'0' :: '-' :: Nat.toDigits 10 (n - 1), ?_, ?_⟩
    · intro c hc
      rcases List.mem_cons.mp hc with rfl | hc
      · decide
      · rcases List.mem_cons.mp hc with rfl | hc
        · decide
        · obtain ⟨hlow, hhigh⟩ := toDigits_bounds _ c hc
          omega
    · rw [if_neg hn]
      simp [String.toList_append]

theorem rangeText_visible (n : Nat) : Visible (Service.rangeText n) := by
  obtain ⟨before, hbefore, htext⟩ := toList_rangeText n
  intro c hc
  rw [htext] at hc
  rcases List.mem_append.mp hc with hc | hc
  · exact hbefore c hc
  · rcases List.mem_cons.mp hc with rfl | hc
    · decide
    · obtain ⟨hlow, hhigh⟩ := toDigits_bounds n c hc
      omega

theorem total?_rangeText (h : n < 0x10000000000000000) : total? (Service.rangeText n) = some n := by
  obtain ⟨before, -, htext⟩ := toList_rangeText n
  have hreverse : (Service.rangeText n).toList.reverse =
      (Nat.toDigits 10 n).reverse ++ '/' :: before.reverse := by
    rw [htext, List.reverse_append, List.reverse_cons, List.append_assoc, List.singleton_append]
  have hslash : ∀ c ∈ (Nat.toDigits 10 n).reverse, (c != '/') = true := by
    intro c hc
    obtain ⟨hlow, -⟩ := toDigits_bounds n c (List.mem_reverse.mp hc)
    have hne : c ≠ '/' := by
      rintro rfl
      exact absurd hlow (by decide)
    simpa using hne
  have hblank : ∀ c ∈ Nat.toDigits 10 n, Text.isBlank c = false := by
    intro c hc
    obtain ⟨hlow, hhigh⟩ := toDigits_bounds n c hc
    simp only [Text.isBlank, Bool.or_eq_false_iff, Bool.and_eq_false_iff, decide_eq_false_iff_not,
      beq_eq_false_iff_ne]
    omega
  rw [total?, hreverse, Web.span_append_of_forall hslash (by decide)]
  simp only [List.reverse_reverse, trimChars_eq_self hblank, Text.natural64?_toDigits h]

theorem decodeCount_rangeText (h : n < 0x10000000000000000) :
    decodeCount (some (Service.rangeText n)) = .ok n := by
  rw [decodeCount, Option.filter_some, if_pos (rangeText_visible n).isAsciiText]
  simp only [total?_rangeText h]

theorem reply_of_isSuccess {r : Response} (h : Web.isSuccess r.status = true) (call : Call) :
    r.reply call = r.decode call :=
  if_pos h

theorem final_success : IsFinal 200 ∧ IsFinal 201 ∧ IsFinal 406 := by
  decide

theorem receive?_body {status : Nat} (h : IsFinal status) (text : String) :
    Response.receive? status text none = some ⟨status, text, none, h⟩ :=
  dif_pos h

theorem receive?_rangeText {status : Nat} (h : IsFinal status) (text : String) (n : Nat) :
    Response.receive? status text (some (Service.rangeText n)) =
      some ⟨status, text, some (Service.rangeText n), h⟩ := by
  have hvisible := rangeText_visible n
  rw [Response.receive?, dif_pos h, Option.all_some, if_pos hvisible.isHeaderValue, Option.map_some,
    hvisible.headerValue]

theorem ofText_error (status : Nat) (code message : String) :
    ErrorBody.ofText (dropByteOrderMark (Service.error status code message).body) =
      ⟨some code, some message, none, none⟩ := by
  have hfields := ErrorBody.ofText_fields
    [("code", some code), ("details", none), ("hint", none), ("message", some message)]
    (by simp [ErrorBody.fieldNames]) (by simp)
  rw [Service.error, ErrorBody.dropByteOrderMark_object]
  exact hfields

theorem apiError_noRows (message table : String) :
    apiError 406 (dropByteOrderMark (Service.error 406 noRowsCode message).body) table =
      .notFound table := by
  rw [apiError, ofText_error]
  exact if_pos rfl

def Fits : (Σ call : Call, Except Store.Error call.Reply) → Prop
  | ⟨.count _ _, .ok n⟩ => n < 0x10000000000000000
  | _ => True

variable {client : Client} {call : Call} {db : Database}

theorem present_carried (hdb : db.Tame) (hf : ∀ p ∈ call.filter?, p.value.Scalar) :
    Service.present call.carried (Database.answer call.carried db).1 =
        Service.present call (Database.answer call db).1 ∧
      (Database.answer call.carried db).2 = (Database.answer call db).2 := by
  cases call with
  | insert table values => exact ⟨rfl, rfl⟩
  | update table values filter =>
      have hcarried := hdb.update_carried (hf filter rfl) table values
      simp only [Call.carried, Database.answer, hcarried, and_true]
      rfl
  | delete table filter =>
      have hcarried := hdb.delete_carried (hf filter rfl) table
      simp only [Call.carried, Database.answer, hcarried, and_true]
      rfl
  | select table filter limit =>
      have hf : ∀ p ∈ filter, p.value.Scalar := hf
      have hcarried := (hdb.scalar table).select_carried hf limit
      simp only [Call.carried, Database.answer, hcarried, Service.present, and_self]
  | selectSingle table filter =>
      have hf : ∀ p ∈ filter, p.value.Scalar := hf
      have hcarried := hdb.selectSingle_carried hf table
      simp only [Call.carried, Database.answer, hcarried, and_true]
      cases db.selectSingle table filter <;> rfl
  | count table filter =>
      have hf : ∀ p ∈ filter, p.value.Scalar := hf
      have hcarried := (hdb.scalar table).count_carried hf
      simp only [Call.carried, Database.answer, hcarried, Service.present, and_self]

theorem exists_response (h : Servable call) (hdb : db.Tame)
    (hids : (Database.answer call db).2.SmallIds)
    (hfits : Fits ⟨call, (Database.answer call db).1⟩) :
    ∃ answer response, Service.present call (Database.answer call db).1 = some answer ∧
      Response.receive? answer.status answer.body answer.range = some response ∧
      response.reply call = (Database.answer call db).1 := by
  obtain ⟨hsuccess, hcreated, hrefused⟩ := final_success
  cases call with
  | insert table values =>
      have hrows : ∀ row ∈ (db.insert table values).1, row.Scalar := by
        intro row hrow
        obtain rfl := List.mem_singleton.mp hrow
        -- the new id is one of those behind the call, which are small
        have hid := hids table
        have htable : (Database.answer (.insert table values) db).2.table table = _ :=
          Database.table_of_insert table table values
        rw [htable, if_pos rfl, hdb.serial] at hid
        rw [hdb.serial]
        exact Table.Scalar.pushed (h.values values rfl) hid
      exact ⟨_, _, rfl, receive?_body hcreated _,
        (reply_of_isSuccess rfl _).trans (decodeRows_rowsText hrows)⟩
  | update table values filter =>
      have hrows : ∀ row ∈ (db.update table values filter).1, row.Scalar :=
        (hdb.scalar table).updated (h.values values rfl)
      exact ⟨_, _, rfl, receive?_body hsuccess _,
        (reply_of_isSuccess rfl _).trans (decodeRows_rowsText hrows)⟩
  | delete table filter =>
      have hrows : ∀ row ∈ (db.delete table filter).1, row.Scalar :=
        fun row hrow => hdb.scalar table row (List.mem_filter.mp hrow).1
      exact ⟨_, _, rfl, receive?_body hsuccess _,
        (reply_of_isSuccess rfl _).trans (decodeRows_rowsText hrows)⟩
  | select table filter limit =>
      have hrows := (hdb.scalar table).select filter limit
      exact ⟨_, _, rfl, receive?_body hsuccess _,
        (reply_of_isSuccess rfl _).trans (decodeRows_rowsText hrows)⟩
  | selectSingle table filter =>
      have hrows := (hdb.scalar table).select filter (some 1)
      change ∃ (answer : Answer) (response : Response),
        Service.present (.selectSingle table filter) (db.selectSingle table filter) = some answer ∧ _ ∧
          response.reply (.selectSingle table filter) = db.selectSingle table filter
      rw [Database.selectSingle]
      cases hselect : (db.table table).select filter (some 1) with
      | nil => exact ⟨_, _, rfl, receive?_body hrefused _, congrArg Except.error (apiError_noRows _ table)⟩
      | cons row rows =>
          rw [hselect] at hrows
          exact ⟨_, _, rfl, receive?_body hsuccess _, decodeRow_compact (hrows row List.mem_cons_self)⟩
  | count table filter =>
      exact ⟨_, _, rfl, receive?_rangeText hsuccess _ _, decodeCount_rangeText hfits⟩

/-- One call through the service is one call of the database. -/
theorem answer_deliver (hreach : client.Reaches) (h : Servable call) (hdb : db.Tame)
    (hids : (Database.answer call db).2.SmallIds)
    (hfits : Fits ⟨call, (Database.answer call db).1⟩) :
    client.answer (client.deliver Service.answer) call db = Database.answer call db := by
  obtain ⟨answer, response, hpresent, hreceive, hreply⟩ := exists_response h hdb hids hfits
  obtain ⟨hcarried, hstate⟩ := present_carried hdb fun p hp => (h.filter p hp).2
  have hdeliver : client.deliver Service.answer (client.request call) db =
      (some response, (Database.answer call db).2) := by
    rw [Client.deliver, Service.answer, call?_message hreach h]
    simp only [hcarried, hpresent, Option.bind_some, hreceive, hstate]
  rw [Client.answer, if_pos (found_of_servable hreach h).1, hdeliver]
  simp only [hreply]

end Rest

namespace Store

variable {σ : Type}

def Server.run (server : Server σ) :
    List Call → σ → List (Σ call : Call, Except Error call.Reply) × σ
  | [], state => ([], state)
  | call :: calls, state =>
    let (reply, state) := server.answer call state
    let (replies, state) := server.run calls state
    (⟨call, reply⟩ :: replies, state)

theorem Server.run_cons (server : Server σ) (call : Call) (calls : List Call) (state : σ) :
    server.run (call :: calls) state =
      (⟨call, (server.answer call state).1⟩ :: (server.run calls (server.answer call state).2).1,
        (server.run calls (server.answer call state).2).2) := rfl

theorem Database.server_answer (call : Call) (db : Database) :
    Database.server.answer call db = Database.answer call db := rfl

end Store

namespace Rest

variable {client : Client}

theorem Client.server_answer {π : Type} (peer : Peer π) (call : Call) (state : π) :
    (client.server peer).answer call state = client.answer peer call state := rfl

/-- Runs agree from all databases that a run can lead to. -/
theorem run_deliver (hreach : client.Reaches) {calls : List Call} (h : ∀ call ∈ calls, Servable call)
    {db : Database} (hdb : db.Tame)
    (hids : ∀ front, front <+: calls → (Database.server.run front db).2.SmallIds)
    (hfits : ∀ reply ∈ (Database.server.run calls db).1, Fits reply) :
    (client.server (client.deliver Service.answer)).run calls db = Database.server.run calls db := by
  induction calls generalizing db with
  | nil => rfl
  | cons call calls ih =>
      rw [Server.run_cons, Database.server_answer] at hfits
      have hcall := h call List.mem_cons_self
      have hafter : (Database.answer call db).2.SmallIds := hids [call] (by simp)
      have hstep := answer_deliver hreach hcall hdb hafter (hfits _ List.mem_cons_self)
      have hrest := ih (fun c hc => h c (List.mem_cons_of_mem _ hc)) (hdb.answer hcall.values hafter)
        (fun front hfront => hids (call :: front) (List.cons_prefix_cons.mpr ⟨rfl, hfront⟩))
        fun reply hreply => hfits reply (List.mem_cons_of_mem _ hreply)
      rw [Server.run_cons, Server.run_cons, Client.server_answer, Database.server_answer, hstep, hrest]

/-- A store behind the service gives the replies of a database and leaves its tables, over all runs
of calls that keep their meaning on the way, as long as no id is too large to be told from the others
and a count has 64 bits. -/
theorem service_agrees (hreach : client.Reaches) (calls : List Call)
    (h : ∀ call ∈ calls, Servable call)
    (hids : ∀ front, front <+: calls → (Database.server.run front (.empty .serial)).2.SmallIds)
    (hfits : ∀ reply ∈ (Database.server.run calls (.empty .serial)).1, Fits reply) :
    (client.server (client.deliver Service.answer)).run calls (.empty .serial) =
      Database.server.run calls (.empty .serial) :=
  run_deliver hreach h Database.tame_empty hids hfits

def serviceClient : Client :=
  ⟨⟨"http://localhost/rest/v1", Service.key, none, 1000⟩, ⟨Service.root, none⟩⟩

def beach : Row := TextMap.ofList [("published", .bool true), ("title", .string "Beach")]

def storedBeach : Row := beach.insert "id" (.ofInt64 1)

def shootCalls : List Call :=
  [.insert "public.shoots" beach, .count "public.shoots" (some ⟨"published", .bool true⟩),
    .selectSingle "public.shoots" (some ⟨"title", .string "Night"⟩)]

theorem run_shootCalls : Database.server.run shootCalls (.empty .serial) =
    ([⟨.insert "public.shoots" beach, .ok [storedBeach]⟩,
        ⟨.count "public.shoots" (some ⟨"published", .bool true⟩), .ok 1⟩,
        ⟨.selectSingle "public.shoots" (some ⟨"title", .string "Night"⟩),
          .error (.notFound "public.shoots")⟩],
      ⟨.serial, TextMap.empty.insert "public.shoots" ⟨[storedBeach], 1⟩⟩) :=
  rfl

theorem servable_shootCalls : ∀ call ∈ shootCalls, Servable call := by
  have hserved : Served "public.shoots" :=
    ⟨⟨some ⟨"public", false, by decide⟩, ⟨"shoots", false, by decide⟩⟩, rfl, by decide, by decide⟩
  intro call hcall
  simp only [shootCalls, List.mem_cons, List.not_mem_nil, or_false] at hcall
  rcases hcall with rfl | rfl | rfl
  · exact ⟨hserved, by decide, by decide, by decide⟩
  · exact ⟨hserved, by decide, by decide, by decide⟩
  · exact ⟨hserved, by decide, by decide, by decide⟩

/-- The flag of the counted row travels as a text, the missing row as an error. -/
theorem service_agrees_shootCalls :
    Client.ofSettings serviceClient.settings = .ok serviceClient ∧
    (serviceClient.server (serviceClient.deliver Service.answer)).run shootCalls (.empty .serial) =
      ([⟨.insert "public.shoots" beach, .ok [storedBeach]⟩,
          ⟨.count "public.shoots" (some ⟨"published", .bool true⟩), .ok 1⟩,
          ⟨.selectSingle "public.shoots" (some ⟨"title", .string "Night"⟩),
            .error (.notFound "public.shoots")⟩],
        ⟨.serial, TextMap.empty.insert "public.shoots" ⟨[storedBeach], 1⟩⟩) := by
  have hinserted : (Database.mk .serial
      (TextMap.empty.insert "public.shoots" ⟨[storedBeach], 1⟩)).SmallIds := by
    intro name
    rw [Database.table, TextMap.get?_insert, TextMap.get?_empty]
    split <;> decide
  have hids : ∀ front, front <+: shootCalls →
      (Database.server.run front (.empty .serial)).2.SmallIds := by
    intro front hfront
    rcases List.prefix_cons_iff.mp hfront with rfl | ⟨front, rfl, hreads⟩
    · exact fun name => Nat.zero_le _
    · rcases List.prefix_cons_iff.mp hreads with rfl | ⟨front, rfl, hread⟩
      · exact hinserted
      · rcases List.prefix_cons_iff.mp hread with rfl | ⟨front, rfl, hnone⟩
        · exact hinserted
        · obtain rfl := List.prefix_nil.mp hnone
          exact hinserted
  have hfits : ∀ reply ∈ (Database.server.run shootCalls (.empty .serial)).1, Fits reply := by
    rw [run_shootCalls]
    intro reply hreply
    simp only [List.mem_cons, List.not_mem_nil, or_false] at hreply
    rcases hreply with rfl | rfl | rfl
    · trivial
    · exact (by decide : 1 < 0x10000000000000000)
    · trivial
  refine ⟨by decide +kernel, ?_⟩
  rw [service_agrees ⟨rfl, rfl, rfl⟩ shootCalls servable_shootCalls hids hfits, run_shootCalls]

end Rest

end DocQuery
