import DocQuery.Rest.Client
import DocQuery.Proofs.Execution.Plan
import DocQuery.Proofs.Sql.RoundTrip
import Mathlib.Data.List.Basic

namespace DocQuery

open Store (Call)

namespace Store.Call

def filter? : Call → Option Predicate
  | insert _ _ => none
  | update _ _ filter | delete _ filter => some filter
  | select _ filter _ | selectSingle _ filter | count _ filter => filter

def limit? : Call → Option Nat
  | select _ _ limit => limit
  | selectSingle _ _ => some 1
  | insert _ _ | update _ _ _ | delete _ _ | count _ _ => none

end Store.Call

/-- A value in the form in which a filter carries it: null, or a text. -/
def Json.carried (value : Json) : Json :=
  if value.isNull then .null else .string value.filterText

def Predicate.carried (p : Predicate) : Predicate := ⟨p.column, p.value.carried⟩

namespace Rest

/-- What the pairs of a request ask for. -/
structure Query where
  filter : Option Predicate
  limit : Option Nat
deriving DecidableEq

namespace Query

def empty : Query := ⟨none, none⟩

/-- The value that a text of a pair stands for. The mark of an equality is dropped once. -/
def operand (text : String) : Json :=
  if text = "is.null" then .null
  else .string (String.ofList ((text.toList.dropPrefix? "eq.".toList).getD text.toList))

/-- Takes one pair. Two keys have a meaning of their own; any other key is the column of a filter. -/
def take (q : Query) (pair : String × String) : Query :=
  if pair.1 = "select" then q
  else if pair.1 = "limit" then { q with limit := Text.natural64? pair.2.toList }
  else { q with filter := some ⟨pair.1, operand pair.2⟩ }

def ofPairs (pairs : List (String × String)) : Query :=
  pairs.foldl take empty

def reserved : List String := ["select", "limit"]

variable {p : Predicate}

theorem filterPair_of_isNull (h : p.value.isNull = true) : filterPair p = (p.column, "is.null") := by
  rw [filterPair, if_pos h]

theorem filterPair_of_not_isNull (h : p.value.isNull = false) :
    filterPair p = (p.column, "eq." ++ p.value.filterText) := by
  rw [filterPair, h]
  rfl

theorem operand_equality (s : String) : operand ("eq." ++ s) = .string s := by
  have hne : "eq." ++ s ≠ "is.null" := by
    intro h
    have hl := congrArg (fun t => t.toList.head?) h
    simp at hl
  have hd : ("eq." ++ s).toList.dropPrefix? "eq.".toList = some s.toList := by
    rw [String.toList_append]
    exact List.dropPrefix?_append_of_beq _ (beq_self_eq_true _)
  rw [operand, if_neg hne, hd, Option.getD_some, String.ofList_toList]

theorem operand_filterPair (p : Predicate) : operand (filterPair p).2 = p.value.carried := by
  cases h : p.value.isNull with
  | true => rw [filterPair_of_isNull h, Json.carried, if_pos h, operand, if_pos rfl]
  | false => rw [filterPair_of_not_isNull h, operand_equality, Json.carried, h]; rfl

theorem natural64?_filterPair (p : Predicate) :
    Text.natural64? (filterPair p).2.toList = none := by
  have hletter (c : Char) (cs : List Char) (hc : c.isDigit = false) (hplus : c ≠ '+') :
      Text.natural64? (c :: cs) = none := by
    unfold Text.natural64?
    split
    · rename_i he
      exact absurd (List.cons.inj he).1 hplus
    · simp [hc]
  cases h : p.value.isNull with
  | true =>
      rw [filterPair_of_isNull h]
      change Text.natural64? "is.null".toList = none
      decide
  | false =>
      rw [filterPair_of_not_isNull h, String.toList_append]
      exact hletter 'e' ("q.".toList ++ p.value.filterText.toList) (by decide) (by decide)

theorem take_filterPair (q : Query) (h : p.column ∉ reserved) :
    take q (filterPair p) = { q with filter := some p.carried } := by
  simp only [reserved, List.mem_cons, List.not_mem_nil, or_false, not_or] at h
  have hf : (filterPair p).1 = p.column := rfl
  rw [take, hf, if_neg h.1, if_neg h.2, operand_filterPair]
  rfl

theorem take_filterPair_of_reserved (h : p.column ∈ reserved) :
    take empty (filterPair p) = empty := by
  simp only [reserved, List.mem_cons, List.not_mem_nil, or_false] at h
  have hf : (filterPair p).1 = p.column := rfl
  rw [take, hf]
  rcases h with h | h
  · exact if_pos h
  · rw [h, if_neg (by decide), if_pos rfl, natural64?_filterPair]
    rfl

def kept (filter : Option Predicate) : Option Predicate :=
  (filter.filter fun p => decide (p.column ∉ reserved)).map Predicate.carried

def shortEnough (limit : Option Nat) : Option Nat :=
  limit.filter fun n => decide (n < 0x10000000000000000)

theorem ofPairs_filterPair (p : Predicate) : ofPairs [filterPair p] = ⟨kept (some p), none⟩ := by
  change take empty (filterPair p) = _
  by_cases h : p.column ∈ reserved
  · rw [take_filterPair_of_reserved h]
    simp [kept, Option.filter_some, h, empty]
  · rw [take_filterPair empty h]
    simp [kept, Option.filter_some, h, empty]

theorem take_limit (q : Query) (n : Nat) :
    take q ("limit", toString n) = { q with limit := shortEnough (some n) } := by
  have hn : Text.natural64? (toString n).toList = shortEnough (some n) := by
    rw [Nat.toString_eq_ofList_toDigits, String.toList_ofList, Text.natural64?_toDigits_eq,
      shortEnough, Option.filter_some]
    simp only [decide_eq_true_eq]
  rw [take, if_neg (by simp), if_pos rfl, hn]

theorem ofPairs_readPairs (filter : Option Predicate) (limit : Option Nat) :
    ofPairs (readPairs filter limit) = ⟨kept filter, shortEnough limit⟩ := by
  have hf : ofPairs (("select", "*") :: (filter.map filterPair).toList) = ⟨kept filter, none⟩ := by
    cases filter with
    | none => rfl
    | some p => exact ofPairs_filterPair p
  have happend : ofPairs (readPairs filter limit) =
      ((limit.map fun n => ("limit", toString n)).toList).foldl take ⟨kept filter, none⟩ := by
    rw [← hf]
    exact List.foldl_append
  rw [happend]
  cases limit with
  | none => rfl
  | some n => exact take_limit _ n

theorem ofPairs_ofCall (standard : Option String) (call : Call) :
    ofPairs (Request.ofCall standard call).pairs = ⟨kept call.filter?, shortEnough call.limit?⟩ := by
  cases call with
  | insert table values => rfl
  | update table values filter => exact ofPairs_filterPair filter
  | delete table filter => exact ofPairs_filterPair filter
  | select table filter limit => exact ofPairs_readPairs filter limit
  | selectSingle table filter => exact ofPairs_readPairs filter (some 1)
  | count table filter => exact ofPairs_readPairs filter none

theorem kept_eq_iff (filter : Option Predicate) :
    kept filter = filter.map Predicate.carried ↔ ∀ p ∈ filter, p.column ∉ reserved := by
  cases filter with
  | none => simp [kept]
  | some p => by_cases h : p.column ∈ reserved <;> simp [kept, Option.filter_some, h]

theorem shortEnough_eq_iff (limit : Option Nat) :
    shortEnough limit = limit ↔ ∀ n ∈ limit, n < 0x10000000000000000 := by
  cases limit with
  | none => simp [shortEnough]
  | some n => simp [shortEnough, Option.filter_some]

/-- The pairs of a call give its filter and its limit exactly if the column of the filter is not one
of two names; a limit has 64 bits. A filter with such a column is lost, whatever its value is. -/
theorem ofPairs_ofCall_iff (standard : Option String) (call : Call) :
    (ofPairs (Request.ofCall standard call).pairs =
        ⟨call.filter?.map Predicate.carried, call.limit?⟩ ↔
      (∀ p ∈ call.filter?, p.column ∉ reserved) ∧ ∀ n ∈ call.limit?, n < 0x10000000000000000) ∧
    ∀ p ∈ call.filter?, (ofPairs (Request.ofCall standard call).pairs).filter = none ↔
      p.column ∈ reserved := by
  rw [ofPairs_ofCall]
  constructor
  · rw [Query.mk.injEq, kept_eq_iff, shortEnough_eq_iff]
  · intro p hp
    rw [Option.mem_def.mp hp]
    by_cases h : p.column ∈ reserved <;> simp [kept, Option.filter_some, h]

end Query

def recorder : Peer (List Request) := fun request sent => (none, sent ++ [request])

theorem parse_removal_by_reserved :
    Sql.parse "DELETE FROM \"t\" WHERE \"select\" = ?" [.ofNat 1] =
      .ok (.delete "t" ⟨"select", .ofNat 1⟩) :=
  Sql.Draft.parse_eq (.delete "t" ("select", .argument (.ofNat 1))) (Sql.spells_spaced _)

def localClient : Client := ⟨⟨"http://localhost", "key", none, 1000⟩, ⟨[[]], none⟩⟩

theorem ofSettings_localClient : Client.ofSettings localClient.settings = .ok localClient := by
  decide +kernel

/-- A removal of rows by a column named `select` is sent without its filter. -/
theorem removal_of_reserved_column_unfiltered :
    Client.ofSettings localClient.settings = .ok localClient ∧ ∃ request : Request,
      ((Engine.mk .standard (localClient.server recorder)).run
        "DELETE FROM \"t\" WHERE \"select\" = ?" [.ofNat 1] []).2 = [request] ∧
      request.method = .delete ∧ request.resource = ⟨none, "t"⟩ ∧
      Query.ofPairs request.pairs = Query.empty := by
  refine ⟨ofSettings_localClient, localClient.request (.delete "t" ⟨"select", .ofNat 1⟩), ?_, rfl,
    by decide, by decide⟩
  change ((Engine.mk .standard (localClient.server recorder)).ask .run _ _ _).2 = _
  rw [Engine.ask_of_parse .standard _ parse_removal_by_reserved rfl rfl]
  rfl

end Rest

end DocQuery
