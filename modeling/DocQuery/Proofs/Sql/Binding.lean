import DocQuery.Proofs.Sql.Dispatch
import DocQuery.Proofs.Sql.RoundTrip

namespace DocQuery

namespace TextMap

variable {α : Type} {es : List (String × α)} {k : String}

theorem ofList_append_singleton (es : List (String × α)) (e : String × α) :
    ofList (es ++ [e]) = (ofList es).insert e.1 e.2 :=
  List.foldl_append

theorem get?_ofList_isSome_iff (es : List (String × α)) (k : String) :
    ((ofList es).get? k).isSome ↔ k ∈ es.map (·.1) := by
  induction es using List.reverseRecOn with
  | nil => simp [ofList, insertAll]
  | append_singleton es e ih =>
      rw [ofList_append_singleton, get?_insert, List.map_append, List.mem_append, ← ih]
      by_cases hk : k = e.1
      · simp [hk]
      · simp [hk]

theorem get?_ofList_of_last {i : Nat} {v : α} (hi : es[i]? = some (k, v))
    (hlast : ∀ j w, i < j → es[j]? ≠ some (k, w)) : (ofList es).get? k = some v := by
  induction es using List.reverseRecOn with
  | nil => cases hi
  | append_singleton es e ih =>
      rw [ofList_append_singleton, get?_insert]
      rcases Nat.lt_trichotomy i es.length with hlt | heq | hgt
      · have hne : k ≠ e.1 := by
          rintro rfl
          exact hlast es.length e.2 hlt (List.getElem?_concat_length ..)
        rw [if_neg hne]
        rw [List.getElem?_append_left hlt] at hi
        refine ih hi fun j w hj hw => hlast j w hj ?_
        rw [List.getElem?_append_left (List.getElem?_eq_some_iff.mp hw).1]
        exact hw
      · rw [heq, List.getElem?_concat_length] at hi
        obtain rfl := Option.some.inj hi
        rw [if_pos rfl]
      · rw [List.getElem?_eq_none (by rw [List.length_append, List.length_singleton]; omega)] at hi
        cases hi

end TextMap

namespace Sql

open Grammar

variable {statement : String} {args : Arguments} {intent : Intent}

theorem map_fst_valuesOf (numbering : Numbering) (index : Nat) (es : List Equality) :
    (valuesOf args (slotsFrom numbering index es)).map (·.1) = es.map (·.1) := by
  induction es generalizing index with
  | nil => rfl
  | cons e es ih =>
      rw [slotsFrom, valuesOf, List.map_cons, List.map_cons, List.map_cons, ← ih]
      rfl

theorem exists_form_of_parse (h : parse statement args = .ok intent) :
    ∃ r ts form, intent.verb.reading? = some r ∧ tokenize statement = .ok ts ∧
      Form.ofTokens r ts = .ok form ∧ (form.template intent.verb).bind args = .ok intent := by
  obtain ⟨-, r, hr, hp⟩ := parse_eq_ok h
  rw [parseAs_eq] at hp
  cases hf : formOf r statement with
  | error e => rw [hf] at hp; cases hp
  | ok form =>
      rw [hf] at hp
      obtain ⟨ts, hts, hform⟩ := formOf_eq_ok.mp hf
      exact ⟨r, ts, form, hr, hts, hform, hp⟩

theorem Template.length_of_bind {t : Template} (h : t.bind args = .ok intent) :
    args.length = t.arity := by
  rw [bind] at h
  split at h
  · assumption
  · cases h

theorem parse_of_insertion {d : Insertion} (hts : tokenize statement = .ok d.tokens)
    (args : Arguments) : parse statement args = (d.form.template .insert).bind args := by
  have hverb := verbOf_insertion d
  rw [parse_of_tokenize hts (r := Form.readInsert) (by rw [hverb]; rfl)
    (Form.readInsert_iff.mpr ⟨d, rfl, rfl⟩), hverb]

theorem accepted_insert_iff : (∃ args intent, parse statement args = .ok intent ∧ intent.verb = .insert) ↔
    ∃ d : Insertion, tokenize statement = .ok d.tokens := by
  constructor
  · rintro ⟨args, intent, hp, hverb⟩
    obtain ⟨r, ts, form, hr, hts, hform, -⟩ := exists_form_of_parse hp
    rw [hverb] at hr
    cases hr
    obtain ⟨d, rfl, -⟩ := Form.readInsert_iff.mp hform
    exact ⟨d, hts⟩
  · rintro ⟨d, hts⟩
    exact ⟨_, _, (parse_of_insertion hts _).trans (Template.bind_replicate _), rfl⟩

theorem parse_of_revision {d : Revision} (hts : tokenize statement = .ok d.tokens)
    (args : Arguments) : parse statement args = (d.form.template .update).bind args := by
  have hverb := verbOf_revision d (tokenize_tight hts)
  rw [parse_of_tokenize hts (r := Form.readUpdate) (by rw [hverb]; rfl)
    (Form.readUpdate_iff.mpr ⟨d, rfl, rfl⟩), hverb]

namespace Grammar

def Revision.setValues (d : Revision) (args : Arguments) : Row :=
  TextMap.ofList (valuesOf args
    (slotsFrom .placeholders 0 (d.assignments.items.map Equation.equality)))

def Revision.predicate (d : Revision) (args : Arguments) : Predicate :=
  ⟨d.condition.column.value, (d.condition.value.expr.slot
    (placeholders (d.assignments.items.map Equation.equality))).value args⟩

theorem Revision.setValues_isSome_iff (d : Revision) (args : Arguments) (column : String) :
    ((d.setValues args).get? column).isSome ↔
      column ∈ d.assignments.items.map (·.column.value) := by
  rw [setValues, TextMap.get?_ofList_isSome_iff, map_fst_valuesOf, List.map_map]
  rfl

def Removal.predicate (d : Removal) (args : Arguments) : Predicate :=
  ⟨d.condition.column.value, (d.condition.value.expr.slot 0).value args⟩

end Grammar

theorem exists_revision (h : parse statement args = .ok intent) (hverb : intent.verb = .update) :
    ∃ d : Revision, tokenize statement = .ok d.tokens ∧
      intent = .update d.name.table (d.setValues args) (d.predicate args) := by
  obtain ⟨r, ts, form, hr, hts, hform, hbind⟩ := exists_form_of_parse h
  rw [hverb] at hr hbind
  cases hr
  obtain ⟨d, rfl, rfl⟩ := Form.readUpdate_iff.mp hform
  exact ⟨d, hts, Template.eq_fill_of_bind hbind⟩

/-- What is read as a deletion has no text in it that makes an update of it. -/
theorem exists_removal (h : parse statement args = .ok intent) (hverb : intent.verb = .delete) :
    ∃ d : Removal, tokenize statement = .ok d.tokens ∧
      Search.occurs (Search.keywords "UPDATE" none) (skeletonOf d.tokens) = false ∧
      args.length = d.condition.value.expr.arity ∧
      intent = .delete d.name.table (d.predicate args) := by
  obtain ⟨r, ts, form, hr, hts, hform, hbind⟩ := exists_form_of_parse h
  rw [hverb] at hr hbind
  cases hr
  obtain ⟨d, rfl, rfl⟩ := Form.readDelete_iff.mp hform
  refine ⟨d, hts, ?_, Template.length_of_bind hbind, Template.eq_fill_of_bind hbind⟩
  have haccepts : Accepts .delete Form.readDelete statement := by
    refine ⟨args, intent, ?_⟩
    rw [parseAs_eq, formOf_eq_ok.mpr ⟨_, hts, hform⟩]
    exact hbind
  have hremoval := parse_removal haccepts
  rw [skeleton_of_tokenize hts] at hremoval
  split at hremoval
  · obtain ⟨e, he⟩ := hremoval
    rw [he args] at h
    cases h
  · rename_i hupdate
    exact Bool.eq_false_iff.mpr hupdate

end Sql

end DocQuery
