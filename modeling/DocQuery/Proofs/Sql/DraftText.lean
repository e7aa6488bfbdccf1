import DocQuery.Proofs.Sql.Draft
import DocQuery.Proofs.Sql.LeadingVerb

namespace DocQuery.Sql

open Grammar Search

structure HoldsOfEntries (p : Token → Prop) : Prop where
  name : ∀ value, p (.word value true)
  text : ∀ value, p (.string value)
  null : p (.word "NULL" false)
  placeholder : p .placeholder
  equal : p .equal
  comma : p .comma

namespace HoldsOfEntries

variable {p : Token → Prop} (hp : HoldsOfEntries p)

include hp

theorem value (w : Written) : ∀ t ∈ w.tree.tokens, p t := by
  intro t ht
  cases w with
  | argument value =>
      obtain rfl := List.mem_singleton.mp ht
      exact hp.placeholder
  | text value =>
      obtain rfl := List.mem_singleton.mp ht
      exact hp.text value
  | null =>
      obtain rfl := List.mem_singleton.mp ht
      exact hp.null

theorem entry (e : Entry) : ∀ t ∈ e.equation.tokens, p t := by
  intro t ht
  rcases List.mem_cons.mp ht with rfl | ht
  · exact hp.name e.1
  · rcases List.mem_cons.mp ht with rfl | ht
    · exact hp.equal
    · exact hp.value e.2 t ht

theorem series {α β : Type} {f : β → List Token} {g : α → β} (s : Series α)
    (h : ∀ a, ∀ t ∈ f (g a), p t) : ∀ t ∈ (s.map g).tokens f, p t := by
  intro t ht
  rw [Series.tokens, List.mem_append, List.mem_flatMap] at ht
  rcases ht with ht | ⟨b, hb, ht⟩
  · exact h s.first t ht
  · obtain ⟨a, -, rfl⟩ := List.mem_map.mp hb
    rcases List.mem_cons.mp ht with rfl | ht
    · exact hp.comma
    · exact h a t ht

theorem update (table : String) (row : Series Entry) (condition : Entry)
    (hupdate : p (.word "UPDATE" false)) (hset : p (.word "SET" false))
    (hwhere : p (.word "WHERE" false)) : ∀ t ∈ (Draft.update table row condition).tokens, p t := by
  intro t ht
  simp only [Draft.tokens, Draft.derivation, Derivation.tokens, Revision.tokens, Keyword.bare,
    Name.quoted, Name.tokens, List.cons_append, List.nil_append, List.flatMap_nil, List.mem_cons,
    List.mem_append] at ht
  rcases ht with rfl | rfl | rfl | ht | rfl | ht | ht
  · exact hupdate
  · exact hp.name table
  · exact hset
  · exact hp.series row hp.entry t ht
  · exact hwhere
  · exact hp.entry condition t ht
  · cases ht

end HoldsOfEntries

def keywordTexts : List String :=
  ["INSERT", "INTO", "VALUES", "UPDATE", "SET", "DELETE", "FROM", "SELECT", "COUNT", "WHERE", "LIMIT",
    "NULL"]

theorem Token.keyword_spellable {text : String} (h : text ∈ keywordTexts) :
    (Token.word text false).Spellable := by
  have hall : ∀ text ∈ keywordTexts, text.toList ≠ [] ∧
      startsWord (text.toList.headD ' ') ∧ text.toList.tail.all continuesWord := by decide
  obtain ⟨hne, hs, hc⟩ := hall text h
  obtain ⟨c, cs, he⟩ := List.exists_cons_of_ne_nil hne
  rw [he] at hs hc
  have ht : text = String.ofList (c :: cs) := by rw [← he, String.ofList_toList]
  rw [ht]
  exact .word c cs hs hc

theorem Token.digits_spellable (n : Nat) :
    (Token.number (String.ofList (Nat.toDigits 10 n))).Spellable := by
  apply Token.Spellable.number _ Nat.toDigits_ne_nil
  rw [List.all_eq_true]
  intro c hc
  exact Nat.isDigit_of_mem_toDigits (by decide) (by decide) hc

theorem spellable_entries : HoldsOfEntries Token.Spellable where
  name := .name
  text := .string
  null := Token.keyword_spellable (by decide)
  placeholder := .placeholder
  equal := .equal
  comma := .comma

theorem Draft.query_spellable {projection : Projection}
    (hp : ∀ t ∈ projection.tokens, t.Spellable) (table : String) (condition : Option Entry)
    (limit : Option (Fin 0x10000000000000000)) :
    ∀ t ∈ (query projection table condition limit).tokens, t.Spellable := by
  intro t ht
  simp only [Query.tokens, query, Keyword.bare, Name.quoted, Name.tokens, List.mem_cons,
    List.mem_append, List.flatMap_nil, List.not_mem_nil, or_false] at ht
  rcases ht with rfl | ht | rfl | rfl | ht | ht | ht
  · exact Token.keyword_spellable (by decide)
  · exact hp t ht
  · exact Token.keyword_spellable (by decide)
  · exact .name table
  · cases condition with
    | none => cases ht
    | some e =>
        rcases List.mem_cons.mp ht with rfl | ht
        · exact Token.keyword_spellable (by decide)
        · exact spellable_entries.entry e t ht
  · cases limit with
    | none => cases ht
    | some n =>
        rcases List.mem_cons.mp ht with rfl | ht
        · exact Token.keyword_spellable (by decide)
        · obtain rfl := List.mem_singleton.mp ht
          exact Token.digits_spellable n
  · cases ht

theorem Draft.tokens_spellable (d : Draft) : ∀ t ∈ d.tokens, t.Spellable := by
  cases d with
  | insert table row unused =>
      intro t ht
      simp only [tokens, derivation, Derivation.tokens, Insertion.tokens, Keyword.bare, Name.quoted,
        Name.tokens, List.cons_append, List.nil_append, List.flatMap_nil, List.mem_cons,
        List.mem_append] at ht
      rcases ht with rfl | rfl | rfl | rfl | ht | rfl | rfl | rfl | ht | rfl | ht
      · exact Token.keyword_spellable (by decide)
      · exact Token.keyword_spellable (by decide)
      · exact .name table
      · exact .leftParen
      · refine spellable_entries.series row (fun e t ht => ?_) t ht
        obtain rfl := List.mem_singleton.mp ht
        exact .name e.1
      · exact .rightParen
      · exact Token.keyword_spellable (by decide)
      · exact .leftParen
      · exact spellable_entries.series row (fun e => spellable_entries.value e.2) t ht
      · exact .rightParen
      · cases ht
  | update table row condition =>
      exact spellable_entries.update table row condition (Token.keyword_spellable (by decide))
        (Token.keyword_spellable (by decide)) (Token.keyword_spellable (by decide))
  | delete table condition =>
      intro t ht
      simp only [tokens, derivation, Derivation.tokens, Removal.tokens, Keyword.bare, Name.quoted,
        Name.tokens, List.cons_append, List.nil_append, List.flatMap_nil, List.mem_cons,
        List.mem_append] at ht
      rcases ht with rfl | rfl | rfl | rfl | ht | ht
      · exact Token.keyword_spellable (by decide)
      · exact Token.keyword_spellable (by decide)
      · exact .name table
      · exact Token.keyword_spellable (by decide)
      · exact spellable_entries.entry condition t ht
      · cases ht
  | select table condition limit =>
      refine query_spellable (fun t ht => ?_) table condition limit
      obtain rfl := List.mem_singleton.mp ht
      exact .star
  | count table condition =>
      refine query_spellable (fun t ht => ?_) table condition none
      simp only [Projection.countOfAll, Projection.ofTokens, List.mem_cons, List.not_mem_nil,
        or_false] at ht
      rcases ht with rfl | rfl | rfl | rfl
      · exact Token.keyword_spellable (by decide)
      · exact .leftParen
      · exact .star
      · exact .rightParen

theorem Draft.tokenize {d : Draft} {statement : String} (h : Spells d.tokens statement.toList) :
    tokenize statement = .ok d.tokens :=
  tokenize_of_spells h d.tokens_spellable

theorem Draft.tokens_tight (d : Draft) : ∀ t ∈ d.tokens, t.Tight := by
  have h : Sql.tokenize (String.ofList (spaced d.tokens)) = .ok d.tokens :=
    Draft.tokenize (by rw [String.toList_ofList]; exact spells_spaced d.tokens)
  exact tokenize_tight h

def conditionSkeletons : List (List String) :=
  [[], ["WHERE", "\"_\"", "=", "?"], ["WHERE", "\"_\"", "=", "''"], ["WHERE", "\"_\"", "=", "NULL"]]

theorem verbOf_delete : ∀ m ∈ conditionSkeletons,
    verbOf (String.intercalate " " (["DELETE", "FROM", "\"_\""] ++ m)).toList = .delete := by
  decide

theorem verbOf_select : ∀ m ∈ conditionSkeletons, ∀ l ∈ [[], ["LIMIT", "0"]],
    verbOf (String.intercalate " " (["SELECT", "*", "FROM", "\"_\""] ++ m ++ l)).toList =
      .select := by
  decide

theorem verbOf_count : ∀ m ∈ conditionSkeletons,
    verbOf (String.intercalate " " (["SELECT", "COUNT", "(", "*", ")", "FROM", "\"_\""] ++ m)).toList =
      .count := by
  decide

theorem Entry.skeleton_mem (e : Entry) : "WHERE" :: e.equation.tokens.map Token.skeleton ∈
    conditionSkeletons := by
  obtain ⟨column, w⟩ := e
  cases w <;> simp [equation, Equation.tokens, conditionSkeletons, Word.token, Written.tree,
    Value.tokens, Token.skeleton, Token.display]

theorem clause_skeleton_mem (condition : Option Entry) :
    (clause Equation.tokens (condition.map fun e => (Keyword.bare "WHERE", e.equation))).map
      Token.skeleton ∈ conditionSkeletons := by
  cases condition with
  | none => exact List.mem_cons_self
  | some e => exact e.skeleton_mem

theorem Draft.query_skeleton (projection : Projection) (table : String) (condition : Option Entry)
    (limit : Option (Fin 0x10000000000000000)) :
    (query projection table condition limit).tokens.map Token.skeleton =
      ["SELECT"] ++ projection.tokens.map Token.skeleton ++ ["FROM", "\"_\""] ++
        (clause Equation.tokens (condition.map fun e => (Keyword.bare "WHERE", e.equation))).map
          Token.skeleton ++
        (clause (fun l : Limit => [.number l.text])
          (limit.map fun n => (Keyword.bare "LIMIT", Limit.ofFin n))).map Token.skeleton := by
  simp [query, Query.tokens, ending, Keyword.bare, Name.quoted, Name.tokens, Word.token,
    Token.skeleton]

theorem Draft.verbOf_skeleton (d : Draft) : verbOf (skeletonOf d.tokens) = d.verb := by
  cases d with
  | insert table row unused => exact verbOf_insertion _
  | update table row condition => exact verbOf_revision _ (update table row condition).tokens_tight
  | delete table condition =>
      have ht : (delete table condition).tokens.map Token.skeleton =
          ["DELETE", "FROM", "\"_\""] ++ "WHERE" :: condition.equation.tokens.map Token.skeleton := by
        simp [tokens, derivation, Derivation.tokens, Removal.tokens, ending, Keyword.bare, Name.quoted,
          Name.tokens, Word.token, Token.skeleton]
      rw [skeletonOf, ht]
      exact verbOf_delete _ condition.skeleton_mem
  | select table condition limit =>
      have hl : (clause (fun l : Limit => [.number l.text])
          (limit.map fun n => (Keyword.bare "LIMIT", Limit.ofFin n))).map Token.skeleton ∈
            [[], ["LIMIT", "0"]] := by
        cases limit with
        | none => exact List.mem_cons_self
        | some n => exact List.mem_cons_of_mem _ List.mem_cons_self
      have ht : (select table condition limit).tokens.map Token.skeleton = _ :=
        query_skeleton .all table condition limit
      rw [skeletonOf, ht]
      exact verbOf_select _ (clause_skeleton_mem condition) _ hl
  | count table condition =>
      have ht : (count table condition).tokens.map Token.skeleton = _ :=
        query_skeleton .countOfAll table condition none
      rw [skeletonOf, ht, Option.map_none, clause, List.map_nil, List.append_nil]
      exact verbOf_count _ (clause_skeleton_mem condition)

end DocQuery.Sql
