import DocQuery.Proofs.Sql.CountProjection

namespace DocQuery.Sql

open Grammar Search

variable {d : Query} {text : String} {args : Arguments} {ts us : List Token}

namespace Grammar

/-- FROM name [WHERE eq]: the part of a query that says which rows it is about. -/
structure Source where
  name : Name
  condition : Option (Keyword "WHERE" × Equation)

def Query.source (d : Query) : Source := ⟨d.name, d.condition⟩

namespace Source

def tokens (s : Source) : List Token := s.name.tokens ++ clause Equation.tokens s.condition

/-- No keyword of another verb stands in the name or in the condition, and there is an argument for
each placeholder. -/
structure Fits (s : Source) (args : Arguments) : Prop where
  plain : misleads (skeletonOf s.tokens) = false
  arguments : args.length = (s.condition.map fun c => c.2.value.expr.arity).getD 0

def predicate (s : Source) (args : Arguments) : Option Predicate :=
  s.condition.map fun c => ⟨c.2.column.value, (c.2.value.expr.slot 0).value args⟩

end Source

def Projection.IsAll (p : Projection) : Prop := p.tokens = [.star]

def Projection.IsCount (p : Projection) : Prop :=
  ∃ w : Keyword "COUNT", p.tokens = [w.token, .leftParen, .star, .rightParen]

end Grammar

namespace Grammar.Query

def front (d : Query) : List Token :=
  d.selectWord.token :: (d.projection.tokens ++ [d.fromWord.token])

def tail (d : Query) : List Token :=
  clause (fun n => [.number n.text]) d.limit ++ ending d.semicolon

theorem tokens_eq (d : Query) : d.tokens = d.front ++ (d.source.tokens ++ d.tail) := by
  simp [tokens, front, tail, Source.tokens, source]

end Grammar.Query

def frontTexts : List String := ["select", "*", "count", "(", ")", "from"]

def tailTexts : List String := ["limit", "0", ";"]

def Token.IsAmong (texts : List String) (t : Token) : Prop :=
  ∃ text ∈ texts, t.skeleton.toList.map Char.toLower = text.toList

variable {t : Token} {keyword first : String} {second : Option String} {texts : List String}

theorem isAmong_keyword (w : Keyword keyword)
    (h : ∃ text ∈ texts, keyword.toList.map Char.toLower = text.toList) : w.token.IsAmong texts := by
  obtain ⟨value, hw, hvalue⟩ := w.exists_value
  rw [Token.IsAmong, hw, Token.skeleton, hvalue]
  exact h

theorem isAmong_projection {p : Projection} (hp : p.IsAll ∨ p.IsCount) :
    ∀ t ∈ p.tokens, t.IsAmong frontTexts := by
  rcases hp with hp | ⟨w, hp⟩
  · rw [hp]
    simp only [List.mem_singleton, forall_eq]
    exact ⟨"*", by decide, by decide⟩
  · rw [hp]
    simp only [List.mem_cons, List.not_mem_nil, or_false, forall_eq_or_imp, forall_eq]
    exact ⟨isAmong_keyword w ⟨"count", by decide, by decide⟩, ⟨"(", by decide, by decide⟩,
      ⟨"*", by decide, by decide⟩, ⟨")", by decide, by decide⟩⟩

theorem isAmong_front (hp : d.projection.IsAll ∨ d.projection.IsCount) :
    ∀ t ∈ d.front, t.IsAmong frontTexts := by
  intro t ht
  rw [Query.front, List.mem_cons, List.mem_append, List.mem_singleton] at ht
  rcases ht with rfl | ht | rfl
  · exact isAmong_keyword d.selectWord ⟨"select", by decide, by decide⟩
  · exact isAmong_projection hp t ht
  · exact isAmong_keyword d.fromWord ⟨"from", by decide, by decide⟩

theorem isAmong_tail (d : Query) : ∀ t ∈ d.tail, t.IsAmong tailTexts := by
  intro t ht
  rw [Query.tail, List.mem_append] at ht
  rcases ht with ht | ht
  · cases hl : d.limit with
    | none => rw [hl] at ht; cases ht
    | some l =>
        rw [hl, clause, List.mem_cons, List.mem_singleton] at ht
        rcases ht with rfl | rfl
        · exact isAmong_keyword l.1 ⟨"limit", by decide, by decide⟩
        · exact ⟨"0", by decide, (by decide : "0".toList.map Char.toLower = "0".toList)⟩
  · rw [ending] at ht
    split at ht
    · obtain rfl := List.mem_singleton.mp ht
      exact ⟨";", by decide, by decide⟩
    · cases ht

def framed (first : String) (second : Option String) : Bool :=
  tokenwise first second && (frontTexts ++ tailTexts).all (lacks first ·.toList) &&
    second.all fun second => tailTexts.all (lacks second ·.toList)

theorem found_eq_false_of_isAmong (h : texts.all (lacks keyword ·.toList)) (ht : t.IsAmong texts) :
    Marks.found.holds keyword t = false ∧ Marks.found.ends keyword t = false ∧
      Marks.found.opens keyword t = false := by
  obtain ⟨text, hmem, htext⟩ := ht
  exact Marks.found_eq_false (by rw [htext]; exact List.all_eq_true.mp h text hmem)

theorem occurs_query (h : framed first second) (htight : ∀ t ∈ d.tokens, t.Tight)
    (hp : d.projection.IsAll ∨ d.projection.IsCount) :
    occurs (keywords first second) (skeletonOf d.tokens) =
      occurs (keywords first second) (skeletonOf d.source.tokens) := by
  rw [framed, Bool.and_eq_true, Bool.and_eq_true, List.all_append, Bool.and_eq_true,
    Option.all_eq_true] at h
  obtain ⟨⟨htokenwise, hfront, htail⟩, hsecond⟩ := h
  have hsource : ∀ t ∈ d.source.tokens, t.Tight := fun t ht =>
    htight t (by rw [d.tokens_eq]; exact List.mem_append_right _ (List.mem_append_left _ ht))
  have hbefore := fun t ht => found_eq_false_of_isAmong hfront (isAmong_front hp t ht)
  have hbehind := fun t ht => found_eq_false_of_isAmong htail (isAmong_tail d t ht)
  rw [occurs_keywords htokenwise htight, occurs_keywords htokenwise hsource, d.tokens_eq]
  cases second with
  | none =>
      rw [Marks.phrase, Phrase.occurs_skip fun t ht => (hbefore t ht).1, Phrase.occurs_append]
      intro q hq t ht
      obtain rfl := List.mem_singleton.mp hq
      exact (hbehind t ht).1
  | some second =>
      rw [Marks.phrase, Phrase.occurs_skip fun t ht => (hbefore t ht).2.1, Phrase.occurs_append]
      intro q hq t ht
      rcases List.mem_cons.mp hq with rfl | hq
      · exact (hbehind t ht).2.1
      · obtain rfl := List.mem_singleton.mp hq
        exact (found_eq_false_of_isAmong (hsecond second rfl) (isAmong_tail d t ht)).2.2

theorem misleads_query (htight : ∀ t ∈ d.tokens, t.Tight)
    (hp : d.projection.IsAll ∨ d.projection.IsCount) :
    misleads (skeletonOf d.tokens) = misleads (skeletonOf d.source.tokens) := by
  rw [misleads, misleads, occurs_query (by decide) htight hp, occurs_query (by decide) htight hp,
    occurs_query (by decide) htight hp]

theorem verbOf_all (hwordlike : ∀ t ∈ d.tokens, t.Wordlike)
    (hm : misleads (skeletonOf d.tokens) = false) (h : d.projection.IsAll) :
    verbOf (skeletonOf d.tokens) = .select := by
  rw [Projection.IsAll] at h
  rw [verbOf_query_eq hwordlike hm, h, if_neg (by decide)]

theorem verbOf_count_of_all (hwordlike : ∀ t ∈ d.tokens, t.Wordlike)
    (hm : misleads (skeletonOf d.tokens) = false) (h : d.projection.IsCount) :
    verbOf (skeletonOf d.tokens) = .count := by
  obtain ⟨w, h⟩ := h
  obtain ⟨value, hw, hvalue⟩ := w.exists_value
  have hfrom : Marks.found.holds "FROM" w.token = false :=
    occurs_eq_false (by rw [hw, Token.skeleton, hvalue]; decide)
  have hsymbols : Marks.found.counted [.leftParen, .star, .rightParen] =
      [.leftParen, .star, .rightParen] := by decide
  have hcounted : Marks.found.counted [w.token, .leftParen, .star, .rightParen] =
      [w.token, .leftParen, .star, .rightParen] := by
    rw [Marks.counted, List.takeWhile_cons_of_pos (by rw [hfrom]; rfl), ← Marks.counted, hsymbols]
  have hcount : Marks.found.countOfAll.occurs [w.token, .leftParen, .star, .rightParen] := by
    rw [Phrase.occurs, Marks.countOfAll, Phrase.leads, Marks.found_ends_keyword]
    rfl
  rw [verbOf_query_eq hwordlike hm, h, hcounted, if_pos hcount]

theorem Grammar.Projection.depth_eq_zero {p : Projection} (hp : p.IsAll ∨ p.IsCount) :
    depth p.tokens = 0 := by
  rcases hp with hp | ⟨w, hw⟩
  · rw [hp]
    rfl
  · obtain ⟨value, hvalue, -⟩ := w.exists_value
    rw [hw, hvalue]
    rfl

/-- A query for a source is understood exactly if the source and the arguments fit. -/
theorem parse_of_source (hts : tokenize text = .ok d.tokens)
    (hp : d.projection.IsAll ∨ d.projection.IsCount) (args : Arguments) :
    (d.source.Fits args → parse text args =
      .ok ((d.form.template (verbOf (skeletonOf d.tokens))).fill args)) ∧
    (¬ d.source.Fits args → ∃ e, parse text args = .error e) := by
  have hform : formOf Form.readSelect text = .ok d.form :=
    formOf_eq_ok.mpr ⟨d.tokens, hts,
      Form.readSelect_iff.mpr ⟨d, Projection.depth_eq_zero hp, rfl, rfl⟩⟩
  have harity (verb : Verb) :
      (d.form.template verb).arity = (d.condition.map fun c => c.2.value.expr.arity).getD 0 := by
    cases hc : d.condition <;> simp [Query.form, Form.template, hc, Equation.equality]
  have haccepts : Accepts .select Form.readSelect text :=
    ⟨_, _, by rw [parseAs_eq, hform]; exact Template.bind_replicate _⟩
  have hparse := parse_query haccepts
  rw [skeleton_of_tokenize hts, misleads_query (tokenize_tight hts) hp] at hparse
  split at hparse
  · rename_i hm
    obtain ⟨e, he⟩ := hparse
    refine ⟨fun h => ?_, fun _ => ⟨_, he args⟩⟩
    rw [h.plain] at hm
    cases hm
  · rename_i hm
    have hbind : parse text args = (d.form.template (verbOf (skeletonOf d.tokens))).bind args := by
      rw [hparse.2 args, parseAs_eq, hform, classify_of_tokenize hts]
    rw [hbind, Template.bind, harity]
    refine ⟨fun h => if_pos h.arguments, fun h => ⟨_, if_neg fun hlength => ?_⟩⟩
    exact h ⟨Bool.eq_false_iff.mpr hm, hlength⟩

theorem parse_of_isAll (hts : tokenize text = .ok d.tokens) (hall : d.projection.IsAll)
    (h : d.source.Fits args) : parse text args =
      .ok (.select d.source.name.table (d.source.predicate args) (d.limit.map fun l => l.2.value)) := by
  rw [(parse_of_source hts (Or.inl hall) args).1 h,
    verbOf_all (tokenize_wordlike hts)
      ((misleads_query (tokenize_tight hts) (Or.inl hall)).trans h.plain) hall]
  cases hc : d.condition <;> simp [Query.form, Form.template, Template.fill, Intent.select, Intent.bare,
    Source.predicate, Query.source, hc, Equation.equality]

theorem parse_of_isCount (hts : tokenize text = .ok d.tokens) (hcount : d.projection.IsCount)
    (h : d.source.Fits args) : parse text args =
      .ok (.count d.source.name.table (d.source.predicate args)) := by
  rw [(parse_of_source hts (Or.inr hcount) args).1 h,
    verbOf_count_of_all (tokenize_wordlike hts)
      ((misleads_query (tokenize_tight hts) (Or.inr hcount)).trans h.plain) hcount]
  cases hc : d.condition <;> simp [Query.form, Form.template, Template.fill, Intent.count, Intent.bare,
    Source.predicate, Query.source, hc, Equation.equality]

end DocQuery.Sql
