import DocQuery.Proofs.Sql.Binding
import DocQuery.Proofs.Sql.Projections

namespace DocQuery.Sql

open Grammar Search

variable {t : Token} {ts : List Token} {keyword first second : String} {args : Arguments}

theorem Phrase.occurs_singleton (p : Token → Bool) (ts : List Token) :
    Phrase.occurs [p] ts = ts.any p := by
  induction ts with
  | nil => rfl
  | cons t ts ih => rw [Phrase.occurs, Phrase.leads, Phrase.leads, Bool.and_true, ih, List.any_cons]

theorem quiet_of_not_word (hfirst : isBare first) (hsecond : isBare second) (t : Token)
    (h : t.isWord = false) : t.Quiet first second := by
  have hne : ∀ value, t ≠ .word value false := by
    rintro value rfl
    cases h
  have hmem := Token.skeleton_mem_standIns hne
  exact ⟨(Marks.found_eq_false (List.all_eq_true.mp hfirst _ hmem)).2.1,
    (Marks.found_eq_false (List.all_eq_true.mp hsecond _ hmem)).2.2⟩

theorem found_keyword_eq_false (w : Keyword keyword) (h : lacks first (keyword.toList.map Char.toLower)) :
    Marks.found.holds first w.token = false ∧ Marks.found.ends first w.token = false ∧
      Marks.found.opens first w.token = false := by
  obtain ⟨value, hw, hvalue⟩ := w.exists_value
  refine Marks.found_eq_false ?_
  rw [hw, Token.skeleton, hvalue]
  exact h

theorem parted_source {P : Token → Prop} (hP : ∀ t : Token, t.isWord = false → P t)
    (hwhere : ∀ w : Keyword "WHERE", P w.token) (s : Source) : Parted P s.tokens := by
  rw [Source.tokens]
  cases s.condition with
  | none => simpa [clause] using parted_name hP s.name
  | some c => exact parted_behind (parted_name hP s.name) (hwhere c.1) (parted_equation hP c.2)

theorem source_not_occurs (htokenwise : tokenwise first (some second)) (hfirst : isBare first)
    (hsecond : isBare second) (hwhere : lacks first "where".toList ∧ lacks second "where".toList)
    {s : Source} (htight : ∀ t ∈ s.tokens, t.Tight) :
    occurs (keywords first (some second)) (skeletonOf s.tokens) = false := by
  rw [occurs_keywords htokenwise htight]
  refine Parted.not_occurs (parted_source (quiet_of_not_word hfirst hsecond) (fun w => ?_) s)
  exact ⟨(found_keyword_eq_false w hwhere.1).2.1, (found_keyword_eq_false w hwhere.2).2.2⟩

/-- Of the keywords of other verbs only `UPDATE` can stand in a source. -/
theorem misleads_source {s : Source} (htight : ∀ t ∈ s.tokens, t.Tight) :
    misleads (skeletonOf s.tokens) = s.tokens.any (Marks.found.holds "UPDATE") := by
  have hinsert : occurs (keywords "INSERT" (some "INTO")) (skeletonOf s.tokens) = false :=
    source_not_occurs (by decide) (by decide) (by decide) (by decide) htight
  have hdelete : occurs (keywords "DELETE" (some "FROM")) (skeletonOf s.tokens) = false :=
    source_not_occurs (by decide) (by decide) (by decide) (by decide) htight
  rw [misleads, hinsert, hdelete, Bool.false_or, Bool.or_false, occurs_keywords (by decide) htight]
  exact Phrase.occurs_singleton _ _

namespace Grammar

/-- A query about the table and under the condition of a deletion, both written in the same way. -/
structure Query.About (q : Query) (d : Removal) : Prop where
  name : q.name = d.name
  condition : q.condition.map (·.2) = some d.condition

variable {q : Query} {d : Removal}

theorem Query.About.exists_where (h : q.About d) :
    ∃ w : Keyword "WHERE", q.source = ⟨d.name, some (w, d.condition)⟩ := by
  obtain ⟨⟨w, e⟩, hc, he⟩ := Option.map_eq_some_iff.mp h.condition
  obtain rfl : e = d.condition := he
  exact ⟨w, by rw [Query.source, h.name, hc]⟩

theorem Query.About.predicate (h : q.About d) (args : Arguments) :
    q.source.predicate args = some (d.predicate args) := by
  obtain ⟨w, hs⟩ := h.exists_where
  rw [hs]
  rfl

theorem Query.About.fits (h : q.About d) (hq : ∀ t ∈ q.tokens, t.Tight) (hd : ∀ t ∈ d.tokens, t.Tight)
    (hupdate : occurs (keywords "UPDATE" none) (skeletonOf d.tokens) = false)
    (hargs : args.length = d.condition.value.expr.arity) : q.source.Fits args := by
  obtain ⟨w, hs⟩ := h.exists_where
  have htight : ∀ t ∈ q.source.tokens, t.Tight := fun t ht => hq t (by
    rw [q.tokens_eq]
    exact List.mem_append_right _ (List.mem_append_left _ ht))
  rw [occurs_keywords (by decide) hd, Marks.phrase, Phrase.occurs_singleton, List.any_eq_false] at hupdate
  refine ⟨?_, by rw [hs]; exact hargs⟩
  rw [misleads_source htight, hs, List.any_eq_false]
  intro t ht
  -- all tokens but the word of the query for `WHERE` stand in the deletion too
  rcases List.mem_append.mp ht with ht | ht
  · exact hupdate t (by simp [Removal.tokens, ht])
  · rcases List.mem_cons.mp ht with rfl | ht
    · rw [(found_keyword_eq_false w (by decide)).1]
      exact Bool.false_ne_true
    · exact hupdate t (by simp [Removal.tokens, ht])

theorem Query.About.parse {removal text : String} (h : q.About d) (hd : tokenize removal = .ok d.tokens)
    (hupdate : occurs (keywords "UPDATE" none) (skeletonOf d.tokens) = false)
    (hargs : args.length = d.condition.value.expr.arity) (hq : tokenize text = .ok q.tokens) :
    (q.projection.IsCount →
      Sql.parse text args = .ok (.count d.name.table (some (d.predicate args)))) ∧
    (q.projection.IsAll → Sql.parse text args =
      .ok (.select d.name.table (some (d.predicate args)) (q.limit.map fun l => l.2.value))) := by
  have hfits := h.fits (tokenize_tight hq) (tokenize_tight hd) hupdate hargs
  have hname : q.source.name.table = d.name.table := by rw [Query.source, h.name]
  rw [← h.predicate, ← hname]
  exact ⟨fun hcount => parse_of_isCount hq hcount hfits, fun hall => parse_of_isAll hq hall hfits⟩

end Grammar

end DocQuery.Sql
