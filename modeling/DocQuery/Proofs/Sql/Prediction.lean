import DocQuery.Proofs.Sql.GrammarExact

namespace DocQuery.Sql

open Grammar

namespace Reading

variable {α β δ ε : Type} {ts rest : List Token}

/-- Which token an error shows when no text goes on from `front` to `behind`: the first one behind, or
behind a minus sign the second one. -/
inductive Shows : Expectation → Option Token → List Token → List Token → Prop
  | here {e : Expectation} {front behind : List Token} (h : e ≠ .number) :
      Shows e behind.head? front behind
  | afterMinus {front behind : List Token} (h : ∀ text, behind.head? ≠ some (.number text)) :
      Shows .number behind.tail.head? (front ++ [.minus]) behind

theorem Shows.append {e : Expectation} {found : Option Token} {front behind : List Token}
    (h : Shows e found front behind) (used : List Token) : Shows e found (used ++ front) behind := by
  cases h with
  | here h => exact .here h
  | afterMinus h =>
      rw [← List.append_assoc]
      exact .afterMinus h

/-- A reading fails at the first token of `behind`, whatever stands behind that token. -/
def StopsAt (r : Reading α) (front behind : List Token) : Prop :=
  ∀ t ∈ behind.head?, ∀ others, ∃ e rest, r (front ++ t :: others) = (.error e, rest)

/-- A reading takes a text of a kind, by no more than one token behind it, or it fails where no text
of the kind goes on. -/
structure PredictsAt (r : Reading α) (f : δ → List Token) (ts : List Token) : Prop where
  taken : ∀ {x rest}, r ts = (.ok x, rest) → ∃ a, ts = f a ++ rest ∧
    ∀ rest', rest'.head? = rest.head? → r (f a ++ rest') = (.ok x, rest')
  stopped : ∀ {e found rest}, r ts = (.error (.unexpected e found), rest) → ∃ front behind,
    ts = front ++ behind ∧ (∃ a, front <+: f a) ∧ Shows e found front behind ∧
      r.StopsAt front behind

def Predictive (r : Reading α) (f : δ → List Token) : Prop :=
  ∀ ts, PredictsAt r f ts

variable {r : Reading α} {next : α → Reading β} {f : δ → List Token} {f' : ε → List Token}

theorem PredictsAt.mono (h : PredictsAt r f ts) (hf : ∀ a, ∃ b, f a = f' b) :
    PredictsAt r f' ts where
  taken hr := by
    obtain ⟨a, ha⟩ := h.taken hr
    obtain ⟨b, hb⟩ := hf a
    rw [hb] at ha
    exact ⟨b, ha⟩
  stopped hr := by
    obtain ⟨front, behind, hts, ⟨a, ha⟩, hstop⟩ := h.stopped hr
    obtain ⟨b, hb⟩ := hf a
    rw [hb] at ha
    exact ⟨front, behind, hts, ⟨b, ha⟩, hstop⟩

/-- One text behind another one. A fault behind the first text is no fault of the first reading, which
does not see beyond the token at the fault. -/
theorem PredictsAt.bind [Nonempty ε] (hr : PredictsAt r f ts)
    (hnext : ∀ {x rest}, r ts = (.ok x, rest) → PredictsAt (next x) f' rest) :
    PredictsAt (r >>= next) (fun p : δ × ε => f p.1 ++ f' p.2) ts where
  taken h := by
    obtain ⟨x, mid, hx, hy⟩ := bind_eq_ok.mp h
    obtain ⟨a, rfl, ha⟩ := hr.taken hx
    obtain ⟨b, rfl, hb⟩ := (hnext hx).taken hy
    refine ⟨(a, b), (List.append_assoc ..).symm, fun rest' hrest => ?_⟩
    have hmid : r (f a ++ (f' b ++ rest')) = (.ok x, f' b ++ rest') :=
      ha _ (by rw [List.head?_append, List.head?_append, hrest])
    rw [List.append_assoc, bind_ok hmid]
    exact hb rest' hrest
  stopped h := by
    rcases hx : r ts with ⟨e | x, mid⟩
    · rw [bind_error hx] at h
      cases h
      obtain ⟨front, behind, hts, ⟨a, ha⟩, hshows, hstop⟩ := hr.stopped hx
      obtain ⟨b⟩ := ‹Nonempty ε›
      refine ⟨front, behind, hts, ⟨(a, b), ha.trans (List.prefix_append ..)⟩, hshows, ?_⟩
      intro t ht others
      obtain ⟨e, rest, he⟩ := hstop t ht others
      exact ⟨e, rest, bind_error he⟩
    · rw [bind_ok hx] at h
      obtain ⟨a, rfl, ha⟩ := hr.taken hx
      obtain ⟨front, behind, rfl, ⟨b, hb⟩, hshows, hstop⟩ := (hnext hx).stopped h
      refine ⟨f a ++ front, behind, (List.append_assoc ..).symm,
        ⟨(a, b), (List.prefix_append_right_inj (f a)).mpr hb⟩, hshows.append (f a), ?_⟩
      intro t ht others
      obtain ⟨e, rest, he⟩ := hstop t ht others
      -- the first reading sees no further than the token at the fault
      have hmid : r (f a ++ (front ++ t :: others)) = (.ok x, front ++ t :: others) :=
        ha _ (by rw [List.head?_append, List.head?_append, List.head?_cons, Option.mem_def.mp ht])
      exact ⟨e, rest, by rw [List.append_assoc, bind_ok hmid, he]⟩

theorem PredictsAt.cons {r' : Reading α} {t : Token} (h : PredictsAt r f ts)
    (ht : ∀ ts, r' (t :: ts) = r ts) : PredictsAt r' (fun a => t :: f a) (t :: ts) where
  taken hr := by
    rw [ht] at hr
    obtain ⟨a, rfl, ha⟩ := h.taken hr
    refine ⟨a, rfl, fun rest' hrest => ?_⟩
    rw [List.cons_append, ht]
    exact ha rest' hrest
  stopped hr := by
    rw [ht] at hr
    obtain ⟨front, behind, rfl, ⟨a, ha⟩, hshows, hstop⟩ := h.stopped hr
    refine ⟨t :: front, behind, rfl, ⟨a, List.cons_prefix_cons.mpr ⟨rfl, ha⟩⟩, hshows.append [t], ?_⟩
    intro u hu others
    rw [List.cons_append, ht]
    exact hstop u hu others

theorem PredictsAt.of_taken {x : α} (a : δ) (hts : ts = f a ++ rest)
    (h : ∀ rest', rest'.head? = rest.head? → r (f a ++ rest') = (.ok x, rest')) :
    PredictsAt r f ts where
  taken hr := by
    rw [hts, h rest rfl] at hr
    cases hr
    exact ⟨a, hts, h⟩
  stopped hr := by
    rw [hts, h rest rfl] at hr
    cases hr

theorem PredictsAt.of_nil [Nonempty δ] {e : Expectation} (he : e ≠ .number)
    (h : r [] = unexpected e []) : PredictsAt r f [] where
  taken hr := by
    rw [h] at hr
    cases hr
  stopped hr := by
    rw [h] at hr
    cases hr
    obtain ⟨a⟩ := ‹Nonempty δ›
    exact ⟨[], [], rfl, ⟨a, List.nil_prefix⟩, .here he, by rintro t ⟨⟩⟩

theorem PredictsAt.of_cons [Nonempty δ] {e : Expectation} {t : Token} (he : e ≠ .number)
    (h : ∀ others, r (t :: others) = unexpected e (t :: others)) : PredictsAt r f (t :: ts) where
  taken hr := by
    rw [h] at hr
    cases hr
  stopped hr := by
    rw [h] at hr
    cases hr
    obtain ⟨a⟩ := ‹Nonempty δ›
    refine ⟨[], t :: ts, rfl, ⟨a, List.nil_prefix⟩, .here he, ?_⟩
    rintro t ⟨⟩ others
    exact ⟨_, _, h others⟩

theorem Predictive.bind [Nonempty ε] (hr : Predictive r f) (hnext : ∀ x, Predictive (next x) f') :
    Predictive (r >>= next) fun p : δ × ε => f p.1 ++ f' p.2 :=
  fun ts => (hr ts).bind fun {x rest} _ => hnext x rest

theorem Predictive.mono (h : Predictive r f) (hf : ∀ a, ∃ b, f a = f' b) : Predictive r f' :=
  fun ts => (h ts).mono hf

theorem predictive_pure (x : α) : Predictive (pure x) fun _ : Unit => [] :=
  fun _ => .of_taken () rfl fun _ _ => rfl

instance {text : String} : Nonempty (Keyword text) :=
  ⟨⟨.word text false, by rw [Token.isKeyword, beq_self_eq_true]⟩⟩

instance : Nonempty Word := ⟨⟨"", false⟩⟩

instance : Nonempty Name := ⟨⟨⟨"", false⟩, []⟩⟩

instance : Nonempty Value := ⟨.placeholder⟩

instance : Nonempty Equation := ⟨⟨⟨"", false⟩, .placeholder⟩⟩

instance [h : Nonempty δ] : Nonempty (Series δ) := h.elim fun a => ⟨⟨a, []⟩⟩

theorem predictive_expectKeyword (text : String) :
    Predictive (expectKeyword text) fun w : Keyword text => [w.token] := by
  intro ts
  cases ts with
  | nil => exact .of_nil (by simp) rfl
  | cons t ts =>
      by_cases ht : t.isKeyword text
      · exact .of_taken ⟨t, ht⟩ rfl fun rest' _ => if_pos ht
      · exact .of_cons (by simp) fun others => if_neg ht

theorem predictive_expect (t : Token) : Predictive (expect t) fun _ : Unit => [t] := by
  intro ts
  cases ts with
  | nil => exact .of_nil (by simp) rfl
  | cons u ts =>
      by_cases hu : u = t
      · rw [hu]
        exact .of_taken () rfl fun rest' _ => if_pos rfl
      · exact .of_cons (by simp) fun others => if_neg hu

theorem predictive_eat (t : Token) : Predictive (eat t) fun b : Bool => if b then [t] else [] := by
  intro ts
  by_cases ht : ts.head? = some t
  · obtain ⟨ts, rfl⟩ := List.head?_eq_some_iff.mp ht
    exact .of_taken true rfl fun rest' _ => if_pos rfl
  · exact .of_taken (x := false) false rfl fun rest' hrest => eat_of_ne (by rwa [← hrest] at ht)

theorem predictive_identifier : Predictive identifier fun w : Word => [w.token] := by
  intro ts
  cases ts with
  | nil => exact .of_nil (by simp) rfl
  | cons t ts =>
      cases t with
      | word value quoted => exact .of_taken ⟨value, quoted⟩ rfl fun rest' _ => rfl
      | _ => exact .of_cons (by simp) fun others => rfl

theorem predictive_noMoreTokens : Predictive noMoreTokens fun _ : Unit => [] := by
  intro ts
  cases ts with
  | nil => exact .of_taken () rfl fun rest' hrest => by rw [List.head?_eq_none_iff.mp hrest]; rfl
  | cons t ts => exact .of_cons (by simp) fun others => rfl

theorem predictive_endOfStatement : Predictive endOfStatement ending :=
  ((predictive_eat .semicolon).bind fun _ => predictive_noMoreTokens).mono
    fun p => ⟨p.1, List.append_nil _⟩

theorem qualified_period (ts : List Token) : qualified (.period :: ts) =
    (do let value ← identifier; let values ← qualified; pure (value :: values)) ts := by
  cases ts with
  | nil => rfl
  | cons t ts =>
      cases t with
      | word value quoted =>
          change _ = (qualified >>= fun values => pure (value :: values)) ts
          rcases h : qualified ts with ⟨_ | values, rest⟩
          · rw [bind_error h, qualified, h]
          · rw [bind_ok h, qualified, h]
            rfl
      | _ => rfl

theorem predictive_qualified :
    Predictive qualified fun ws : List Word => ws.flatMap fun w => [.period, w.token] := by
  intro ts
  -- on the number of tokens, of which two are gone before the next period
  induction hn : ts.length using Nat.strongRecOn generalizing ts with
  | _ n ih =>
      by_cases ht : ts.head? = some .period
      · obtain ⟨ts, rfl⟩ := List.head?_eq_some_iff.mp ht
        have hrest {value : String} {rest : List Token} (h : identifier ts = (.ok value, rest)) :
            PredictsAt (do let values ← qualified; pure (value :: values))
              (fun p : List Word × Unit => (p.1.flatMap fun w => [.period, w.token]) ++ []) rest := by
          obtain ⟨w, rfl, -⟩ := identifier_eq_ok.mp h
          have hlen : rest.length < n := by
            simp only [← hn, List.length_cons, List.length_append]
            omega
          exact (ih rest.length hlen rest rfl).bind fun _ => predictive_pure _ _
        refine (((predictive_identifier ts).bind hrest).cons qualified_period).mono ?_
        rintro ⟨w, ws, -⟩
        exact ⟨w :: ws, by simp⟩
      · refine .of_taken (x := []) [] rfl fun rest' hrest => ?_
        refine qualified_eq_ok.mpr ⟨[], rfl, rfl, ?_⟩
        rwa [hrest]

theorem predictive_tableParts : Predictive tableParts Name.tokens := by
  refine (Predictive.bind predictive_identifier fun _ =>
    predictive_qualified.bind fun _ => predictive_pure _).mono ?_
  rintro ⟨w, ws, -⟩
  exact ⟨⟨w, ws⟩, by simp [Name.tokens]⟩

theorem predictive_tableName : Predictive tableName Name.tokens :=
  (predictive_tableParts.bind fun _ => predictive_pure _).mono
    fun p => ⟨p.1, List.append_nil _⟩

theorem valueExpr_minus (h : ∀ text, ts.head? ≠ some (.number text)) :
    valueExpr (.minus :: ts) = unexpected .number ts.tail := by
  cases ts with
  | nil => rfl
  | cons t ts =>
      cases t with
      | number text => exact absurd rfl (h text)
      | _ => rfl

theorem predictsAt_minus (h : ∀ text, ts.head? ≠ some (.number text)) :
    PredictsAt valueExpr Value.tokens (.minus :: ts) where
  taken hr := by
    rw [valueExpr_minus h] at hr
    cases hr
  stopped hr := by
    rw [valueExpr_minus h] at hr
    cases hr
    refine ⟨[.minus], ts, rfl, ⟨.negative "", ⟨[.number ""], rfl⟩⟩, @Shows.afterMinus [] ts h, ?_⟩
    intro t ht others
    have hothers : ∀ text, (t :: others).head? ≠ some (.number text) := by
      rintro text ⟨⟩
      exact h text ht
    exact ⟨_, _, valueExpr_minus hothers⟩

theorem predictive_valueExpr : Predictive valueExpr Value.tokens := by
  intro ts
  cases ts with
  | nil => exact .of_nil (by simp) rfl
  | cons t ts =>
      cases t with
      | placeholder => exact .of_taken .placeholder rfl fun rest' _ => rfl
      | string value => exact .of_taken (.string value) rfl fun rest' _ => rfl
      | number text => exact .of_taken (.number text) rfl fun rest' _ => rfl
      | word value quoted =>
          exact .of_taken (.word ⟨value, quoted⟩) rfl fun rest' _ =>
            valueExpr_eq_ok.mpr ⟨.word ⟨value, quoted⟩, rfl, rfl⟩
      | minus =>
          by_cases hts : ∃ text, ts.head? = some (.number text)
          · obtain ⟨text, htext⟩ := hts
            obtain ⟨ts, rfl⟩ := List.head?_eq_some_iff.mp htext
            exact .of_taken (.negative text) rfl fun rest' _ => rfl
          · exact predictsAt_minus fun text htext => hts ⟨text, htext⟩
      | _ => exact .of_cons (by simp) fun others => rfl

theorem predictive_equality : Predictive equality Equation.tokens := by
  refine (Predictive.bind predictive_identifier fun _ => (predictive_expect _).bind fun _ =>
    predictive_valueExpr.bind fun _ => predictive_pure _).mono ?_
  rintro ⟨column, -, value, -⟩
  exact ⟨⟨column, value⟩, by simp [Equation.tokens]⟩

theorem Predictive.length_le (h : Predictive r f) {x : α} (hr : r ts = (.ok x, rest)) :
    rest.length ≤ ts.length := by
  obtain ⟨a, rfl, -⟩ := (h ts).taken hr
  simp

theorem moreItems_eq_of_le {item : Reading α} (h : Predictive item f) {n m : Nat}
    (hn : ts.length ≤ n) (hm : ts.length ≤ m) : moreItems item n ts = moreItems item m ts := by
  induction n generalizing ts m with
  | zero =>
      obtain rfl : ts = [] := List.eq_nil_of_length_eq_zero (Nat.le_zero.mp hn)
      rw [moreItems_of_ne (by simp), moreItems_of_ne (by simp)]
  | succ n ih =>
      by_cases hc : ts.head? = some .comma
      · obtain ⟨ts, rfl⟩ := List.head?_eq_some_iff.mp hc
        obtain ⟨m, rfl⟩ := Nat.exists_eq_add_one_of_ne_zero (Nat.ne_zero_of_lt hm)
        rw [moreItems_comma, moreItems_comma]
        rw [List.length_cons] at hn hm
        rcases hx : item ts with ⟨e | x, mid⟩
        · rw [bind_error hx, bind_error hx]
        · have hmid := h.length_le hx
          rw [bind_ok hx, bind_ok hx]
          exact bind_congr (ih (by omega) (by omega))
      · rw [moreItems_of_ne hc, moreItems_of_ne hc]

theorem otherItems_comma {item : Reading α} (h : Predictive item f) (ts : List Token) :
    otherItems item (.comma :: ts) = commaSeparated item ts := by
  rw [otherItems, List.length_cons, moreItems_comma, commaSeparated]
  rcases hx : item ts with ⟨e | x, mid⟩
  · rw [bind_error hx, bind_error hx]
  · rw [bind_ok hx, bind_ok hx]
    exact bind_congr (moreItems_eq_of_le h (h.length_le hx) (Nat.le_refl _))

theorem predictsAt_commaSeparated {item : Reading α} (h : Predictive item f)
    (hmore : ∀ {x rest}, item ts = (.ok x, rest) →
      PredictsAt (otherItems item) (fun as : List δ => as.flatMap fun a => .comma :: f a) rest) :
    PredictsAt (commaSeparated item) (Series.tokens f) ts := by
  have hrest {x : α} {rest : List Token} (hx : item ts = (.ok x, rest)) :
      PredictsAt (do let xs ← otherItems item; pure (x :: xs))
        (fun p : List δ × Unit => (p.1.flatMap fun a => .comma :: f a) ++ []) rest :=
    (hmore hx).bind fun _ => predictive_pure _ _
  refine ((h ts).bind hrest).mono ?_
  rintro ⟨a, as, -⟩
  exact ⟨⟨a, as⟩, by simp [Series.tokens]⟩

theorem predictive_otherItems {item : Reading α} (h : Predictive item f) :
    Predictive (otherItems item) fun as : List δ => as.flatMap fun a => .comma :: f a := by
  intro ts
  induction hn : ts.length using Nat.strongRecOn generalizing ts with
  | _ n ih =>
      by_cases hc : ts.head? = some .comma
      · obtain ⟨ts, rfl⟩ := List.head?_eq_some_iff.mp hc
        rw [List.length_cons] at hn
        have hitems : PredictsAt (commaSeparated item) (Series.tokens f) ts :=
          predictsAt_commaSeparated h fun {x rest} hx => by
            have hrest := h.length_le hx
            exact ih rest.length (by omega) rest rfl
        exact (hitems.cons (otherItems_comma h)).mono fun s => ⟨s.items, by simp [Series.tokens, Series.items]⟩
      · refine .of_taken (x := []) [] rfl fun rest' hrest => ?_
        exact moreItems_of_ne (by rwa [List.flatMap_nil, List.nil_append, hrest]) _

theorem predictive_commaSeparated {item : Reading α} (h : Predictive item f) :
    Predictive (commaSeparated item) (Series.tokens f) :=
  fun _ => predictsAt_commaSeparated h fun {_ rest} _ => predictive_otherItems h rest

end Reading

end DocQuery.Sql
