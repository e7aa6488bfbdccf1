import Mathlib.Data.List.Basic
import Mathlib.Data.List.TakeWhile
import DocQuery.Proofs.Web.Coding
import DocQuery.Web.BaseUrl

namespace DocQuery.Web

variable {path dirs segments : List Segment} {s seg : Segment} {name cs ds : List Char}

/-- What the other side finds in a target: the segments of the path, and the pairs of the query if
there is one. -/
structure Target where
  path : List Segment
  pairs : Option (List (String × String))
deriving DecidableEq

def Target.read? (text : String) : Option Target :=
  match text.toList.span (· != '?') with
  | ('/' :: path, _ :: query) =>
    (readForm query).map fun pairs => ⟨splitAtChar (· == '/') path, some pairs⟩
  | ('/' :: path, []) => some ⟨splitAtChar (· == '/') path, none⟩
  | _ => none

def Segment.Inert (s : Segment) : Prop := ∀ c ∈ s, c ∉ ['/', '?', '#']

instance (s : Segment) : Decidable s.Inert :=
  List.decidableBAll _ s

theorem Segment.inert_nil : Segment.Inert [] := nofun

theorem mem_parent (h : s ∈ parent dirs) : s ∈ dirs := by
  rw [parent] at h
  split at h
  · exact h
  · exact List.dropLast_subset _ h

theorem mem_enter (h : s ∈ enter dirs seg) : s ∈ dirs ∨ s = seg := by
  rw [enter] at h
  split at h
  · exact Or.inl (mem_parent h)
  · split at h
    · exact Or.inl h
    · simpa using h

theorem mem_finish (h : s ∈ finish dirs seg) : s ∈ dirs ∨ s = seg ∨ s = [] := by
  rw [finish] at h
  split at h
  · rcases List.mem_append.mp h with h | h
    · exact Or.inl (mem_parent h)
    · exact Or.inr (Or.inr (List.mem_singleton.mp h))
  · split at h
    · rcases List.mem_append.mp h with h | h
      · exact Or.inl h
      · exact Or.inr (Or.inr (List.mem_singleton.mp h))
    · rcases List.mem_append.mp h with h | h
      · exact Or.inl h
      · exact Or.inr (Or.inl (List.mem_singleton.mp h))

theorem finish_ne_nil (dirs : List Segment) (s : Segment) : finish dirs s ≠ [] := by
  rw [finish]
  split
  · exact List.append_ne_nil_of_right_ne_nil _ (List.cons_ne_nil _ _)
  · split <;> exact List.append_ne_nil_of_right_ne_nil _ (List.cons_ne_nil _ _)

theorem mem_resolve (h : s ∈ resolve segments) : s ∈ segments ∨ s = [] := by
  have hfold (segments dirs : List Segment) (h : s ∈ segments.foldl enter dirs) :
      s ∈ dirs ∨ s ∈ segments := by
    induction segments generalizing dirs with
    | nil => exact Or.inl h
    | cons seg segments ih =>
        rcases ih (enter dirs seg) h with h | h
        · rcases mem_enter h with h | rfl
          · exact Or.inl h
          · exact Or.inr List.mem_cons_self
        · exact Or.inr (List.mem_cons_of_mem _ h)
  rcases mem_finish h with h | rfl | rfl
  · rcases hfold _ _ h with h | h
    · cases h
    · exact Or.inl (List.dropLast_subset _ h)
  · cases hl : segments.getLast? with
    | none => exact Or.inr rfl
    | some s => exact Or.inl (List.mem_of_getLast? hl)
  · exact Or.inr rfl

theorem not_separates_of_mem_splitAtChar {separates : Char → Bool} {part : List Char}
    (h : part ∈ splitAtChar separates cs) : ∀ c ∈ part, separates c = false := by
  induction cs generalizing part with
  | nil =>
      obtain rfl := List.mem_singleton.mp h
      nofun
  | cons c cs ih =>
      rw [splitAtChar] at h
      split at h
      · rcases List.mem_cons.mp h with rfl | h
        · nofun
        · exact ih h
      · rename_i hc
        have hc : separates c = false := by simpa using hc
        cases hs : splitAtChar separates cs with
        | nil =>
            rw [hs] at h
            obtain rfl := List.mem_singleton.mp h
            simpa using hc
        | cons first parts =>
            rw [hs] at h ih
            rcases List.mem_cons.mp h with rfl | h
            · intro x hx
              rcases List.mem_cons.mp hx with rfl | hx
              · exact hc
              · exact ih List.mem_cons_self x hx
            · exact ih (List.mem_cons_of_mem _ h)

theorem upperHexDigits_inert : ∀ c ∈ upperHexDigits, c ∉ ['/', '?', '#'] :=
  List.forall_iff_forall_mem.mp (by decide)

theorem inert_of_encoded {keep : Char → Bool} (hkeep : ∀ c ∈ cs, keep c = true → c ∉ ['/', '?', '#']) :
    Segment.Inert (percentEncode keep cs) := by
  intro c hc
  rcases mem_percentEncode hc with ⟨hk, hcs⟩ | rfl | hd
  · exact hkeep c hcs hk
  · decide
  · exact upperHexDigits_inert c hd

theorem BaseUrl.path_of_parse {url : String} {base : BaseUrl} (h : BaseUrl.parse url = .ok base) :
    base.path ≠ [] ∧ ∀ s ∈ base.path, s.Inert := by
  have hpath : ∃ text, base.path = pathOfText text := by
    rw [parse] at h
    unfold ofHierarchy at h
    generalize ((cleanUrl url.toList).dropWhile (· != ':')).drop 1 = cs at h
    cases hspan : (cs.dropWhile isSlash).span fun c => !isSlash c && c != '?' && c != '#' with
    | mk authority rest =>
        rw [hspan] at h
        cases hc : checkAuthority authority with
        | error e => simp only [hc] at h; cases h
        | ok u => simp only [hc] at h; cases h; exact ⟨_, rfl⟩
  obtain ⟨text, hpath⟩ := hpath
  rw [hpath]
  refine ⟨finish_ne_nil _ _, fun s hs => ?_⟩
  rcases mem_resolve hs with hs | rfl
  · obtain ⟨part, hpart, rfl⟩ := List.mem_map.mp hs
    refine inert_of_encoded fun c hc hk hend => ?_
    have hslash := not_separates_of_mem_splitAtChar hpart c hc
    simp only [List.mem_cons, List.not_mem_nil, or_false] at hend
    rcases hend with rfl | rfl | rfl
    · exact absurd hslash (by decide)
    · exact absurd hk (by decide)
    · exact absurd hk (by decide)
  · exact Segment.inert_nil

/-- The characters of a name that count in a URL. -/
def counted (name : List Char) : List Char := name.filter (!isIgnored ·)

theorem plainDots_cons {c : Char} (hc : c ≠ '%') (cs : List Char) :
    plainDots (c :: cs) = c :: plainDots cs := by
  rw [plainDots]
  · rintro rest rfl
    exact absurd rfl hc
  · rintro rest rfl
    exact absurd rfl hc

theorem upperHexDigit_eq_iff : ∀ m < 16, ∀ n < 16,
    (Text.upperHexDigit m = '2' ∧ (Text.upperHexDigit n = 'e' ∨ Text.upperHexDigit n = 'E') ↔
      m = 2 ∧ n = 14) ∧ Text.upperHexDigit n ≠ '%' := by
  decide

theorem plainDots_percentByte {b : UInt8} (hb : b.toNat ≠ '.'.toNat) (cs : List Char) :
    plainDots (percentByte b ++ cs) = percentByte b ++ plainDots cs := by
  obtain ⟨hhigh, hlow⟩ := percentByte_digits_lt b
  have hdot : '.'.toNat = 46 := rfl
  obtain ⟨hdigits, hpercent⟩ := upperHexDigit_eq_iff _ hhigh _ hlow
  obtain ⟨-, hpercent'⟩ := upperHexDigit_eq_iff _ hlow _ hhigh
  have hne : ¬ (b.toNat / 16 = 2 ∧ b.toNat % 16 = 14) := by omega
  rw [← hdigits] at hne
  change plainDots ('%' :: Text.upperHexDigit _ :: Text.upperHexDigit _ :: cs) =
    '%' :: Text.upperHexDigit _ :: Text.upperHexDigit _ :: plainDots cs
  rw [plainDots, plainDots_cons hpercent', plainDots_cons hpercent]
  · rintro rest - h
    obtain ⟨h2, h⟩ := List.cons.inj h
    exact hne ⟨h2, Or.inl (List.cons.inj h).1⟩
  · rintro rest - h
    obtain ⟨h2, h⟩ := List.cons.inj h
    exact hne ⟨h2, Or.inr (List.cons.inj h).1⟩

theorem eq_period_of_mem_utf8 {c : Char} {b : UInt8} (h : b ∈ String.utf8EncodeChar c)
    (hb : b.toNat = '.'.toNat) : c = '.' := by
  have hdot : '.'.toNat = 46 := rfl
  have hc : c.val.toNat = 46 → c = '.' := fun h => Char.toNat_inj.mp h
  have hbyte (n : Nat) : (UInt8.ofNat n).toNat = n % 256 := UInt8.toNat_ofNat'
  unfold String.utf8EncodeChar at h
  simp only at h
  split at h
  · obtain rfl := List.mem_singleton.mp h
    rw [hbyte] at hb
    exact hc (by omega)
  · split at h
    · simp only [List.mem_cons, List.not_mem_nil, or_false] at h
      rcases h with rfl | rfl <;> rw [hbyte] at hb <;> omega
    · split at h
      · simp only [List.mem_cons, List.not_mem_nil, or_false] at h
        rcases h with rfl | rfl | rfl <;> rw [hbyte] at hb <;> omega
      · simp only [List.mem_cons, List.not_mem_nil, or_false] at h
        rcases h with rfl | rfl | rfl | rfl <;> rw [hbyte] at hb <;> omega

theorem plainDots_percentEncode (cs : List Char) :
    plainDots (percentEncode isSegmentLiteral cs) = percentEncode isSegmentLiteral cs := by
  have hbytes (bs : List UInt8) (hbs : ∀ b ∈ bs, b.toNat ≠ '.'.toNat) (rest : List Char) :
      plainDots (bs.flatMap percentByte ++ rest) = bs.flatMap percentByte ++ plainDots rest := by
    induction bs with
    | nil => rfl
    | cons b bs ih =>
        rw [List.flatMap_cons, List.append_assoc, plainDots_percentByte (hbs b List.mem_cons_self),
          ih fun x hx => hbs x (List.mem_cons_of_mem _ hx), List.append_assoc]
  induction cs with
  | nil => rfl
  | cons c cs ih =>
      rw [percentEncode] at ih ⊢
      rw [List.flatMap_cons]
      by_cases hc : isSegmentLiteral c
      · have hne : c ≠ '%' := by
          rintro rfl
          exact absurd hc (by decide)
        rw [if_pos hc, List.singleton_append, plainDots_cons hne, ih]
      · rw [if_neg hc, percentChar, hbytes _ (fun b hb he => ?_), ih]
        rw [eq_period_of_mem_utf8 hb he] at hc
        exact absurd (by decide) hc

theorem percentEncode_segment_inj
    (h : percentEncode isSegmentLiteral cs = percentEncode isSegmentLiteral ds) : cs = ds :=
  percentEncode_inj (by decide) h

theorem isHere_percentEncode (cs : List Char) :
    isHere (percentEncode isSegmentLiteral cs) = true ↔ cs = ['.'] := by
  rw [isHere, plainDots_percentEncode, beq_iff_eq]
  exact ⟨fun h => percentEncode_segment_inj h, fun h => by rw [h]; rfl⟩

theorem isParent_percentEncode (cs : List Char) :
    isParent (percentEncode isSegmentLiteral cs) = true ↔ cs = ['.', '.'] := by
  rw [isParent, plainDots_percentEncode, beq_iff_eq]
  exact ⟨fun h => percentEncode_segment_inj h, fun h => by rw [h]; rfl⟩

theorem inert_percentEncode_segment (cs : List Char) :
    Segment.Inert (percentEncode isSegmentLiteral cs) := by
  refine inert_of_encoded fun c _ hk hend => ?_
  simp only [List.mem_cons, List.not_mem_nil, or_false] at hend
  rcases hend with rfl | rfl | rfl <;> exact absurd hk (by decide)

/-- A path less one empty segment at its end. -/
def trunk (path : List Segment) : List Segment :=
  if path.getLast? = some [] then path.dropLast else path

/-- The path keeps all segments of another one and adds at most one that is inert. -/
def Within (place path : List Segment) : Prop :=
  path = place ∨ ∃ s : Segment, s.Inert ∧ path = place ++ [s]

/-- A name that is the one for the place above, but only without the characters that do not count. -/
def Climbs (name : List Char) : Prop :=
  name ≠ ['.', '.'] ∧ counted name = ['.', '.']

instance (name : List Char) : Decidable (Climbs name) :=
  inferInstanceAs (Decidable (_ ∧ _))

def HasSegment (name : List Char) : Prop := counted name ∉ [[], ['.'], ['.', '.']]

instance (name : List Char) : Decidable (HasSegment name) :=
  inferInstanceAs (Decidable (_ ∉ _))

/-- A path that ends with a segment that can be left. -/
def Leavable (path : List Segment) : Prop :=
  ∃ s ∈ path.getLast?, s ≠ [] ∧ isDrive s = false

/-- The names that do not stay below a path. The path of two slashes takes every segment for the
first of them. -/
def Escapes (path : List Segment) (name : List Char) : Prop :=
  (Climbs name ∧ Leavable (trunk path)) ∨ path = [[], []] ∧ HasSegment name

theorem freePlace_eq (path : List Segment) :
    freePlace path = if path = [[], []] then [] else trunk path := by
  rw [freePlace, trunk]
  rcases List.eq_nil_or_concat path with rfl | ⟨dirs, s, rfl⟩
  · rfl
  · have hne : s ≠ [] → dirs ++ [s] ≠ [[]] := by
      intro hs
      cases dirs <;> simp [hs]
    simp only [List.concat_eq_append, List.length_append, List.length_singleton,
      List.getLast?_append, List.getLast?_singleton, Option.some_or, List.dropLast_concat]
    by_cases hs : s = []
    · cases dirs <;> simp [hs]
    · have hne' : dirs ++ [s] ≠ [[], []] := by
        intro h
        have hl := congrArg List.getLast? h
        simp [hs] at hl
      simp [hs, hne hs, hne']

theorem inert_pushSegment (hpath : ∀ s ∈ path, s.Inert) (name : List Char) :
    ∀ s ∈ pushSegment path name, s.Inert := by
  have hfree : ∀ s ∈ freePlace path, s.Inert := by
    intro s hs
    rw [freePlace_eq] at hs
    split at hs
    · cases hs
    · rw [trunk] at hs
      split at hs
      · exact hpath s (List.dropLast_subset _ hs)
      · exact hpath s hs
  intro s hs
  simp only [pushSegment] at hs
  split at hs
  · split at hs
    · obtain rfl := List.mem_singleton.mp hs
      exact Segment.inert_nil
    · exact hfree s hs
  · rcases mem_finish hs with hs | rfl | rfl
    · exact hfree s hs
    · exact inert_percentEncode_segment _
    · exact Segment.inert_nil

theorem pushSegment_ne_nil (path : List Segment) (name : List Char) : pushSegment path name ≠ [] := by
  simp only [pushSegment]
  split
  · split
    · exact List.cons_ne_nil _ _
    · rename_i h
      simpa using h
  · exact finish_ne_nil _ _

theorem pushSegment_of_dotted (hname : name = ['.'] ∨ name = ['.', '.']) :
    pushSegment path name = if freePlace path = [] then [[]] else freePlace path := by
  simp only [pushSegment, if_pos hname, List.isEmpty_iff]

theorem pushSegment_eq_finish (hname : name ≠ ['.'] ∧ name ≠ ['.', '.']) :
    pushSegment path name =
      if counted name = ['.', '.'] then parent (freePlace path) ++ [[]]
      else if counted name = ['.'] then freePlace path ++ [[]]
      else freePlace path ++ [percentEncode isSegmentLiteral (counted name)] := by
  have hdots : ¬ (name = ['.'] ∨ name = ['.', '.']) := not_or.mpr hname
  simp only [pushSegment, if_neg hdots]
  change finish (freePlace path) (percentEncode isSegmentLiteral (counted name)) = _
  simp only [finish, isParent_percentEncode, isHere_percentEncode]

theorem pushSegment_of_hasSegment (h : HasSegment name) :
    pushSegment path name = freePlace path ++ [percentEncode isSegmentLiteral (counted name)] := by
  have hcounted := h
  simp only [HasSegment, List.mem_cons, List.not_mem_nil, or_false, not_or] at hcounted
  have hname : name ≠ ['.'] ∧ name ≠ ['.', '.'] := by
    constructor
    · rintro rfl
      exact hcounted.2.1 rfl
    · rintro rfl
      exact hcounted.2.2 rfl
  rw [pushSegment_eq_finish hname, if_neg hcounted.2.2, if_neg hcounted.2.1]

/-- All other names share the place itself and the two that end with a slash, in it and above. -/
theorem pushSegment_of_not_hasSegment (h : ¬ HasSegment name) :
    pushSegment path name ∈
      [freePlace path, freePlace path ++ [[]], parent (freePlace path) ++ [[]]] := by
  simp only [List.mem_cons, List.not_mem_nil, or_false]
  by_cases hname : name = ['.'] ∨ name = ['.', '.']
  · rw [pushSegment_of_dotted hname]
    split
    · rename_i he
      rw [he]
      exact Or.inr (Or.inl rfl)
    · exact Or.inl rfl
  · simp only [HasSegment, Classical.not_not, List.mem_cons, List.not_mem_nil, or_false] at h
    rw [pushSegment_eq_finish (not_or.mp hname)]
    rcases h with h | h | h <;> rw [h]
    · exact Or.inr (Or.inl rfl)
    · exact Or.inr (Or.inl rfl)
    · exact Or.inr (Or.inr rfl)

theorem pushSegment_eq_iff (h : HasSegment name) {other : List Char} :
    pushSegment path name = pushSegment path other ↔ counted name = counted other := by
  rw [pushSegment_of_hasSegment h]
  by_cases hother : HasSegment other
  · rw [pushSegment_of_hasSegment hother]
    constructor
    · intro he
      exact percentEncode_segment_inj (List.singleton_inj.mp (List.append_cancel_left he))
    · intro he
      rw [he]
  · refine iff_of_false (fun he => ?_) fun he => hother ?_
    · have hne : percentEncode isSegmentLiteral (counted name) ≠ [] := by
        intro hnil
        have hcounted : counted name = [] := percentEncode_segment_inj hnil
        exact h (by simp [hcounted])
      have hmem : pushSegment path other ∈ [_, _, _] := pushSegment_of_not_hasSegment hother
      rw [← he] at hmem
      simp only [List.mem_cons, List.not_mem_nil, or_false] at hmem
      rcases hmem with hmem | hmem | hmem
      · exact absurd (congrArg List.length hmem) (by simp)
      · exact hne (List.singleton_inj.mp (List.append_cancel_left hmem))
      · exact hne (List.append_inj_right' hmem rfl |> List.singleton_inj.mp)
    · rw [HasSegment, ← he]
      exact h

theorem parent_of_leavable (h : Leavable path) : parent path = path.dropLast := by
  obtain ⟨s, hs, -, hdrive⟩ := h
  rw [Option.mem_def] at hs
  rw [parent, hs, Option.any_some, hdrive]
  rfl

theorem parent_of_not_leavable (hne : path ≠ []) (h : ¬ Leavable path) :
    parent path = path ∨ parent path ++ [[]] = path := by
  rw [parent]
  split
  · exact Or.inl rfl
  · rename_i hdrive
    obtain ⟨dirs, s, rfl⟩ := (List.eq_nil_or_concat path).resolve_left hne
    simp only [List.concat_eq_append, List.getLast?_append, List.getLast?_singleton, Option.some_or,
      Option.any_some, Bool.not_eq_true] at hdrive
    have hs : s = [] := by
      by_contra hs
      exact h ⟨s, by simp, hs, hdrive⟩
    exact Or.inr (by simp [hs])

theorem within_concat (hs : s.Inert) : Within path (path ++ [s]) :=
  Or.inr ⟨s, hs, rfl⟩

theorem within_parent_iff (place : List Segment) :
    Within place (parent place ++ [[]]) ↔ ¬ Leavable place := by
  by_cases hleave : Leavable place
  · refine iff_of_false ?_ fun h => h hleave
    obtain ⟨s, hs, hne, -⟩ := id hleave
    obtain ⟨dirs, hdirs⟩ := List.getLast?_eq_some_iff.mp hs
    rw [parent_of_leavable hleave, hdirs, List.dropLast_concat]
    rintro (h | ⟨s', -, h⟩)
    · exact hne (List.append_inj_right' h rfl |> List.singleton_inj.mp).symm
    · exact absurd (congrArg List.length h) (by simp)
  · refine iff_of_true ?_ hleave
    by_cases hne : place = []
    · rw [hne]
      exact within_concat Segment.inert_nil
    · rcases parent_of_not_leavable hne hleave with h | h
      · rw [h]
        exact within_concat Segment.inert_nil
      · rw [h]
        exact Or.inl rfl

theorem within_pushSegment_slashes (name : List Char) :
    Within (trunk [[], []]) (pushSegment [[], []] name) ↔ ¬ HasSegment name := by
  rw [HasSegment, Classical.not_not]
  have hempty : Within (trunk [[], []]) [[]] := Or.inl rfl
  by_cases hname : name = ['.'] ∨ name = ['.', '.']
  · have hpush : pushSegment [[], []] name = [[]] := pushSegment_of_dotted hname
    rw [hpush]
    refine iff_of_true hempty ?_
    rcases hname with rfl | rfl <;> decide
  · rw [pushSegment_eq_finish (not_or.mp hname)]
    have hfree : freePlace [[], []] = [] := rfl
    simp only [hfree, List.mem_cons, List.not_mem_nil, or_false]
    by_cases hup : counted name = ['.', '.']
    · rw [if_pos hup]
      exact iff_of_true hempty (Or.inr (Or.inr hup))
    · rw [if_neg hup]
      by_cases hhere : counted name = ['.']
      · rw [if_pos hhere]
        exact iff_of_true hempty (Or.inr (Or.inl hhere))
      · rw [if_neg hhere, List.nil_append]
        constructor
        · rintro (h | ⟨s, -, h⟩)
          · refine Or.inl (percentEncode_segment_inj ?_)
            exact (List.cons.inj h).1
          · exact absurd (congrArg List.length h) (by simp [trunk])
        · rintro (h | h | h)
          · rw [h]
            exact hempty
          · exact absurd h hhere
          · exact absurd h hup

/-- A name stays below a path unless it is read as the name of the place above. -/
theorem within_pushSegment_iff (path : List Segment) (name : List Char) :
    Within (trunk path) (pushSegment path name) ↔ ¬ Escapes path name := by
  -- the path of two slashes is the only one whose free place is not its trunk
  by_cases hslashes : path = [[], []]
  · subst hslashes
    have hleave : ¬ Leavable (trunk [[], []]) := by
      rintro ⟨s, hs, hne, -⟩
      exact hne (Option.some.inj hs).symm
    have hescapes : Escapes [[], []] name ↔ HasSegment name :=
      ⟨fun h => h.elim (fun h => absurd h.2 hleave) And.right, fun h => Or.inr ⟨rfl, h⟩⟩
    rw [within_pushSegment_slashes, hescapes]
  · have hfree : freePlace path = trunk path := by rw [freePlace_eq, if_neg hslashes]
    have hescapes : Escapes path name ↔ Climbs name ∧ Leavable (trunk path) := by
      rw [Escapes]
      simp [hslashes]
    rw [hescapes]
    by_cases hname : name = ['.'] ∨ name = ['.', '.']
    · refine iff_of_true ?_ fun h => ?_
      · rw [pushSegment_of_dotted hname, hfree]
        split
        · rename_i he
          rw [he]
          exact within_concat Segment.inert_nil
        · exact Or.inl rfl
      · obtain ⟨⟨hdots, hcounted⟩, -⟩ := h
        rcases hname with rfl | rfl
        · exact absurd hcounted (by decide)
        · exact hdots rfl
    · have hname := not_or.mp hname
      rw [pushSegment_eq_finish hname, hfree]
      by_cases hup : counted name = ['.', '.']
      · have hclimbs : Climbs name := ⟨hname.2, hup⟩
        rw [if_pos hup, within_parent_iff, and_iff_right hclimbs]
      · rw [if_neg hup]
        refine iff_of_true ?_ fun h => hup h.1.2
        split
        · exact within_concat Segment.inert_nil
        · exact within_concat (inert_percentEncode_segment _)

theorem splitAtChar_pathText {cs : List Char} (hcs : pathText path = '/' :: cs)
    (hpath : ∀ s ∈ path, s.Inert) : splitAtChar (· == '/') cs = path := by
  have hslash (s : Segment) (hs : s ∈ path) (c : Char) (hc : c ∈ s) : (c == '/') = false := by
    have hinert := hpath s hs c hc
    simp only [List.mem_cons, not_or] at hinert
    exact beq_false_of_ne hinert.1
  induction path generalizing cs with
  | nil => cases hcs
  | cons s path ih =>
      obtain rfl : s ++ pathText path = cs := (List.cons.inj hcs).2
      cases path with
      | nil =>
          rw [pathText, List.flatMap_nil, List.append_nil]
          exact splitAtChar_of_forall (hslash s List.mem_cons_self)
      | cons next path =>
          have htail : pathText (next :: path) = '/' :: (next ++ pathText path) := rfl
          have hrest : splitAtChar (· == '/') (next ++ pathText path) = next :: path :=
            ih htail (fun t ht => hpath t (List.mem_cons_of_mem _ ht)) fun t ht =>
              hslash t (List.mem_cons_of_mem _ ht)
          rw [htail, splitAtChar_append (hslash s List.mem_cons_self) (by decide), hrest]

theorem pathText_inert (hpath : ∀ s ∈ path, s.Inert) : ∀ c ∈ pathText path, c ∉ ['?', '#'] := by
  intro c hc
  obtain ⟨s, hs, hc⟩ := List.mem_flatMap.mp hc
  rcases List.mem_cons.mp hc with rfl | hc
  · decide
  · have hinert := hpath s hs c hc
    simp only [List.mem_cons, not_or] at hinert ⊢
    exact hinert.2

theorem Target.read?_target {base : BaseUrl} (hbase : ∀ s ∈ base.path, s.Inert)
    (hquery : base.query = none) (name : String) (pairs : List (String × String)) :
    Target.read? (base.target name pairs) = some ⟨pushSegment base.path name.toList,
      if pairs.isEmpty then none else some pairs⟩ := by
  have hinert := inert_pushSegment hbase name.toList
  have hpath := pathText_inert hinert
  obtain ⟨cs, hcs⟩ : ∃ cs, pathText (pushSegment base.path name.toList) = '/' :: cs := by
    obtain ⟨s, path, hp⟩ := List.exists_cons_of_ne_nil (pushSegment_ne_nil base.path name.toList)
    rw [hp]
    exact ⟨_, rfl⟩
  have hmark : ∀ c ∈ '/' :: cs, (c != '?') = true := by
    intro c hc
    have h := hpath c (hcs ▸ hc)
    simp only [List.mem_cons, not_or] at h
    simpa using h.1
  rw [Target.read?, BaseUrl.target, BaseUrl.queryWith, hquery, String.toList_ofList, hcs]
  cases hpairs : pairs.isEmpty with
  | true =>
      have hspan : ('/' :: cs).span (· != '?') = ('/' :: cs, []) := by
        rw [List.span_eq_takeWhile_dropWhile,
          List.takeWhile_eq_self_iff.mpr hmark, List.dropWhile_eq_nil_iff.mpr hmark]
      simp only [if_true, List.append_nil, hspan, splitAtChar_pathText hcs hinert]
  | false =>
      have hspan (query : List Char) :
          ('/' :: cs ++ '?' :: query).span (· != '?') = ('/' :: cs, '?' :: query) :=
        span_append_of_forall hmark (by decide) query
      simp only [Bool.false_eq_true, if_false, hspan, Option.getD_none, readForm_formAppend,
        splitAtChar_pathText hcs hinert]
      rfl

end DocQuery.Web
