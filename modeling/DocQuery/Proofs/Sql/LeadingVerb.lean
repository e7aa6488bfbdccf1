import DocQuery.Proofs.Sql.TokenSearch
import Mathlib.Data.List.Chain

namespace DocQuery.Sql

open Grammar Search

variable {ts xs ys : List Token} {t u : Token} {text : String}

/-- One of two neighbours has a property. -/
def Parted (P : Token → Prop) (ts : List Token) : Prop := ts.IsChain fun t u => P t ∨ P u

def Token.Quiet (first second : String) (t : Token) : Prop :=
  Marks.found.ends first t = false ∧ Marks.found.opens second t = false

theorem Parted.not_occurs {first second : String} (h : Parted (Token.Quiet first second) ts) :
    (Marks.found.phrase first (some second)).occurs ts = false := by
  rw [Marks.phrase]
  induction ts with
  | nil => rfl
  | cons t ts ih =>
      cases ts with
      | nil => simp [Phrase.occurs, Phrase.leads]
      | cons u us =>
          obtain ⟨hquiet, hrest⟩ := List.isChain_cons_cons.mp h
          have hboth : (Marks.found.ends first t && Marks.found.opens second u) = false := by
            rw [Bool.and_eq_false_iff]
            exact hquiet.imp And.left And.right
          rw [Phrase.occurs, ih hrest, Phrase.leads, Phrase.leads, Phrase.leads, Bool.and_true, hboth]
          rfl

def isBarrier (cs : List Char) : Bool :=
  !(letters "INSERT".toList.reverse cs.reverse).isSome && !(letters "INTO".toList cs).isSome

def Token.Barrier (t : Token) : Prop := isBarrier t.skeleton.toList = true

def Apart (ts : List Token) : Prop := ts.IsChain fun t u => t.Barrier ∨ u.Barrier

theorem Token.Barrier.quiet (h : t.Barrier) : t.Quiet "INSERT" "INTO" := by
  constructor
  · refine Bool.eq_false_iff.mpr fun hends => ?_
    obtain ⟨before, word, hs, -, hword⟩ := Marks.found_ends_iff.mp hends
    have hreverse : letters "INSERT".toList.reverse t.skeleton.toList.reverse = some before.reverse :=
      letters_eq_some_iff.mpr
        ⟨word.reverse, by rw [hs, List.reverse_append], List.forall₂_reverse_iff.mpr hword⟩
    rw [Barrier, isBarrier, hreverse] at h
    cases h
  · refine Bool.eq_false_iff.mpr fun hopens => ?_
    obtain ⟨word, behind, hs, hword, -⟩ := Marks.found_opens_iff.mp hopens
    have hletters : letters "INTO".toList t.skeleton.toList = some behind :=
      letters_eq_some_iff.mpr ⟨word, hs, hword⟩
    rw [Barrier, isBarrier, hletters, Option.isSome_some, Bool.not_true, Bool.and_false] at h
    cases h

theorem Apart.not_occurs (h : Apart ts) (htight : ∀ t ∈ ts, t.Tight) :
    occurs (keywords "INSERT" (some "INTO")) (skeletonOf ts) = false := by
  rw [occurs_keywords (by decide) htight]
  exact Parted.not_occurs (List.IsChain.imp (fun _ _ => Or.imp Token.Barrier.quiet Token.Barrier.quiet) h)

theorem isBarrier_map_toLower (cs : List Char) : isBarrier (cs.map Char.toLower) = isBarrier cs := by
  rw [isBarrier, isBarrier, ← List.map_reverse, letters_map_toLower, letters_map_toLower]

theorem barrier_keyword (w : Keyword text) (h : isBarrier (text.toList.map Char.toLower)) :
    w.token.Barrier := by
  obtain ⟨value, hw, hvalue⟩ := w.exists_value
  rw [← hvalue, isBarrier_map_toLower] at h
  rw [hw]
  exact h

theorem barrier_of_ne_word (h : t.isWord = false) : t.Barrier := by
  cases t with
  | word value quoted => cases h
  | number text => exact (by decide : isBarrier "0".toList = true)
  | string value => exact (by decide : isBarrier "''".toList = true)
  | other text => exact (by decide : isBarrier "_".toList = true)
  | _ => unfold Token.Barrier; decide

section

variable {P : Token → Prop}

theorem parted_behind (hx : Parted P xs) (ht : P t) (hy : Parted P ys) : Parted P (xs ++ t :: ys) := by
  refine List.isChain_append.mpr ⟨hx, List.isChain_cons.mpr ⟨fun _ _ => Or.inl ht, hy⟩, ?_⟩
  rintro x - y ⟨⟩
  exact Or.inr ht

theorem parted_flatMap {α : Type} {f : α → List Token} (ht : P t) (hf : ∀ a, Parted P (f a))
    (hx : Parted P xs) (as : List α) : Parted P (xs ++ as.flatMap fun a => t :: f a) := by
  induction as generalizing xs with
  | nil => simpa using hx
  | cons a as ih =>
      have h := ih (parted_behind hx ht (hf a))
      rwa [List.append_assoc] at h

variable (hP : ∀ t : Token, t.isWord = false → P t)

include hP

theorem parted_name (n : Name) : Parted P n.tokens :=
  parted_flatMap (hP .period rfl) (fun _ => List.isChain_singleton _)
    (List.isChain_singleton n.first.token) n.others

theorem parted_value (v : Value) : Parted P v.tokens := by
  cases v with
  | negative text => exact parted_behind .nil (hP .minus rfl) (List.isChain_singleton _)
  | _ => exact List.isChain_singleton _

theorem parted_equation (e : Equation) : Parted P e.tokens :=
  parted_behind (List.isChain_singleton e.column.token) (hP .equal rfl) (parted_value hP e.value)

theorem parted_ending (hx : Parted P xs) (semicolon : Bool) : Parted P (xs ++ ending semicolon) := by
  cases semicolon with
  | false => simpa [ending] using hx
  | true => exact parted_behind hx (hP .semicolon rfl) .nil

end

theorem apart_revision (d : Revision) : Apart d.tokens := by
  have hbarrier (t : Token) (h : t.isWord = false) : t.Barrier := barrier_of_ne_word h
  have hassignments : Apart (d.assignments.tokens Equation.tokens) :=
    parted_flatMap (hbarrier .comma rfl) (parted_equation hbarrier) (parted_equation hbarrier _) _
  refine parted_behind .nil (barrier_keyword d.updateWord (by decide)) ?_
  refine parted_behind (parted_name hbarrier d.name) (barrier_keyword d.setWord (by decide)) ?_
  refine parted_behind hassignments (barrier_keyword d.whereWord (by decide)) ?_
  exact parted_ending hbarrier (parted_equation hbarrier d.condition) d.semicolon

theorem apart_removal (d : Removal) : Apart d.tokens := by
  have hbarrier (t : Token) (h : t.isWord = false) : t.Barrier := barrier_of_ne_word h
  refine parted_behind .nil (barrier_keyword d.deleteWord (by decide)) ?_
  refine parted_behind .nil (barrier_keyword d.fromWord (by decide)) ?_
  refine parted_behind (parted_name hbarrier d.name) (barrier_keyword d.whereWord (by decide)) ?_
  exact parted_ending hbarrier (parted_equation hbarrier d.condition) d.semicolon

theorem verbOf_insertion (d : Insertion) : verbOf (skeletonOf d.tokens) = .insert := by
  have ho : occurs (keywords "INSERT" (some "INTO")) (skeletonOf d.tokens) = true :=
    occurs_of_head (keywords_of_two d.insertWord d.intoWord (by decide) (by decide)
      (by simp [Name.tokens]))
  rw [verbOf, if_pos ho]

theorem verbOf_revision (d : Revision) (htight : ∀ t ∈ d.tokens, t.Tight) :
    verbOf (skeletonOf d.tokens) = .update := by
  have hi := (apart_revision d).not_occurs htight
  have ho : occurs (keywords "UPDATE" none) (skeletonOf d.tokens) = true :=
    occurs_of_head (keywords_of_keyword d.updateWord (by simp [Name.tokens]))
  rw [verbOf, if_neg (by rw [hi]; decide), if_pos ho]

theorem verbOf_removal (d : Removal) (htight : ∀ t ∈ d.tokens, t.Tight) :
    verbOf (skeletonOf d.tokens) =
      if occurs (keywords "UPDATE" none) (skeletonOf d.tokens) then .update else .delete := by
  have hi := (apart_removal d).not_occurs htight
  have ho : occurs (keywords "DELETE" (some "FROM")) (skeletonOf d.tokens) = true :=
    occurs_of_head (keywords_of_two d.deleteWord d.fromWord (by decide) (by decide)
      (by simp [Name.tokens]))
  rw [verbOf, if_neg (by rw [hi]; decide), if_pos ho]

/-- Other keywords than that of a query come first. -/
def misleads (cs : List Char) : Bool :=
  occurs (keywords "INSERT" (some "INTO")) cs || occurs (keywords "UPDATE" none) cs ||
    occurs (keywords "DELETE" (some "FROM")) cs

theorem verbOf_query (d : Query) :
    if misleads (skeletonOf d.tokens) then (verbOf (skeletonOf d.tokens)).isMutation
    else (verbOf (skeletonOf d.tokens)).isQuery := by
  have hf : find? (keywords "SELECT" none) false (skeletonOf d.tokens) = _ :=
    find?_of_head (keywords_of_keyword d.selectWord (by simp))
  rw [misleads, verbOf]
  cases occurs (keywords "INSERT" (some "INTO")) (skeletonOf d.tokens) with
  | true => rfl
  | false =>
      cases occurs (keywords "UPDATE" none) (skeletonOf d.tokens) with
      | true => rfl
      | false =>
          cases occurs (keywords "DELETE" (some "FROM")) (skeletonOf d.tokens) with
          | true => rfl
          | false =>
              simp only [Bool.false_eq_true, if_false, Bool.or_false, hf]
              repeat' split
              all_goals rfl

end DocQuery.Sql
