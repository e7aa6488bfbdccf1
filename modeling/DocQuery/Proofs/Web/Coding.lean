import DocQuery.Web.Address
import DocQuery.Web.Form
import Mathlib.Data.List.TakeDrop

namespace DocQuery.Web

open Text (hexValue? hexValue?_upperHexDigit upperHexDigit)

variable {keep : Char → Bool} {c d : Char} {cs ds rest : List Char}

def upperHexDigits : List Char := "0123456789ABCDEF".toList

theorem upperHexDigit_mem : ∀ {n : Nat}, n < 16 → upperHexDigit n ∈ upperHexDigits := by
  decide

theorem percentByte_digits_lt (b : UInt8) : b.toNat / 16 < 16 ∧ b.toNat % 16 < 16 := by
  have hb : b.toNat < 256 := b.toNat_lt
  omega

theorem percentDecode_percentByte (b : UInt8) (rest : List Char) :
    percentDecode (percentByte b ++ rest) = b :: percentDecode rest := by
  obtain ⟨hhigh, hlow⟩ := percentByte_digits_lt b
  have hb : b.toNat / 16 * 16 + b.toNat % 16 = b.toNat := by omega
  change percentDecode ('%' :: upperHexDigit _ :: upperHexDigit _ :: rest) = _
  rw [percentDecode, hexValue?_upperHexDigit hhigh, hexValue?_upperHexDigit hlow]
  simp only [hb, UInt8.ofNat_toNat]

theorem percentDecode_percentBytes (bs : List UInt8) (rest : List Char) :
    percentDecode (bs.flatMap percentByte ++ rest) = bs ++ percentDecode rest := by
  induction bs with
  | nil => rfl
  | cons b bs ih =>
      rw [List.flatMap_cons, List.append_assoc, percentDecode_percentByte, ih, List.cons_append]

theorem percentDecode_cons (hc : c ≠ '%') (rest : List Char) :
    percentDecode (c :: rest) = String.utf8EncodeChar c ++ percentDecode rest := by
  rw [percentDecode]
  rintro a b rest' rfl
  exact absurd rfl hc

/-- The bytes of a text are read back from it, whatever characters stand for themselves. -/
theorem percentDecode_percentEncode (hkeep : keep '%' = false) (cs rest : List Char) :
    percentDecode (percentEncode keep cs ++ rest) =
      cs.flatMap String.utf8EncodeChar ++ percentDecode rest := by
  induction cs with
  | nil => rfl
  | cons c cs ih =>
      rw [percentEncode] at ih ⊢
      rw [List.flatMap_cons, List.flatMap_cons, List.append_assoc, List.append_assoc]
      by_cases hc : keep c
      · have hne : c ≠ '%' := by
          rintro rfl
          rw [hkeep] at hc
          cases hc
        rw [if_pos hc, List.singleton_append, percentDecode_cons hne, ih]
      · rw [if_neg hc, percentChar, percentDecode_percentBytes, ih]

theorem textOfBytes?_utf8 (cs : List Char) :
    textOfBytes? (cs.flatMap String.utf8EncodeChar) = some (String.ofList cs) := by
  have hbytes : (⟨(cs.flatMap String.utf8EncodeChar).toArray⟩ : ByteArray) = cs.utf8Encode := by
    rw [List.utf8Encode, ← List.data_toByteArray]
  rw [textOfBytes?, hbytes, String.fromUTF8?, dif_pos ByteArray.isValidUTF8_utf8Encode]
  rfl

theorem textOfBytes?_percentDecode (hkeep : keep '%' = false) (cs : List Char) :
    textOfBytes? (percentDecode (percentEncode keep cs)) = some (String.ofList cs) := by
  have h := percentDecode_percentEncode hkeep cs []
  rw [List.append_nil] at h
  rw [h, percentDecode, List.append_nil, textOfBytes?_utf8]

theorem percentEncode_inj (hkeep : keep '%' = false)
    (h : percentEncode keep cs = percentEncode keep ds) : cs = ds := by
  have hs : some (String.ofList cs) = some (String.ofList ds) := by
    rw [← textOfBytes?_percentDecode hkeep, ← textOfBytes?_percentDecode hkeep, h]
  exact String.ofList_injective (Option.some.inj hs)

theorem mem_percentChar (h : d ∈ percentChar c) : d = '%' ∨ d ∈ upperHexDigits := by
  obtain ⟨b, -, hd⟩ := List.mem_flatMap.mp h
  obtain ⟨hhigh, hlow⟩ := percentByte_digits_lt b
  rcases List.mem_cons.mp hd with rfl | hd
  · exact Or.inl rfl
  · rcases List.mem_cons.mp hd with rfl | hd
    · exact Or.inr (upperHexDigit_mem hhigh)
    · obtain rfl := List.mem_singleton.mp hd
      exact Or.inr (upperHexDigit_mem hlow)

theorem mem_percentEncode (h : d ∈ percentEncode keep cs) :
    (keep d = true ∧ d ∈ cs) ∨ d = '%' ∨ d ∈ upperHexDigits := by
  obtain ⟨c, hc, hd⟩ := List.mem_flatMap.mp h
  by_cases hk : keep c
  · rw [if_pos hk] at hd
    obtain rfl := List.mem_singleton.mp hd
    exact Or.inl ⟨hk, hc⟩
  · rw [if_neg hk] at hd
    exact Or.inr (mem_percentChar hd)

theorem splitAtChar_append {separates : Char → Bool} (hcs : ∀ c ∈ cs, separates c = false)
    (hd : separates d = true) (rest : List Char) :
    splitAtChar separates (cs ++ d :: rest) = cs :: splitAtChar separates rest := by
  induction cs with
  | nil => rw [List.nil_append, splitAtChar, if_pos hd]
  | cons c cs ih =>
      have hc := hcs c List.mem_cons_self
      rw [List.cons_append, splitAtChar, hc, ih fun x hx => hcs x (List.mem_cons_of_mem _ hx)]
      rfl

theorem splitAtChar_of_forall {separates : Char → Bool} (hcs : ∀ c ∈ cs, separates c = false) :
    splitAtChar separates cs = [cs] := by
  induction cs with
  | nil => rfl
  | cons c cs ih =>
      have hc := hcs c List.mem_cons_self
      rw [splitAtChar, hc, ih fun x hx => hcs x (List.mem_cons_of_mem _ hx)]
      rfl

theorem splitAtChar_intercalate {separates : Char → Bool} (hd : separates d = true)
    {parts : List (List Char)} (hne : parts ≠ [])
    (hparts : ∀ part ∈ parts, ∀ c ∈ part, separates c = false) :
    splitAtChar separates (List.intercalate [d] parts) = parts := by
  induction parts with
  | nil => exact absurd rfl hne
  | cons part parts ih =>
      have hpart := hparts part List.mem_cons_self
      cases parts with
      | nil =>
          rw [List.intercalate_singleton]
          exact splitAtChar_of_forall hpart
      | cons next parts =>
          rw [List.intercalate_cons_cons, List.append_assoc, List.singleton_append,
            splitAtChar_append hpart hd, ih (List.cons_ne_nil _ _) fun p hp => hparts p (List.mem_cons_of_mem _ hp)]

def formDecode? (cs : List Char) : Option String :=
  textOfBytes? (percentDecode (cs.map fun c => if c = '+' then ' ' else c))

def readFormPair (cs : List Char) : Option (String × String) := do
  let (name, value) := cs.span (· != '=')
  let name ← formDecode? name
  let value ← formDecode? (value.drop 1)
  some (name, value)

/-- The pairs of a query in their order. Nothing between two separators is no pair. -/
def readForm (query : List Char) : Option (List (String × String)) :=
  ((splitAtChar (· == '&') query).filter (!·.isEmpty)).mapM readFormPair

theorem formDecode?_formEncode (s : String) : formDecode? (formEncode s) = some s := by
  have hplus (c : Char) (hc : c ∈ percentEncode (fun c => isFormLiteral c || c == ' ') s.toList) :
      c ≠ '+' := by
    rintro rfl
    rcases mem_percentEncode hc with ⟨hk, -⟩ | hk | hk
    · exact absurd hk (by decide)
    · exact absurd hk (by decide)
    · exact absurd hk (by decide)
  have hback : ((percentEncode (fun c => isFormLiteral c || c == ' ') s.toList).map fun c =>
      if c = ' ' then '+' else c).map (fun c => if c = '+' then ' ' else c) =
      percentEncode (fun c => isFormLiteral c || c == ' ') s.toList := by
    rw [List.map_map]
    refine (List.map_congr_left fun c hc => ?_).trans (List.map_id _)
    by_cases h : c = ' '
    · simp [h]
    · simp [h, hplus c hc]
  rw [formDecode?, formEncode, hback, textOfBytes?_percentDecode (by decide), String.ofList_toList]

theorem formEncode_ne {s : String} (h : d ∈ formEncode s) : d ≠ '&' ∧ d ≠ '=' ∧ d ≠ '#' := by
  obtain ⟨c, hc, rfl⟩ := List.mem_map.mp h
  by_cases hb : c = ' '
  · rw [if_pos hb]
    decide
  · rw [if_neg hb]
    rcases mem_percentEncode hc with ⟨hk, -⟩ | rfl | hk
    · refine ⟨?_, ?_, ?_⟩ <;> rintro rfl <;> exact absurd hk (by decide)
    · decide
    · refine ⟨?_, ?_, ?_⟩ <;> rintro rfl <;> exact absurd hk (by decide)

theorem span_append_of_forall {p : Char → Bool} (hcs : ∀ c ∈ cs, p c = true) (hd : p d = false)
    (rest : List Char) : (cs ++ d :: rest).span p = (cs, d :: rest) := by
  rw [List.span_eq_takeWhile_dropWhile, List.takeWhile_append_of_pos hcs,
    List.dropWhile_append_of_pos hcs, List.takeWhile_cons, List.dropWhile_cons, hd]
  simp

theorem readFormPair_formPair (pair : String × String) : readFormPair (formPair pair) = some pair := by
  have hspan : (formPair pair).span (· != '=') = (formEncode pair.1, '=' :: formEncode pair.2) :=
    span_append_of_forall (fun c hc => by simpa using (formEncode_ne hc).2.1) (by decide) _
  rw [readFormPair, hspan]
  simp only [List.drop_succ_cons, List.drop_zero, formDecode?_formEncode]
  rfl

theorem formPair_ne {pair : String × String} (h : d ∈ formPair pair) : d ≠ '&' ∧ d ≠ '#' := by
  rcases List.mem_append.mp h with h | h
  · exact ⟨(formEncode_ne h).1, (formEncode_ne h).2.2⟩
  · rcases List.mem_cons.mp h with rfl | h
    · decide
    · exact ⟨(formEncode_ne h).1, (formEncode_ne h).2.2⟩

theorem readForm_formAppend (pairs : List (String × String)) :
    readForm (formAppend [] pairs) = some pairs := by
  have hempty : formAppend [] pairs = List.intercalate ['&'] (pairs.map formPair) := rfl
  have hpairs : ((pairs.map formPair).filter (!·.isEmpty)).mapM readFormPair = some pairs := by
    have hall : ∀ part ∈ pairs.map formPair, (!part.isEmpty) = true := by
      intro part hpart
      obtain ⟨pair, -, rfl⟩ := List.mem_map.mp hpart
      simp [formPair]
    rw [List.filter_eq_self.mpr hall]
    clear hempty hall
    induction pairs with
    | nil => rfl
    | cons pair pairs ih => simp [readFormPair_formPair, ih]
  rw [readForm, hempty]
  cases pairs with
  | nil => rfl
  | cons pair pairs =>
      rw [splitAtChar_intercalate (by decide) (by simp) fun part hpart c hc => ?_]
      · exact hpairs
      · obtain ⟨pair, -, rfl⟩ := List.mem_map.mp hpart
        simpa using (formPair_ne hc).1

end DocQuery.Web
