import DocQuery.Proofs.Json.RoundTrip
import DocQuery.Rest.Response

namespace DocQuery.Rest.ErrorBody

open Json.Reader

def fieldMember (f : String × Option String) : String × Json :=
  (f.1, match f.2 with
    | some text => .string text
    | none => .null)

def ofNamed (fields : List (String × Option String)) : ErrorBody :=
  let field (name : String) := (fields.lookup name).join
  ⟨field "code", field "message", field "details", field "hint"⟩

theorem optionalText_member (f : String × Option String) (rest : List Char) :
    optionalText ((fieldMember f).2.compact.toList ++ rest) = some (f.2, rest) := by
  obtain ⟨name, text?⟩ := f
  cases text? with
  | none =>
      change optionalText (Json.null.compact.toList ++ rest) = some (none, rest)
      rfl
  | some text =>
      have hquote := string?_quote text rest
      rw [toList_quote] at hquote
      change optionalText ((Json.string text).compact.toList ++ rest) = _
      rw [Json.compact, toList_quote, optionalText, skipSpace_cons rfl]
      change (string? .strict _).map _ = _
      rw [hquote]
      rfl

theorem readsAs_fieldMember {f : String × Option String} (hf : f.1 ∈ fieldNames) :
    ReadsAs (member .strict fieldValue) f
      (Json.quote (fieldMember f).1 ++ ":" ++ (fieldMember f).2.compact).toList := by
  have hknown : fieldNames.contains f.1 = true := List.contains_iff_mem.mpr hf
  exact readsAs_member fun rest _ => by rw [fieldValue, if_pos hknown, optionalText_member]

theorem ofFields?_eq_ofNamed {fields : List (String × Option String)} (hnames : ∀ f ∈ fields, f.1 ∈ fieldNames)
    (hnodup : (fields.map (·.1)).Nodup) : ofFields? fields = some (ofNamed fields) := by
  have hall : (fields.map (·.1)).filter fieldNames.contains = fields.map (·.1) := by
    refine List.filter_eq_self.mpr fun name hname => ?_
    obtain ⟨f, hf, rfl⟩ := List.mem_map.mp hname
    exact List.contains_iff_mem.mpr (hnames f hf)
  simp only [ofFields?, hall, if_pos hnodup]
  rfl

/-- An object with some of the four fields, each of them a text or null, is understood. -/
theorem ofText_fields (fields : List (String × Option String))
    (hnames : ∀ f ∈ fields, f.1 ∈ fieldNames) (hnodup : (fields.map (·.1)).Nodup) :
    ofText (Json.object (fields.map fieldMember)).compact = ofNamed fields := by
  have htext : (Json.object (fields.map fieldMember)).compact.toList = '\x7b' ::
      ([','].intercalate (fields.map fun f =>
        (Json.quote (fieldMember f).1 ++ ":" ++ (fieldMember f).2.compact).toList) ++ ['\x7d']) := by
    rw [← List.append_nil (String.toList _), Json.compact, compactMembers_eq]
    refine (toList_brackets '\x7b' '\x7d' _ []).trans ?_
    rw [List.map_map, List.map_map]
    rfl
  have hfields : List.Forall₂ (ReadsAs (member .strict fieldValue)) fields (fields.map fun f =>
      (Json.quote (fieldMember f).1 ++ ":" ++ (fieldMember f).2.compact).toList) :=
    List.forall₂_map_right_iff.mpr
      (List.forall₂_same.mpr fun f hf => readsAs_fieldMember (hnames f hf))
  have hread : read? (Json.object (fields.map fieldMember)).compact.toList =
      some (ofNamed fields, []) := by
    have henclosed := enclosed_intercalate (by decide : '\x7d' ∈ [']', '\x7d']) hfields []
    rw [htext, read?, skipSpace_cons rfl]
    change (enclosed _ _ _).bind _ = _
    rw [henclosed, Option.bind_some]
    change (ofFields? _).bind _ = _
    rw [ofFields?_eq_ofNamed hnames hnodup]
    rfl
  rw [ofText, whole, hread]
  rfl

theorem dropByteOrderMark_object (members : List (String × Json)) :
    dropByteOrderMark (Json.object members).compact = (Json.object members).compact := by
  obtain ⟨cs, htext⟩ : ∃ cs, (Json.object members).compact.toList = '\x7b' :: cs := by
    rw [← List.append_nil (String.toList _), Json.compact]
    exact ⟨_, toList_brackets '\x7b' '\x7d' _ []⟩
  rw [dropByteOrderMark, htext]
  change String.ofList _ = _
  rw [← htext, String.ofList_toList]

end DocQuery.Rest.ErrorBody
