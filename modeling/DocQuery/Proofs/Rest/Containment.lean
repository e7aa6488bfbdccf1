import DocQuery.Proofs.Rest.Query
import DocQuery.Proofs.Web.Target

namespace DocQuery.Rest

open Store (Call)
open Web

variable {client : Client} {settings : ConnectionSettings}

namespace Client

theorem parse_of_ofSettings (h : ofSettings settings = .ok client) :
    BaseUrl.parse settings.baseUrl = .ok client.base := by
  rw [ofSettings] at h
  cases hv : settings.validate with
  | error e => rw [hv] at h; cases h
  | ok u =>
      rw [hv] at h
      cases hb : BaseUrl.parse settings.baseUrl with
      | error e => rw [hb] at h; cases h
      | ok base =>
          rw [hb] at h
          simp only [Except.mapError, bind, Except.bind] at h
          split at h
          · cases h
            rfl
          · cases h

def path (client : Client) (call : Call) : List Segment :=
  pushSegment client.base.path (client.request call).resource.name.toList

theorem target_toList (hquery : client.base.query = none) (call : Call) :
    ((client.request call).target client.base).toList = pathText (client.path call) ++
      if (client.request call).pairs.isEmpty then []
      else '?' :: formAppend [] (client.request call).pairs := by
  rw [Request.target, BaseUrl.target, BaseUrl.queryWith, hquery, String.toList_ofList]
  cases (client.request call).pairs.isEmpty <;> rfl

theorem path_of_climbs {call : Call}
    (hclimbs : Climbs (client.request call).resource.name.toList)
    (hleave : Leavable (trunk client.base.path)) :
    client.path call = (trunk client.base.path).dropLast ++ [[]] := by
  have hfree : freePlace client.base.path = trunk client.base.path := by
    rw [freePlace_eq]
    split
    · rename_i h
      obtain ⟨s, hs, hne, -⟩ := hleave
      rw [h] at hs
      exact absurd (Option.some.inj hs).symm hne
    · rfl
  have hhere : (client.request call).resource.name.toList ≠ ['.'] := by
    intro h
    rw [Climbs, h] at hclimbs
    exact absurd hclimbs.2 (by decide)
  rw [path, pushSegment_eq_finish ⟨hhere, hclimbs.1⟩, if_pos hclimbs.2, hfree,
    parent_of_leavable hleave]

/-- The target of each call is a path with the pairs of the call behind it, and the other side finds
both. The path has all segments of the base unless the name of the table escapes from it, and a name
that climbs takes the last of them away. -/
theorem target_contained_iff (hclient : ofSettings settings = .ok client)
    (hquery : client.base.query = none) (call : Call) :
    ((client.request call).target client.base).toList = pathText (client.path call) ++
        (if (client.request call).pairs.isEmpty then []
          else '?' :: formAppend [] (client.request call).pairs) ∧
      Target.read? ((client.request call).target client.base) =
        some ⟨client.path call, if (client.request call).pairs.isEmpty then none
          else some (client.request call).pairs⟩ ∧
      (Within (trunk client.base.path) (client.path call) ↔
        ¬ Escapes client.base.path (client.request call).resource.name.toList) ∧
      (Climbs (client.request call).resource.name.toList → Leavable (trunk client.base.path) →
        client.path call = (trunk client.base.path).dropLast ++ [[]]) := by
  obtain ⟨-, hinert⟩ := BaseUrl.path_of_parse (parse_of_ofSettings hclient)
  exact ⟨target_toList hquery call, Target.read?_target hinert hquery _ _,
    within_pushSegment_iff _ _, path_of_climbs⟩

def nested : Client :=
  ⟨⟨"http://localhost/rest/v1", "k", none, 1000⟩, ⟨["rest".toList, "v1".toList], none⟩⟩

theorem ofSettings_nested : ofSettings nested.settings = .ok nested := by
  decide +kernel

theorem target_contained_iff_nested :
    Target.read? ((nested.request (.select "users?x&y" none none)).target nested.base) =
        some ⟨["rest".toList, "v1".toList, "users%3Fx&y".toList], some [("select", "*")]⟩ ∧
      Within (trunk nested.base.path) (nested.path (.select "users?x&y" none none)) := by
  obtain ⟨-, hread, hwithin, -⟩ :=
    target_contained_iff ofSettings_nested rfl (.select "users?x&y" none none)
  refine ⟨hread.trans (by decide), hwithin.mpr ?_⟩
  rintro (h | h)
  · exact absurd h.1 (by decide)
  · exact absurd h.1 (by decide)

end Client

theorem parse_removal_above :
    Sql.parse "DELETE FROM \".\t.\" WHERE \"id\" = ?" [.ofNat 1] =
      .ok (.delete ".\t." ⟨"id", .ofNat 1⟩) :=
  Sql.Draft.parse_eq (.delete ".\t." ("id", .argument (.ofNat 1))) (Sql.spells_spaced _)

/-- A removal of rows of a table with a name of two periods and a tab is sent to the place above the
base. -/
theorem removal_leaves_base :
    ∃ request : Request,
      ((Engine.mk .standard (Client.nested.server recorder)).run
        "DELETE FROM \".\t.\" WHERE \"id\" = ?" [.ofNat 1] []).2 = [request] ∧
      request.target Client.nested.base = "/rest/?id=eq.1" ∧
      ¬ Within (trunk Client.nested.base.path)
        (pushSegment Client.nested.base.path request.resource.name.toList) := by
  refine ⟨Client.nested.request (.delete ".\t." ⟨"id", .ofNat 1⟩), ?_, by decide +kernel, ?_⟩
  · change ((Engine.mk .standard (Client.nested.server recorder)).ask .run _ _ _).2 = _
    rw [Engine.ask_of_parse .standard _ parse_removal_above rfl rfl]
    rfl
  · rw [within_pushSegment_iff]
    exact fun h => h (Or.inl ⟨by decide, "v1".toList, by decide⟩)

end DocQuery.Rest
