import Mathlib.Tactic.SplitIfs
import TokenService.Http.Route

/-!
# Which paths are places

`Route.ofPath?` looks at a path as it is written. The index is the path of one slash; the place of a
user is `/token/` and behind it one segment, not empty and without a slash (`IsUserPath`); nothing
else is a place (`isPlace_iff`).
-/

set_option autoImplicit false
set_option relaxedAutoImplicit false

namespace TokenService.Http.Route

/-- The path of the user whose name a segment spells. -/
def IsUserPath (path segment : Bytes) : Prop :=
  path = tokenPath ++ segment ∧ segment ≠ [] ∧ Target.slash ∉ segment

instance decidableIsUserPath (path segment : Bytes) : Decidable (IsUserPath path segment) :=
  inferInstanceAs (Decidable (path = tokenPath ++ segment ∧ segment ≠ [] ∧ Target.slash ∉ segment))

variable {path segment : Bytes}

theorem isSegment_iff : isSegment segment = true ↔ segment ≠ [] ∧ Target.slash ∉ segment := by
  rw [isSegment, Bool.and_eq_true, Bool.not_eq_true', Bool.not_eq_true',
    List.isEmpty_eq_false_iff, List.contains_eq_mem, decide_eq_false_iff_not]

/-- A user's path goes on behind the slash that is all of the index. -/
theorem ne_index_of_isUserPath (hpath : IsUserPath path segment) : path ≠ [Target.slash] := by
  rintro rfl
  have hlength := congrArg List.length hpath.1
  have hfront : tokenPath.length = 7 := rfl
  rw [List.length_append, hfront, List.length_singleton] at hlength
  omega

theorem ofPath?_eq_index_iff : ofPath? path = some .index ↔ path = [Target.slash] := by
  unfold ofPath?
  split_ifs with hindex htoken
  · exact ⟨fun _ ↦ hindex, fun _ ↦ rfl⟩
  · exact ⟨nofun, fun h ↦ absurd h hindex⟩
  · exact ⟨nofun, fun h ↦ absurd h hindex⟩

theorem ofPath?_eq_token_iff :
    ofPath? path = some (.token segment) ↔ IsUserPath path segment := by
  constructor
  · intro h
    unfold ofPath? at h
    split_ifs at h with hindex htoken
    · cases h
    · rw [Bool.and_eq_true, isSegment_iff, List.isPrefixOf_iff_prefix] at htoken
      obtain ⟨⟨rest, hrest⟩, hsegment⟩ := htoken
      have hdrop : path.drop tokenPath.length = rest := by
        rw [← hrest, List.drop_left]
      rw [hdrop] at h hsegment
      rw [Option.some.injEq, token.injEq] at h
      rw [h] at hrest hsegment
      exact ⟨hrest.symm, hsegment⟩
  · intro hpath
    have hdrop : path.drop tokenPath.length = segment := by
      rw [hpath.1, List.drop_left]
    have hplace : (tokenPath.isPrefixOf path && isSegment segment) = true := by
      rw [Bool.and_eq_true, isSegment_iff, List.isPrefixOf_iff_prefix]
      exact ⟨⟨segment, hpath.1.symm⟩, hpath.2⟩
    unfold ofPath?
    rw [if_neg (ne_index_of_isUserPath hpath), hdrop, if_pos hplace]

/-- A path that the service knows: that of the index, or that of a user. -/
def IsPlace (path : Bytes) : Prop :=
  path = [Target.slash] ∨ ∃ segment, IsUserPath path segment

theorem isPlace_iff : IsPlace path ↔ ∃ route, ofPath? path = some route := by
  constructor
  · rintro (hindex | ⟨segment, huser⟩)
    · exact ⟨.index, ofPath?_eq_index_iff.mpr hindex⟩
    · exact ⟨.token segment, ofPath?_eq_token_iff.mpr huser⟩
  · rintro ⟨route, hroute⟩
    cases route with
    | index => exact Or.inl (ofPath?_eq_index_iff.mp hroute)
    | token segment => exact Or.inr ⟨segment, ofPath?_eq_token_iff.mp hroute⟩

instance decidableIsPlace (path : Bytes) : Decidable (IsPlace path) :=
  decidable_of_iff ((ofPath? path).isSome = true) (Option.isSome_iff_exists.trans isPlace_iff.symm)

end TokenService.Http.Route
