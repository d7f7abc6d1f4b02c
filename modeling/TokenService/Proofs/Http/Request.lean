import Mathlib.Tactic.SplitIfs
import TokenService.Http.Request

/-!
# Which texts make a request

A request is made of the name of a method and of a target, each of which has to be one
(`Request.parse_iff`). The service knows two methods by their names, and takes every other name for
some other method.
-/

set_option autoImplicit false
set_option relaxedAutoImplicit false

namespace TokenService.Http

open Text.Utf8 (encode)

/-! ### Methods -/

namespace Method

section Names

variable {name : String} {method : Method} (h : parse? name = some method)
include h

theorem eq_get_iff_of_parse? : method = .get ↔ name = "GET" := by
  unfold parse? at h
  split_ifs at h with hname hget hhead
  · rw [← Option.some.inj h]
    exact ⟨fun _ ↦ hget, fun _ ↦ rfl⟩
  · rw [← Option.some.inj h]
    exact ⟨nofun, fun hname ↦ absurd hname hget⟩
  · rw [← Option.some.inj h]
    exact ⟨nofun, fun hname ↦ absurd hname hget⟩

/-- Two names are methods that the service knows; every other name is some other method. -/
theorem eq_other_iff_of_parse? : method = .other ↔ name ≠ "GET" ∧ name ≠ "HEAD" := by
  unfold parse? at h
  split_ifs at h with hname hget hhead
  · rw [← Option.some.inj h]
    exact ⟨nofun, fun hother ↦ absurd hget hother.1⟩
  · rw [← Option.some.inj h]
    exact ⟨nofun, fun hother ↦ absurd hhead hother.2⟩
  · rw [← Option.some.inj h]
    exact ⟨fun _ ↦ ⟨hget, hhead⟩, fun _ ↦ rfl⟩

end Names

theorem parse?_get : parse? "GET" = some .get := by
  decide

theorem parse?_head : parse? "HEAD" = some .head := by
  decide

end Method

/-! ### Requests -/

namespace Request

variable {name uri : String}

theorem parse_iff {request : Request} : parse name uri = .ok request ↔
    Method.parse? name = some request.method ∧ Target.parse (encode uri) = .ok request.target := by
  obtain ⟨method, target⟩ := request
  unfold parse
  grind

theorem parse_get {target : Target} (h : Target.parse (encode uri) = .ok target) :
    parse "GET" uri = .ok ⟨.get, target⟩ :=
  parse_iff.mpr ⟨Method.parse?_get, h⟩

theorem parse_head {target : Target} (h : Target.parse (encode uri) = .ok target) :
    parse "HEAD" uri = .ok ⟨.head, target⟩ :=
  parse_iff.mpr ⟨Method.parse?_head, h⟩

theorem parse_of_fault {method : Method} {fault : Target.Fault}
    (hmethod : Method.parse? name = some method)
    (htarget : Target.parse (encode uri) = .error fault) :
    parse name uri = .error (.target fault) := by
  rw [parse, hmethod]
  dsimp only
  rw [htarget]

end Request

end TokenService.Http
