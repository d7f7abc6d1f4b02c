import TokenService.Proofs.Token.Compact
import TokenService.Refusal

/-!
# Refusals of requests

All refusals but those of signing are the fault of the request (`IsOfRequest`). They have the status
400, an event for debugging only, and a text that nobody takes for a token.
-/

set_option autoImplicit false
set_option relaxedAutoImplicit false

namespace TokenService.Refusal

open Token

/-- The request is at fault, and not the signing of the token. -/
def IsOfRequest (refusal : Refusal) : Prop :=
  ∀ fault, refusal ≠ .signing fault

variable {refusal : Refusal} (hrefusal : refusal.IsOfRequest)
include hrefusal

theorem IsOfRequest.status_eq : refusal.status = 400 := by
  cases refusal with
  | validation parameter value => rfl
  | outOfRange parameter => rfl
  | signing fault => exact absurd rfl (hrefusal fault)

theorem IsOfRequest.level_eq : refusal.event.level = .debug := by
  cases refusal with
  | validation parameter value => rfl
  | outOfRange parameter => rfl
  | signing fault => exact absurd rfl (hrefusal fault)

/-- It is not reported as a failure to sign. -/
theorem IsOfRequest.message_ne : refusal.event.message ≠ "token signing failed" := by
  cases refusal with
  | validation parameter value =>
    exact (by decide : "rejected duration parameter" ≠ "token signing failed")
  | outOfRange parameter =>
    exact (by decide : "duration out of range" ≠ "token signing failed")
  | signing fault => exact absurd rfl (hrefusal fault)

theorem IsOfRequest.not_isCompact_message : ¬IsCompact refusal.message := by
  cases refusal with
  | validation parameter value =>
    have hfront : ' ' ∈ "invalid `".toList := by decide +kernel
    exact not_isCompact_of_space_mem (mem_toList_append_left (mem_toList_append_left
      (mem_toList_append_left (mem_toList_append_left hfront))))
  | outOfRange parameter =>
    have hback : ' ' ∈ "` is out of range".toList := by decide +kernel
    exact not_isCompact_of_space_mem (mem_toList_append_right hback)
  | signing fault => exact absurd rfl (hrefusal fault)

end TokenService.Refusal
