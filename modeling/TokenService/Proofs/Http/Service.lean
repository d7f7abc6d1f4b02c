import TokenService.Proofs.Issuer.Issued
import TokenService.Proofs.Lifetime

/-!
# What the service answers

One equation for each way in which the service can answer. A request is answered by its place and
then by its method; a request for a token by the user that its segment spells, then by the lifetime
that its query asks for, and last by the expiry of the token, which has to fit 64 bits. Whatever is
refused on the way is the fault of the request (`isOfRequest_of_grant`), so signing never fails.
-/

set_option autoImplicit false
set_option relaxedAutoImplicit false

namespace TokenService.Http.Service

open Decimal.Integer (Fits)

variable (issuer : Issuer) (time : Int)

/-! ### Tokens -/

section Grants

variable (user : String) {lifetime : Lifetime}

theorem grant_of_unresolved {refusal : Refusal} (hresolve : lifetime.resolve = .error refusal) :
    grant issuer time user lifetime = .error refusal := by
  rw [grant, hresolve]

theorem grant_of_not_fits {seconds : Int} (hresolve : lifetime.resolve = .ok seconds)
    (hfits : ¬Fits (time + seconds)) :
    grant issuer time user lifetime = .error (.outOfRange "duration") := by
  rw [grant, hresolve]
  exact issuer.issueAt_of_not_fits user hfits

theorem grant_of_fits {seconds : Int} (hresolve : lifetime.resolve = .ok seconds)
    (hfits : Fits (time + seconds)) : grant issuer time user lifetime =
      .ok (asciiText (issuer.segments (.standard user (time + seconds))).toBytes) := by
  rw [grant, hresolve]
  exact issuer.issueAt_of_fits user hfits

variable {issuer time user}

/-- A token that is handed out was issued for some lifetime. -/
theorem issued_of_grant {token : String} (h : grant issuer time user lifetime = .ok token) :
    ∃ seconds, Fits (time + seconds) ∧
      token = asciiText (issuer.segments (.standard user (time + seconds))).toBytes := by
  cases hresolve : lifetime.resolve with
  | error refusal =>
    rw [grant_of_unresolved issuer time user hresolve] at h
    cases h
  | ok seconds =>
    rw [grant, hresolve] at h
    obtain ⟨hfits, htoken⟩ := Issuer.issueAt_iff.mp h
    exact ⟨seconds, hfits, htoken.symm⟩

theorem isCompact_of_grant {token : String} (h : grant issuer time user lifetime = .ok token) :
    Token.IsCompact token := by
  obtain ⟨seconds, -, rfl⟩ := issued_of_grant h
  exact Token.isCompact_asciiText Issuer.inAlphabet_segments

/-- The signing of a token does not fail. -/
theorem isOfRequest_of_grant {refusal : Refusal}
    (h : grant issuer time user lifetime = .error refusal) : refusal.IsOfRequest := by
  cases hresolve : lifetime.resolve with
  | error cause =>
    rw [grant_of_unresolved issuer time user hresolve, Except.error.injEq] at h
    exact Lifetime.isOfRequest_of_resolve (h ▸ hresolve)
  | ok seconds =>
    by_cases hfits : Fits (time + seconds)
    · rw [grant_of_fits issuer time user hresolve hfits] at h
      cases h
    · rw [grant_of_not_fits issuer time user hresolve hfits, Except.error.injEq] at h
      rw [← h]
      exact nofun

end Grants

/-! ### Requests for a token -/

section Tokens

variable {user : String} {lifetime : Lifetime} {segment query : Bytes}

theorem handOut_of_refusal {refusal : Refusal}
    (h : grant issuer time user lifetime = .error refusal) :
    handOut issuer time user lifetime = .ofRefusal refusal := by
  rw [handOut, h]

theorem handOut_of_token {token : String} (h : grant issuer time user lifetime = .ok token) :
    handOut issuer time user lifetime = .quiet (.plain 200 token) := by
  rw [handOut, h]

theorem answerToken_of_unread (huser : user? segment = none) :
    answerToken issuer time segment query =
      .quiet (.plain 400 "Invalid URL: Invalid UTF-8 in `user`") := by
  rw [answerToken, huser]

theorem answerToken_of_repeated (huser : user? segment = some user) {name : String}
    (hquery : Lifetime.ofQuery query = .error name) : answerToken issuer time segment query =
      .quiet (.plain 400
        ("Failed to deserialize query string: duplicate field `" ++ name ++ "`")) := by
  rw [answerToken, huser]
  dsimp only
  rw [hquery]

theorem answerToken_of_read (huser : user? segment = some user)
    (hquery : Lifetime.ofQuery query = .ok lifetime) :
    answerToken issuer time segment query = handOut issuer time user lifetime := by
  rw [answerToken, huser]
  dsimp only
  rw [hquery]

/-- All that a request for a token is answered: why its target is at fault, why its lifetime is
refused, or the token. -/
theorem answerToken_cases (segment query : Bytes) :
    (∃ text, ¬Token.IsCompact text ∧
      answerToken issuer time segment query = .quiet (.plain 400 text)) ∨
    (∃ refusal : Refusal, refusal.IsOfRequest ∧
      answerToken issuer time segment query = .ofRefusal refusal) ∨
    ∃ token, Token.IsCompact token ∧
      answerToken issuer time segment query = .quiet (.plain 200 token) := by
  cases huser : user? segment with
  | none =>
    refine Or.inl ⟨_, ?_, answerToken_of_unread issuer time huser⟩
    exact Token.not_isCompact_of_space_mem (by decide +kernel)
  | some user =>
    cases hquery : Lifetime.ofQuery query with
    | error name =>
      refine Or.inl ⟨_, ?_, answerToken_of_repeated issuer time huser hquery⟩
      have hspace : ' ' ∈ "Failed to deserialize query string: duplicate field `".toList := by
        decide +kernel
      exact Token.not_isCompact_of_space_mem
        (Token.mem_toList_append_left (Token.mem_toList_append_left hspace))
    | ok lifetime =>
      rw [answerToken_of_read issuer time huser hquery]
      cases hgrant : grant issuer time user lifetime with
      | error refusal =>
        exact Or.inr (Or.inl ⟨refusal, isOfRequest_of_grant hgrant,
          handOut_of_refusal issuer time hgrant⟩)
      | ok token =>
        exact Or.inr (Or.inr ⟨token, isCompact_of_grant hgrant,
          handOut_of_token issuer time hgrant⟩)

end Tokens

/-! ### Requests -/

section Requests

variable {target : Target}

theorem answer_of_unknown (hroute : Route.ofPath? target.path = none) (method : Method) :
    answer issuer time ⟨method, target⟩ = .quiet (notFound target.path) := by
  rw [answer]
  dsimp only
  rw [hroute]

variable {route : Route} (hroute : Route.ofPath? target.path = some route)
include hroute

theorem answer_get :
    answer issuer time ⟨.get, target⟩ = answerRoute issuer time target.query route := by
  rw [answer]
  dsimp only
  rw [hroute]

theorem answer_head : answer issuer time ⟨.head, target⟩ =
    ⟨(answerRoute issuer time target.query route).response.withoutBody,
      (answerRoute issuer time target.query route).events⟩ := by
  rw [answer]
  dsimp only
  rw [hroute]

theorem answer_other : answer issuer time ⟨.other, target⟩ = .quiet notAllowed := by
  rw [answer]
  dsimp only
  rw [hroute]

end Requests

end TokenService.Http.Service
