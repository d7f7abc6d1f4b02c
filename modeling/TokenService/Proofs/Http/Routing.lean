import TokenService.Proofs.Http.Request
import TokenService.Proofs.Http.Route
import TokenService.Proofs.Http.Service
import TokenService.Startup

/-!
# Which status a request gets

The path as it is written decides first: what is no place is not found. Then the method decides:
a place knows GET and HEAD only. What is left is answered with 200 or 400, the index always with
200. There is no failure on the side of the service, and tokens are given to GET on the place of a
user only (`answer_routing`).
-/

set_option autoImplicit false
set_option relaxedAutoImplicit false

namespace TokenService.Http

namespace Service

variable (issuer : Issuer) (time : Int)

/-! ### Places -/

/-- An answer without a failure on the side of the service. -/
structure IsRegular (answer : Answer) : Prop where
  status : answer.response.status = 200 ∨ answer.response.status = 400
  events : ∀ event ∈ answer.events, event.message ≠ "token signing failed"

theorem isRegular_answerToken (segment query : Bytes) :
    IsRegular (answerToken issuer time segment query) := by
  rcases answerToken_cases issuer time segment query with
    ⟨text, -, h⟩ | ⟨refusal, hrequest, h⟩ | ⟨token, -, h⟩
  · rw [h]
    exact ⟨Or.inr rfl, nofun⟩
  · rw [h]
    refine ⟨Or.inr hrequest.status_eq, fun event hevent ↦ ?_⟩
    rw [List.mem_singleton.mp hevent]
    exact hrequest.message_ne
  · rw [h]
    exact ⟨Or.inl rfl, nofun⟩

/-- The body is a token exactly if all went well. -/
theorem isCompact_answerToken_iff (segment query : Bytes) :
    Token.IsCompact (answerToken issuer time segment query).response.body ↔
      (answerToken issuer time segment query).response.status = 200 := by
  rcases answerToken_cases issuer time segment query with
    ⟨text, htext, h⟩ | ⟨refusal, hrequest, h⟩ | ⟨token, htoken, h⟩
  · rw [h]
    exact iff_of_false htext (by decide : ¬(400 : Nat) = 200)
  · rw [h]
    refine iff_of_false hrequest.not_isCompact_message fun hstatus ↦ ?_
    have hother : refusal.status = 200 := hstatus
    rw [hrequest.status_eq] at hother
    cases hother
  · rw [h]
    exact iff_of_true htoken rfl

theorem isRegular_answerRoute (query : Bytes) (route : Route) :
    IsRegular (answerRoute issuer time query route) := by
  cases route with
  | index => exact ⟨Or.inl rfl, nofun⟩
  | token segment => exact isRegular_answerToken issuer time segment query

theorem not_isCompact_indexPage : ¬Token.IsCompact indexPage := by
  have hspace : ' ' ∈ "<p>Includes server-side subscriptions for channels: ".toList := by
    decide +kernel
  exact Token.not_isCompact_of_space_mem (Token.mem_toList_append_left
    (Token.mem_toList_append_left (Token.mem_toList_append_right hspace)))

/-! ### Requests -/

section Requests

variable {request : Request}

theorem answer_of_not_isPlace (hplace : ¬Route.IsPlace request.target.path) :
    answer issuer time request = .quiet (notFound request.target.path) := by
  cases hroute : Route.ofPath? request.target.path with
  | none => exact answer_of_unknown issuer time hroute request.method
  | some route => exact absurd (Route.isPlace_iff.mpr ⟨route, hroute⟩) hplace

variable (hplace : Route.IsPlace request.target.path)
include hplace

theorem answer_of_other (hmethod : request.method = .other) :
    answer issuer time request = .quiet notAllowed := by
  obtain ⟨route, hroute⟩ := Route.isPlace_iff.mp hplace
  obtain ⟨method, target⟩ := request
  subst hmethod
  exact answer_other issuer time hroute

/-- GET and HEAD are answered alike, but for the body. -/
theorem answer_of_known (hmethod : request.method ≠ .other) :
    ∃ route, Route.ofPath? request.target.path = some route ∧
      (answer issuer time request).response.status =
        (answerRoute issuer time request.target.query route).response.status ∧
      (answer issuer time request).events =
        (answerRoute issuer time request.target.query route).events ∧
      (answer issuer time request).response.body =
        if request.method = .get then
          (answerRoute issuer time request.target.query route).response.body
        else "" := by
  obtain ⟨route, hroute⟩ := Route.isPlace_iff.mp hplace
  obtain ⟨method, target⟩ := request
  refine ⟨route, hroute, ?_⟩
  cases method with
  | get =>
    rw [answer_get issuer time hroute]
    exact ⟨rfl, rfl, rfl⟩
  | head =>
    rw [answer_head issuer time hroute]
    exact ⟨rfl, rfl, rfl⟩
  | other => exact absurd rfl hmethod

end Requests

/-- A token is given to GET on the place of a user, and to nothing else. -/
theorem isCompact_answer_iff {request : Request} :
    Token.IsCompact (answer issuer time request).response.body ↔
      request.method = .get ∧ (∃ segment, Route.IsUserPath request.target.path segment) ∧
        (answer issuer time request).response.status = 200 := by
  constructor
  · intro h
    by_cases hplace : Route.IsPlace request.target.path
    · by_cases hmethod : request.method = .other
      · rw [answer_of_other _ _ hplace hmethod] at h
        exact absurd h Token.not_isCompact_empty
      · obtain ⟨route, hroute, hstatus, -, hbody⟩ := answer_of_known issuer time hplace hmethod
        rw [hbody] at h
        split at h
        · next hget =>
          cases route with
          | index => exact absurd h not_isCompact_indexPage
          | token segment =>
            refine ⟨hget, ⟨segment, Route.ofPath?_eq_token_iff.mp hroute⟩, ?_⟩
            rw [hstatus]
            exact (isCompact_answerToken_iff issuer time segment _).mp h
        · exact absurd h Token.not_isCompact_empty
    · rw [answer_of_not_isPlace _ _ hplace] at h
      exact absurd h Token.not_isCompact_empty
  · rintro ⟨hget, ⟨segment, hpath⟩, hstatus⟩
    obtain ⟨method, target⟩ := request
    obtain rfl : method = .get := hget
    rw [answer_get issuer time (Route.ofPath?_eq_token_iff.mpr hpath)] at hstatus ⊢
    exact (isCompact_answerToken_iff issuer time segment _).mpr hstatus

/-- Whatever is answered, no failure of the service is. -/
theorem status_ne_of_answer (request : Request) :
    (answer issuer time request).response.status ≠ 500 ∧
      ∀ event ∈ (answer issuer time request).events, event.message ≠ "token signing failed" := by
  by_cases hplace : Route.IsPlace request.target.path
  · by_cases hmethod : request.method = .other
    · rw [answer_of_other _ _ hplace hmethod]
      exact ⟨by decide, nofun⟩
    · obtain ⟨route, -, hstatus, hevents, -⟩ := answer_of_known issuer time hplace hmethod
      have hregular := isRegular_answerRoute issuer time request.target.query route
      rw [hstatus, hevents]
      refine ⟨?_, hregular.events⟩
      rcases hregular.status with h | h
      · rw [h]
        decide
      · rw [h]
        decide
  · rw [answer_of_not_isPlace _ _ hplace]
    exact ⟨(by decide : (404 : Nat) ≠ 500), nofun⟩

/-- The path as it is written and then the method decide on the status, for all settings and at all
times: 404 for what is no place, 405 for a method that is neither GET nor HEAD, and else 200 or 400,
which is 200 at the index. The service never fails: its key signs all claims, so no grant is refused
for the signing. The body is a token exactly for GET on the place of a user, where the status is
200. -/
theorem answer_routing (settings : Settings) (time : Int) {method target : String}
    {request : Request} (hrequest : Request.parse method target = .ok request) :
    (¬Route.IsPlace request.target.path →
      (answer settings.issuer time request).response.status = 404) ∧
    (Route.IsPlace request.target.path →
      (method ≠ "GET" → method ≠ "HEAD" →
        (answer settings.issuer time request).response.status = 405) ∧
      (method = "GET" ∨ method = "HEAD" →
        ((answer settings.issuer time request).response.status = 200 ∨
          (answer settings.issuer time request).response.status = 400) ∧
        (request.target.path = asciiBytes "/" →
          (answer settings.issuer time request).response.status = 200))) ∧
    (answer settings.issuer time request).response.status ≠ 500 ∧
    (∀ event ∈ (answer settings.issuer time request).events,
      event.message ≠ "token signing failed") ∧
    (∀ claims fault, Issuer.signedBy settings.issuer.key claims ≠ .error fault) ∧
    (∀ user lifetime fault,
      grant settings.issuer time user lifetime ≠ .error (.signing fault)) ∧
    (Token.IsCompact (answer settings.issuer time request).response.body ↔
      method = "GET" ∧ (∃ segment, Route.IsUserPath request.target.path segment) ∧
        (answer settings.issuer time request).response.status = 200) := by
  have hname := (Request.parse_iff.mp hrequest).1
  obtain ⟨hstatus, hevents⟩ := status_ne_of_answer settings.issuer time request
  refine ⟨fun hplace ↦ ?_, fun hplace ↦ ⟨fun hget hhead ↦ ?_, fun hknown ↦ ?_⟩, hstatus, hevents,
    fun claims fault hfault ↦ (Issuer.signedBy_eq_error_iff.mp hfault).1 rfl,
    fun user lifetime fault hgrant ↦ isOfRequest_of_grant hgrant fault rfl, ?_⟩
  · rw [answer_of_not_isPlace _ _ hplace]
    rfl
  · rw [answer_of_other _ _ hplace ((Method.eq_other_iff_of_parse? hname).mpr ⟨hget, hhead⟩)]
    rfl
  · have hmethod : request.method ≠ .other := by
      intro hother
      obtain ⟨hget, hhead⟩ := (Method.eq_other_iff_of_parse? hname).mp hother
      exact hknown.elim hget hhead
    obtain ⟨route, hroute, hanswer, -, -⟩ :=
      answer_of_known settings.issuer time hplace hmethod
    rw [hanswer]
    refine ⟨(isRegular_answerRoute settings.issuer time request.target.query route).status,
      fun hpath ↦ ?_⟩
    rw [Route.ofPath?_eq_index_iff.mpr hpath, Option.some.injEq] at hroute
    rw [← hroute]
    rfl
  · rw [isCompact_answer_iff settings.issuer time, Method.eq_get_iff_of_parse? hname]

/-- A place with a slash too many is not found, a place does not know PUT whatever its segment and
query hold, and GET is answered with a token for a day. -/
theorem answer_routing_alice : ∃ settings : Settings, settings = ⟨"secret", .v4 ⟨0, 0, 0, 0⟩ 3001⟩ ∧
    (∃ request, Request.parse "GET" "/token/alice/" = .ok request ∧
      (answer settings.issuer 1700000000 request).response.status = 404) ∧
    (∃ request, Request.parse "PUT" "/token/%FF?days" = .ok request ∧
      (answer settings.issuer 1700000000 request).response.status = 405) ∧
    ∃ request, Request.parse "GET" "/token/alice?days=1" = .ok request ∧
      (answer settings.issuer 1700000000 request).response.status = 200 ∧
      Token.IsCompact (answer settings.issuer 1700000000 request).response.body := by
  have hlost : Request.parse "GET" "/token/alice/" =
      .ok ⟨.get, asciiBytes "/token/alice/", []⟩ := by decide +kernel
  have hput : Request.parse "PUT" "/token/%FF?days" =
      .ok ⟨.other, asciiBytes "/token/%FF", asciiBytes "days"⟩ := by decide +kernel
  have hget : Request.parse "GET" "/token/alice?days=1" =
      .ok ⟨.get, asciiBytes "/token/alice", asciiBytes "days=1"⟩ := by decide +kernel
  have hplace : ¬Route.IsPlace (asciiBytes "/token/alice/") := by decide +kernel
  have huser : Route.IsUserPath (asciiBytes "/token/%FF") (asciiBytes "%FF") := by decide +kernel
  have halice : Route.IsUserPath (asciiBytes "/token/alice") (asciiBytes "alice") := by
    decide +kernel
  have hstatus : (answer (⟨"secret", .v4 ⟨0, 0, 0, 0⟩ 3001⟩ : Settings).issuer 1700000000
      ⟨.get, asciiBytes "/token/alice", asciiBytes "days=1"⟩).response.status = 200 := by
    decide +kernel
  exact ⟨_, rfl, ⟨_, hlost, (answer_routing _ _ hlost).1 hplace⟩,
    ⟨_, hput, ((answer_routing _ _ hput).2.1 (Or.inr ⟨_, huser⟩)).1 (by decide) (by decide)⟩,
    _, hget, hstatus,
    (answer_routing _ _ hget).2.2.2.2.2.2.mpr ⟨rfl, ⟨_, halice⟩, hstatus⟩⟩

end Service

end TokenService.Http
