import TokenService.Proofs.Decimal.Integer
import TokenService.Proofs.Http.Request
import TokenService.Proofs.Http.Route
import TokenService.Proofs.Http.Service
import TokenService.Session

/-!
# HEAD beside GET

HEAD asks what GET would be answered, without the body. Both are answered from one response, so they
cannot differ in the status, in the headers, or in what is reported (`answer_head_eq`). The length
among the headers is that of the body which GET receives, counted in bytes (`TellsLength`). Only a
place that is not found, by a path that begins with a slash, is answered without any header, and
then there is no body either (`tellsLength_or_empty`, `ofRequest_get_unknown`).
-/

set_option autoImplicit false
set_option relaxedAutoImplicit false

namespace TokenService

namespace Http

/-! ### Lengths -/

namespace Response

/-- Among the headers there is one length, the number of bytes of the body. -/
def TellsLength (response : Response) : Prop :=
  (response.headers.filter (·.1 = "content-length")).map Prod.snd =
    [response.body.utf8ByteSize.repr]

theorem lengthHeader_eq (body : String) :
    lengthHeader body = ("content-length", body.utf8ByteSize.repr) := by
  rw [lengthHeader, Decimal.Integer.text_natCast, Text.Utf8.utf8ByteSize_eq_length_encode]

theorem tellsLength_withLength {response : Response}
    (hheaders : ∀ header ∈ response.headers, header.1 ≠ "content-length") :
    response.withLength.TellsLength := by
  have hothers : response.headers.filter (·.1 = "content-length") = [] :=
    List.filter_eq_nil_iff.mpr fun header hheader ↦ by simpa using hheaders header hheader
  rw [TellsLength, withLength, lengthHeader_eq, List.filter_cons_of_pos (by rfl), hothers]
  rfl

theorem tellsLength_withBody (status : Nat) (kind body : String) :
    (withBody status kind body).TellsLength := by
  refine tellsLength_withLength fun header hheader ↦ ?_
  rw [List.mem_singleton.mp hheader]
  exact (by decide : "content-type" ≠ "content-length")

theorem TellsLength.eq_of_mem {response : Response} (h : response.TellsLength) {value : String}
    (hvalue : ("content-length", value) ∈ response.headers) :
    value = response.body.utf8ByteSize.repr := by
  have hmem : value ∈ (response.headers.filter (·.1 = "content-length")).map Prod.snd :=
    List.mem_map_of_mem (List.mem_filter.mpr ⟨hvalue, decide_eq_true rfl⟩)
  rw [h] at hmem
  exact List.mem_singleton.mp hmem

end Response

namespace Service

variable (issuer : Issuer) (time : Int)

theorem tellsLength_notFound_or_empty (path : Bytes) :
    (notFound path).TellsLength ∨ notFound path = ⟨404, [], ""⟩ := by
  rw [notFound]
  split
  · exact Or.inr rfl
  · rw [noLength, Response.lengthHeader_eq]
    exact Or.inl rfl

theorem tellsLength_answerRoute (query : Bytes) (route : Route) :
    (answerRoute issuer time query route).response.TellsLength := by
  cases route with
  | index => exact Response.tellsLength_withBody 200 "text/html" indexPage
  | token segment =>
    rw [answerRoute]
    rcases answerToken_cases issuer time segment query with
      ⟨text, -, h⟩ | ⟨refusal, -, h⟩ | ⟨token, -, h⟩
    · rw [h]
      exact Response.tellsLength_withBody 400 "text/plain" text
    · rw [h]
      exact Response.tellsLength_withBody refusal.status "text/plain" refusal.message
    · rw [h]
      exact Response.tellsLength_withBody 200 "text/plain" token

/-- The response to GET tells the length of its body, unless the place is unknown and there are
neither headers nor a body. -/
theorem tellsLength_or_empty (target : Target) :
    (answer issuer time ⟨.get, target⟩).response.TellsLength ∨
      ¬Route.IsPlace target.path ∧
        (answer issuer time ⟨.get, target⟩).response = ⟨404, [], ""⟩ := by
  cases hroute : Route.ofPath? target.path with
  | none =>
    have hplace : ¬Route.IsPlace target.path := fun hplace ↦ by
      obtain ⟨route, hother⟩ := Route.isPlace_iff.mp hplace
      cases hroute.symm.trans hother
    rw [answer_of_unknown issuer time hroute]
    exact (tellsLength_notFound_or_empty target.path).imp_right fun hempty ↦ ⟨hplace, hempty⟩
  | some route =>
    rw [answer_get issuer time hroute]
    exact Or.inl (tellsLength_answerRoute issuer time target.query route)

/-! ### HEAD -/

/-- HEAD is answered as GET is, but for the body. -/
theorem answer_head_eq (target : Target) : answer issuer time ⟨.head, target⟩ =
    ⟨(answer issuer time ⟨.get, target⟩).response.withoutBody,
      (answer issuer time ⟨.get, target⟩).events⟩ := by
  cases hroute : Route.ofPath? target.path with
  | none =>
    rw [answer_of_unknown issuer time hroute, answer_of_unknown issuer time hroute]
    rfl
  | some route => rw [answer_head issuer time hroute, answer_get issuer time hroute]

end Service

end Http

namespace Session

open Http
open Text.Utf8 (encode)

/-- What is no target makes no request with either method. Any target is answered for HEAD as for
GET, with the same status, the same headers and the same events, but without the body, for all
settings and at all times. A length in the headers is the number of bytes of the body that GET
receives, and there is one unless the place is unknown and there is nothing but this status. -/
theorem ofRequest_head (settings : Settings) (time : Int) (uri : String) :
    (∃ fault, Target.parse (encode uri) = .error fault ∧
      ofRequest settings.issuer time "GET" uri = .badRequest (.target fault) ∧
      ofRequest settings.issuer time "HEAD" uri = .badRequest (.target fault)) ∨
    ∃ target full bare, Target.parse (encode uri) = .ok target ∧
      ofRequest settings.issuer time "GET" uri = .answered full ∧
      ofRequest settings.issuer time "HEAD" uri = .answered bare ∧
      bare.response.status = full.response.status ∧
      bare.response.headers = full.response.headers ∧
      bare.response.body = "" ∧
      bare.events = full.events ∧
      (∀ value, ("content-length", value) ∈ full.response.headers →
        value = full.response.body.utf8ByteSize.repr) ∧
      (full.response.TellsLength ∨
        ¬Route.IsPlace target.path ∧ full.response = ⟨404, [], ""⟩) := by
  cases htarget : Target.parse (encode uri) with
  | error fault =>
    refine Or.inl ⟨fault, rfl, ?_, ?_⟩
    · rw [ofRequest, Request.parse_of_fault Method.parse?_get htarget]
    · rw [ofRequest, Request.parse_of_fault Method.parse?_head htarget]
  | ok target =>
    have hlength := Service.tellsLength_or_empty settings.issuer time target
    refine Or.inr ⟨target, Service.answer settings.issuer time ⟨.get, target⟩,
      Service.answer settings.issuer time ⟨.head, target⟩, rfl, ?_, ?_, ?_⟩
    · rw [ofRequest, Request.parse_get htarget]
    · rw [ofRequest, Request.parse_head htarget]
    rw [Service.answer_head_eq]
    refine ⟨rfl, rfl, rfl, rfl, fun value hvalue ↦ ?_, hlength⟩
    rcases hlength with htells | ⟨-, hempty⟩
    · exact htells.eq_of_mem hvalue
    · rw [hempty] at hvalue
      cases hvalue

/-- A place that is not found is answered without a length, although the body has one. -/
theorem ofRequest_get_unknown :
    ofRequest (⟨"a-perfectly-reasonable-secret-value", .v4 ⟨0, 0, 0, 0⟩ 3001⟩ : Settings).issuer
        1700000000 "GET" "/nope" = .answered ⟨⟨404, [], ""⟩, []⟩ ∧
      (⟨404, [], ""⟩ : Response).body.utf8ByteSize.repr = "0" ∧
      ("content-length", "0") ∉ (⟨404, [], ""⟩ : Response).headers ∧
      ¬(⟨404, [], ""⟩ : Response).TellsLength := by
  have hlength : ¬(⟨404, [], ""⟩ : Response).TellsLength := nofun
  exact ⟨by decide +kernel, rfl, nofun, hlength⟩

end Session

end TokenService
