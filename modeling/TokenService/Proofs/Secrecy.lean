import TokenService.Proofs.Http.Service
import TokenService.Proofs.Settings
import TokenService.Startup

/-!
# The secret stays secret

Two services whose variables differ in the secret alone are compared. Either both fail to start, for
the same fault, or both start with settings and services that are shown alike, and they answer every
request alike (`Http.Answer.Alike`): the same status, headers, events and body, except that tokens
differ in their signatures, which always have the same length. Loading reports a short secret by its
length and nothing else (`load_conceals_secret`).
-/

set_option autoImplicit false
set_option relaxedAutoImplicit false

namespace TokenService

open Text.Utf8 (encode)

/-! ### Tokens -/

/-- Two tokens with the same header and payload, and with signatures of 43 characters. -/
def Token.DifferInSignature (first second : String) : Prop :=
  ∃ left right : Token.Segments, encode first = left.toBytes ∧ encode second = right.toBytes ∧
    left.InAlphabet ∧ right.InAlphabet ∧ left.header = right.header ∧
      left.payload = right.payload ∧ left.signature.length = 43 ∧ right.signature.length = 43

namespace Issuer

variable (first second : Issuer) (claims : Claims)

theorem encode_asciiText_segments :
    encode (asciiText (first.segments claims).toBytes) = (first.segments claims).toBytes :=
  Text.Utf8.encode_asciiText (Token.Segments.toNat_lt_of_mem_toBytes inAlphabet_segments)

/-- Tokens for the same claims differ in their signatures at most. -/
theorem differInSignature_segments :
    Token.DifferInSignature (asciiText (first.segments claims).toBytes)
      (asciiText (second.segments claims).toBytes) := by
  refine ⟨first.segments claims, second.segments claims, first.encode_asciiText_segments claims,
    second.encode_asciiText_segments claims, inAlphabet_segments, inAlphabet_segments,
    ?_, ?_, ?_, ?_⟩
  · rw [segments_header, segments_header]
  · rw [segments_payload, segments_payload]
  · rw [segments_signature, length_sign]
  · rw [segments_signature, length_sign]

end Issuer

/-- Tokens that differ in their signatures alone have the same length. -/
theorem Token.DifferInSignature.length_encode {first second : String}
    (h : Token.DifferInSignature first second) :
    (encode first).length = (encode second).length := by
  obtain ⟨left, right, hfirst, hsecond, -, -, hheader, hpayload, hleft, hright⟩ := h
  rw [hfirst, hsecond]
  simp only [Token.Segments.toBytes, Token.Segments.message, List.length_append, List.length_cons,
    hheader, hpayload, hleft, hright]

/-! ### Answers -/

namespace Http

/-- Answers that tell nothing about a secret: the same but for the signatures of tokens. -/
structure Answer.Alike (first second : Answer) : Prop where
  status : first.response.status = second.response.status
  headers : first.response.headers = second.response.headers
  body : first.response.body = second.response.body ∨
    Token.DifferInSignature first.response.body second.response.body
  events : first.events = second.events

theorem Answer.Alike.refl (answer : Answer) : Alike answer answer :=
  ⟨rfl, rfl, Or.inl rfl, rfl⟩

theorem Answer.Alike.withoutBody {first second : Answer} (h : Alike first second) :
    Alike ⟨first.response.withoutBody, first.events⟩
      ⟨second.response.withoutBody, second.events⟩ :=
  ⟨h.status, h.headers, Or.inl rfl, h.events⟩

/-- The length of a token is no secret. -/
theorem Answer.alike_of_differInSignature {first second : String}
    (h : Token.DifferInSignature first second) (status : Nat) :
    Alike (.quiet (.plain status first)) (.quiet (.plain status second)) where
  status := rfl
  headers := by
    change [Response.lengthHeader first, _] = [Response.lengthHeader second, _]
    rw [Response.lengthHeader, Response.lengthHeader, h.length_encode]
  body := Or.inr h
  events := rfl

namespace Service

variable (first second : Issuer) (time : Int)

theorem alike_handOut (user : String) (lifetime : Lifetime) :
    Answer.Alike (handOut first time user lifetime) (handOut second time user lifetime) := by
  cases hresolve : lifetime.resolve with
  | error refusal =>
    rw [handOut_of_refusal first time (grant_of_unresolved first time user hresolve),
      handOut_of_refusal second time (grant_of_unresolved second time user hresolve)]
    exact Answer.Alike.refl _
  | ok seconds =>
    by_cases hfits : Decimal.Integer.Fits (time + seconds)
    · rw [handOut_of_token first time (grant_of_fits first time user hresolve hfits),
        handOut_of_token second time (grant_of_fits second time user hresolve hfits)]
      exact Answer.alike_of_differInSignature (first.differInSignature_segments second _) 200
    · rw [handOut_of_refusal first time (grant_of_not_fits first time user hresolve hfits),
        handOut_of_refusal second time (grant_of_not_fits second time user hresolve hfits)]
      exact Answer.Alike.refl _

theorem alike_answerToken (segment query : Bytes) :
    Answer.Alike (answerToken first time segment query)
      (answerToken second time segment query) := by
  cases huser : user? segment with
  | none =>
    rw [answerToken_of_unread first time huser, answerToken_of_unread second time huser]
    exact Answer.Alike.refl _
  | some user =>
    cases hquery : Lifetime.ofQuery query with
    | error name =>
      rw [answerToken_of_repeated first time huser hquery,
        answerToken_of_repeated second time huser hquery]
      exact Answer.Alike.refl _
    | ok lifetime =>
      rw [answerToken_of_read first time huser hquery,
        answerToken_of_read second time huser hquery]
      exact alike_handOut first second time user lifetime

theorem alike_answerRoute (query : Bytes) (route : Route) :
    Answer.Alike (answerRoute first time query route) (answerRoute second time query route) := by
  cases route with
  | index => exact Answer.Alike.refl _
  | token segment => exact alike_answerToken first second time segment query

/-- Whatever is asked, the answers of two services tell nothing about their secrets. -/
theorem alike_answer (request : Request) :
    Answer.Alike (answer first time request) (answer second time request) := by
  obtain ⟨method, target⟩ := request
  cases hroute : Route.ofPath? target.path with
  | none =>
    rw [answer_of_unknown first time hroute method, answer_of_unknown second time hroute method]
    exact Answer.Alike.refl _
  | some route =>
    have halike := alike_answerRoute first second time target.query route
    cases method with
    | get =>
      rw [answer_get first time hroute, answer_get second time hroute]
      exact halike
    | head =>
      rw [answer_head first time hroute, answer_head second time hroute]
      exact halike.withoutBody
    | other =>
      rw [answer_other first time hroute, answer_other second time hroute]
      exact Answer.Alike.refl _

end Service

end Http

/-! ### Settings -/

/-- An issuer is shown without its secret. -/
theorem Issuer.describe_eq (first second : Issuer) : first.describe = second.describe :=
  rfl

theorem Issuer.describeService_eq (first second : Issuer) :
    first.describeService = second.describeService :=
  rfl

namespace Settings

/-- Sources of variables that differ in the secret alone. -/
def DifferInSecret (first second : String → Option String) : Prop :=
  ∀ name, name ≠ secretName → first name = second name

/-- Settings, and services with these settings, that tell nothing about their secrets. -/
structure Alike (first second : Settings) : Prop where
  listenAddress : first.listenAddress = second.listenAddress
  described : first.describe = second.describe
  issuerDescribed : first.issuer.describe = second.issuer.describe
  serviceDescribed : first.issuer.describeService = second.issuer.describeService
  answers : ∀ time request, Http.Answer.Alike (Http.Service.answer first.issuer time request)
    (Http.Service.answer second.issuer time request)

theorem describe_eq_of_listenAddress {first second : Settings}
    (h : first.listenAddress = second.listenAddress) : first.describe = second.describe := by
  obtain ⟨secret, address⟩ := first
  obtain ⟨other, address⟩ := second
  cases h
  rfl

theorem alike_of_listenAddress {first second : Settings}
    (h : first.listenAddress = second.listenAddress) : Alike first second where
  listenAddress := h
  described := describe_eq_of_listenAddress h
  issuerDescribed := Issuer.describe_eq _ _
  serviceDescribed := Issuer.describeService_eq _ _
  answers := fun time request ↦
    Http.Service.alike_answer first.issuer second.issuer time request

/-- Variables that differ in acceptable secrets alone make services that nobody can tell apart but
by the signatures of their tokens and by the reported length of a short secret. -/
theorem load_conceals_secret {first second : String → Option String}
    (hdiffer : DifferInSecret first second) {left right : String}
    (hleft : checkSecret (first secretName) = .ok left)
    (hright : checkSecret (second secretName) = .ok right) :
    (load.answered first).events = lengthEvents (encode left).length ∧
    (load.answered second).events = lengthEvents (encode right).length ∧
    ((∃ value, (load.answered first).outcome = .error (.invalidListenAddress value) ∧
        (load.answered second).outcome = .error (.invalidListenAddress value)) ∨
      ∃ one other, (load.answered first).outcome = .ok one ∧
        (load.answered second).outcome = .ok other ∧
          one.secret = left ∧ other.secret = right ∧ Alike one other) := by
  have haddress : first addressName = second addressName := hdiffer _ (by decide)
  rw [answered_load hleft, answered_load hright, haddress]
  refine ⟨rfl, rfl, ?_⟩
  dsimp only
  cases haddress : Address.parse? ((second addressName).getD defaultAddress) with
  | none =>
    rw [assemble_of_parse?_eq_none left haddress, assemble_of_parse?_eq_none right haddress]
    exact Or.inl ⟨_, rfl, rfl⟩
  | some address =>
    rw [assemble_of_parse? left haddress, assemble_of_parse? right haddress]
    exact Or.inr ⟨_, _, rfl, rfl, rfl, rfl, alike_of_listenAddress rfl⟩

/-- Variables of which the secret is the only one. -/
def onlySecret (secret name : String) : Option String :=
  if name = secretName then some secret else none

/-- A short secret and a long one make services that are alike at the default address. -/
theorem load_conceals_secret_default : ∃ first second : String → Option String,
    DifferInSecret first second ∧ checkSecret (first secretName) = .ok "secret" ∧
      checkSecret (second secretName) = .ok "a-perfectly-reasonable-secret-value" ∧
        ∃ one other, (load.answered first).outcome = .ok one ∧
          (load.answered second).outcome = .ok other ∧ Alike one other := by
  have hdiffer : DifferInSecret (onlySecret "secret")
      (onlySecret "a-perfectly-reasonable-secret-value") := by
    intro name hname
    rw [onlySecret, onlySecret, if_neg hname, if_neg hname]
  have hleft : checkSecret (onlySecret "secret" secretName) = .ok "secret" := by decide +kernel
  have hright : checkSecret (onlySecret "a-perfectly-reasonable-secret-value" secretName) =
      .ok "a-perfectly-reasonable-secret-value" := by decide +kernel
  have haddress : Address.parse? ((onlySecret "secret" addressName).getD defaultAddress) =
      some (.v4 ⟨0, 0, 0, 0⟩ 3001) := by decide +kernel
  refine ⟨_, _, hdiffer, hleft, hright, ?_⟩
  obtain ⟨-, -, ⟨value, hfault, -⟩ | ⟨one, other, hone, hother, -, -, halike⟩⟩ :=
    load_conceals_secret hdiffer hleft hright
  · rw [answered_load hleft] at hfault
    exact absurd ((assemble_of_parse? "secret" haddress).symm.trans hfault) nofun
  · exact ⟨one, other, hone, hother, halike⟩

end Settings

end TokenService
