import TokenService.Proofs.Http.Route
import TokenService.Proofs.Http.Service
import TokenService.Startup

/-!
# Requests for a token

What GET on the place of a user is answered, by what its segment and its query hold. The segment has
to spell a text, the query must not give a parameter twice, and the lifetime that it asks for has to
resolve and to end within 64 bits. In that case the body is the token that the configured issuer
makes for the user (`HandsOut`); otherwise the answer is of status 400, and where the lifetime is at
fault it says so in one event and in its body (`Refuses`).
-/

set_option autoImplicit false
set_option relaxedAutoImplicit false

namespace TokenService.Http.Service

open Decimal.Integer (Fits)
open Lifetime (timesGiven ofFirstValues)
open Text.Utf8 (encode)

/-- The answer of a configured service to GET. -/
def answerGet (settings : Settings) (time : Int) (path query : Bytes) : Answer :=
  answer settings.issuer time ⟨.get, path, query⟩

/-- An answer that hands out a token and has nothing to report. -/
structure HandsOut (answer : Answer) (token : String) : Prop where
  status : answer.response.status = 200
  contentType : ("content-type", "text/plain; charset=utf-8") ∈ answer.response.headers
  body : answer.response.body = token
  events : answer.events = []

/-- An answer that tells why a request is refused, and reports it once. -/
structure Refuses (answer : Answer) (refusal : Refusal) : Prop where
  status : answer.response.status = 400
  body : answer.response.body = refusal.message
  events : answer.events = [refusal.event]
  level : refusal.event.level = .debug

section Answers

variable {issuer : Issuer} {time : Int} {user : String} {lifetime : Lifetime}

theorem handsOut_of_token {token : String} (h : grant issuer time user lifetime = .ok token) :
    HandsOut (handOut issuer time user lifetime) token := by
  rw [handOut_of_token issuer time h]
  exact ⟨rfl, List.mem_cons_of_mem _ List.mem_cons_self, rfl, rfl⟩

theorem refuses_of_refusal {refusal : Refusal}
    (h : grant issuer time user lifetime = .error refusal) :
    Refuses (handOut issuer time user lifetime) refusal := by
  have hrequest := isOfRequest_of_grant h
  rw [handOut_of_refusal issuer time h]
  exact ⟨hrequest.status_eq, rfl, rfl, hrequest.level_eq⟩

end Answers

section Paths

variable {settings : Settings} {time : Int} {path segment query : Bytes}
  (hpath : Route.IsUserPath path segment)
include hpath

theorem answerGet_of_isUserPath :
    answerGet settings time path query = answerToken settings.issuer time segment query :=
  answer_get settings.issuer time (Route.ofPath?_eq_token_iff.mpr hpath)

theorem answerGet_of_unread (hsegment : ∀ user, encode user ≠ Percent.decode segment) :
    (answerGet settings time path query).response.status = 400 ∧
      ¬Token.IsCompact (answerGet settings time path query).response.body := by
  have huser : user? segment = none := Text.Utf8.decode?_eq_none_iff.mpr hsegment
  rw [answerGet_of_isUserPath hpath, answerToken_of_unread settings.issuer time huser]
  exact ⟨rfl, Token.not_isCompact_of_space_mem (by decide +kernel)⟩

variable {user : String} (hsegment : encode user = Percent.decode segment)
include hsegment

theorem answerGet_of_repeated
    (hrepeated : 1 < timesGiven query "seconds" ∨ 1 < timesGiven query "days") :
    (answerGet settings time path query).response.status = 400 := by
  have huser : user? segment = some user := Text.Utf8.decode?_eq_some_iff.mpr hsegment
  obtain ⟨name, hquery⟩ := Lifetime.exists_ofQuery_fault hrepeated
  rw [answerGet_of_isUserPath hpath, answerToken_of_repeated settings.issuer time huser hquery]
  rfl

theorem answerGet_of_le_one (hseconds : timesGiven query "seconds" ≤ 1)
    (hdays : timesGiven query "days" ≤ 1) : answerGet settings time path query =
      handOut settings.issuer time user (ofFirstValues query) := by
  have huser : user? segment = some user := Text.Utf8.decode?_eq_some_iff.mpr hsegment
  rw [answerGet_of_isUserPath hpath, answerToken_of_read settings.issuer time huser
    (Lifetime.ofQuery_of_le_one hseconds hdays)]

end Paths

/-- GET on the place of a user, for all settings and at all times. A segment that spells no text is
answered with status 400 and without a token, and so is a query that gives a parameter twice.
Otherwise the lifetime is refused if it does not resolve or ends beyond 64 bits, and else the token
for the user is handed out. -/
theorem answerGet_userPath (settings : Settings) (time : Int) (query : Bytes)
    {path segment : Bytes} (hpath : Route.IsUserPath path segment) :
    ((∀ user, encode user ≠ Percent.decode segment) →
      (answerGet settings time path query).response.status = 400 ∧
        ¬Token.IsCompact (answerGet settings time path query).response.body) ∧
    ∀ user, encode user = Percent.decode segment →
      (1 < timesGiven query "seconds" ∨ 1 < timesGiven query "days" →
        (answerGet settings time path query).response.status = 400) ∧
      (timesGiven query "seconds" ≤ 1 → timesGiven query "days" ≤ 1 →
        (∀ refusal, (ofFirstValues query).resolve = .error refusal →
          Refuses (answerGet settings time path query) refusal) ∧
        (∀ seconds, (ofFirstValues query).resolve = .ok seconds → ¬Fits (time + seconds) →
          Refuses (answerGet settings time path query) (.outOfRange "duration")) ∧
        ∀ seconds, (ofFirstValues query).resolve = .ok seconds → Fits (time + seconds) →
          ∃ token, settings.issuer.issueAt user seconds time = .ok token ∧
            HandsOut (answerGet settings time path query) token) := by
  refine ⟨answerGet_of_unread hpath, fun user hsegment ↦
    ⟨answerGet_of_repeated hpath hsegment, fun hseconds hdays ↦ ?_⟩⟩
  rw [answerGet_of_le_one hpath hsegment hseconds hdays]
  refine ⟨fun refusal hresolve ↦ ?_, fun seconds hresolve hfits ↦ ?_,
    fun seconds hresolve hfits ↦ ?_⟩
  · exact refuses_of_refusal (grant_of_unresolved _ _ _ hresolve)
  · exact refuses_of_refusal (grant_of_not_fits _ _ _ hresolve hfits)
  · exact ⟨_, settings.issuer.issueAt_of_fits user hfits,
      handsOut_of_token (grant_of_fits _ _ _ hresolve hfits)⟩

/-- A lifetime in seconds counts and the one in days beside it is not looked at, but a second number
of days is a fault even there. What is no number and what ends beyond 64 bits is refused. A byte
that is no text names nobody. -/
theorem answerGet_userPath_umlaut :
    let answered := answerGet ⟨"secret", .v4 ⟨0, 0, 0, 0⟩ 3001⟩ 1700000000
    let path := asciiBytes "/token/%C3%BC"
    Route.IsUserPath path (asciiBytes "%C3%BC") ∧
      (∃ token, (Issuer.mk (encode "secret")).issueAt "ü" 60 1700000000 = .ok token ∧
        HandsOut (answered path (asciiBytes "days=x&seconds=%2B60")) token) ∧
      (answered path (asciiBytes "days=1&seconds=60&%64ays=x")).response.status = 400 ∧
      Refuses (answered path (asciiBytes "days=x")) (.validation "days" "x") ∧
      Refuses (answered path (asciiBytes "seconds=9223372036854775807"))
        (.outOfRange "duration") ∧
      (answered (asciiBytes "/token/%FF") []).response.status = 400 := by
  intro answered path
  have hpath : Route.IsUserPath path (asciiBytes "%C3%BC") := by decide +kernel
  have hlost : Route.IsUserPath (asciiBytes "/token/%FF") (asciiBytes "%FF") := by decide +kernel
  have hsegment : encode "ü" = Percent.decode (asciiBytes "%C3%BC") := by decide +kernel
  have hunread : ∀ user, encode user ≠ Percent.decode (asciiBytes "%FF") :=
    Text.Utf8.decode?_eq_none_iff.mp (by decide +kernel)
  have huser := fun query ↦
    (answerGet_userPath ⟨"secret", .v4 ⟨0, 0, 0, 0⟩ 3001⟩ 1700000000 query hpath).2 "ü" hsegment
  have htoken := ((huser (asciiBytes "days=x&seconds=%2B60")).2 (by decide +kernel)
    (by decide +kernel)).2.2 60 (by decide +kernel) (by decide +kernel)
  have hword := ((huser (asciiBytes "days=x")).2 (by decide +kernel) (by decide +kernel)).1
    (.validation "days" "x") (by decide +kernel)
  have hlate := ((huser (asciiBytes "seconds=9223372036854775807")).2 (by decide +kernel)
    (by decide +kernel)).2.1 9223372036854775807 (by decide +kernel) (by decide +kernel)
  exact ⟨hpath, htoken, (huser _).1 (Or.inr (by decide +kernel)), hword, hlate,
    ((answerGet_userPath _ _ [] hlost).1 hunread).1⟩

end TokenService.Http.Service
