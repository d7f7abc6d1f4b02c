import TokenService.Proofs.Http.Form
import TokenService.Proofs.Http.Request
import TokenService.Proofs.Http.Route
import TokenService.Proofs.Http.Service
import TokenService.Proofs.Http.Target
import TokenService.Session

/-!
# Spellings of a request

A user and a lifetime can be asked for in many ways (`SpellsUri`): behind a scheme and an authority
or without them, with any spelling of the user in the path, and with any spelling of the lifetime in
the query. All of them say the same. Each is parsed to a target that asks for this user and this
lifetime and for nothing else (`Target.AsksFor`), so they are all answered alike, and a token that
is handed out names the user (`Session.ofRequest_spelled`).
-/

set_option autoImplicit false
set_option relaxedAutoImplicit false

namespace TokenService

open Text.Utf8 (encode encodeChar)

namespace Http

/-- The targets that ask for a token of a user that lives for some lifetime. -/
inductive SpellsUri (user : String) (lifetime : Lifetime) : Bytes → Prop
  | intro {front segment tail : Bytes} {parts : List Bytes} (hfront : Target.IsFront front)
      (hsegment : Dialect.path.SpellsText user segment)
      (hparts : Form.SpellsLifetime lifetime parts)
      (htail : Target.IsTail ([Form.ampersand].intercalate parts) tail) :
      SpellsUri user lifetime (front ++ (Route.tokenPath ++ segment ++ tail))

/-- What a target asks for: its path names a user, and its query a lifetime. -/
def Target.AsksFor (target : Target) (user : String) (lifetime : Lifetime) : Prop :=
  ∃ segment, Route.IsUserPath target.path segment ∧ Service.user? segment = some user ∧
    Lifetime.ofQuery target.query = .ok lifetime

variable {user : String} {lifetime : Lifetime}

/-! ### Reading -/

section Segments

variable {segment : Bytes} (hsegment : Dialect.path.SpellsText user segment)
include hsegment

theorem user?_of_spells : Service.user? segment = some user := by
  rw [Service.user?, ← Dialect.read_path, Dialect.read_of_spellsText hsegment,
    Text.Utf8.decode?_encode]

theorem isUserPath_of_spells (huser : user ≠ "") :
    Route.IsUserPath (Route.tokenPath ++ segment) segment := by
  refine ⟨rfl, ?_, ?_⟩
  · rintro rfl
    have hread : encode "" = encode user := Dialect.read_of_spellsText hsegment
    exact huser (Text.Utf8.encode_injective hread.symm)
  · exact Dialect.not_mem_of_spellsText hsegment (by decide) (by decide) (by decide)
      (Or.inl (by decide))

theorem isPathByte_of_spells :
    ∀ byte ∈ Route.tokenPath ++ segment, Target.isPathByte byte = true := by
  intro byte hbyte
  rcases List.mem_append.mp hbyte with hbyte | hbyte
  · have hfront : ∀ byte ∈ Route.tokenPath, Target.isPathByte byte = true :=
      List.all_eq_true.mp (by decide)
    exact hfront byte hbyte
  · exact Dialect.isAllowed_of_spellsText hsegment byte hbyte

end Segments

/-- What spells a user and a lifetime is a target that asks for them. -/
theorem Target.parse_of_spells (huser : user ≠ "") {bytes : Bytes}
    (h : SpellsUri user lifetime bytes) (hlength : bytes.length ≤ greatestLength) :
    ∃ target, parse bytes = .ok target ∧ target.AsksFor user lifetime := by
  cases h with
  | @intro front segment tail parts hfront hsegment hparts htail =>
    refine ⟨⟨Route.tokenPath ++ segment, [Form.ampersand].intercalate parts⟩, ?_, segment,
      isUserPath_of_spells hsegment huser, user?_of_spells hsegment,
      Form.ofQuery_of_spells hparts⟩
    exact parse_append hfront (isPathByte_of_spells hsegment)
      (Form.isQueryByte_of_spells hparts) htail hlength

/-! ### Answers -/

namespace Service

variable (issuer : Issuer) (time : Int)

/-- Nothing but what a target asks for decides on the answer. -/
theorem answer_of_asksFor {target : Target} (h : target.AsksFor user lifetime) :
    answer issuer time ⟨.get, target⟩ = handOut issuer time user lifetime := by
  obtain ⟨segment, hpath, huser, hquery⟩ := h
  rw [answer_get issuer time (Route.ofPath?_eq_token_iff.mpr hpath)]
  exact answerToken_of_read issuer time huser hquery

/-- A token that is handed out is read back as claims about its user. -/
theorem decode_of_handOut (h : (handOut issuer time user lifetime).response.status = 200) :
    ∃ claims, issuer.decode (handOut issuer time user lifetime).response.body = .ok claims ∧
      claims.subject = user := by
  cases hgrant : grant issuer time user lifetime with
  | error refusal =>
    rw [handOut_of_refusal issuer time hgrant] at h
    have hstatus : refusal.status = 200 := h
    rw [(isOfRequest_of_grant hgrant).status_eq] at hstatus
    cases hstatus
  | ok token =>
    rw [handOut_of_token issuer time hgrant]
    obtain ⟨seconds, hfits, rfl⟩ := issued_of_grant hgrant
    exact ⟨_, issuer.decode_segments hfits, rfl⟩

end Service

end Http

namespace Session

open Http

theorem ofRequest_of_spells (issuer : Issuer) (time : Int) {user : String} {lifetime : Lifetime}
    (huser : user ≠ "") {uri : String} (huri : SpellsUri user lifetime (encode uri))
    (hlength : (encode uri).length ≤ Target.greatestLength) :
    ofRequest issuer time "GET" uri =
      .answered (Service.handOut issuer time user lifetime) := by
  obtain ⟨target, htarget, hasks⟩ := Target.parse_of_spells huser huri hlength
  rw [ofRequest, Request.parse_get htarget]
  dsimp only
  rw [Service.answer_of_asksFor issuer time hasks]

/-- However a user and a lifetime are spelled, GET asks for exactly these two. All spellings are
answered alike, for all settings and at all times, and a token that is handed out is one for the
user. -/
theorem ofRequest_spelled (settings : Settings) (time : Int) {user : String}
    {lifetime : Lifetime} (huser : user ≠ "") {uri : String}
    (huri : SpellsUri user lifetime (encode uri)) (hlength : (encode uri).length ≤ 65534) :
    (∃ target, Request.parse "GET" uri = .ok ⟨.get, target⟩ ∧
      target.AsksFor user lifetime) ∧
    ofRequest settings.issuer time "GET" uri =
      .answered (Service.handOut settings.issuer time user lifetime) ∧
    (∀ other, SpellsUri user lifetime (encode other) → (encode other).length ≤ 65534 →
      ofRequest settings.issuer time "GET" other = ofRequest settings.issuer time "GET" uri) ∧
    ∀ answer, ofRequest settings.issuer time "GET" uri = .answered answer →
      answer.response.status = 200 →
        ∃ claims, settings.issuer.decode answer.response.body = .ok claims ∧
          claims.subject = user := by
  have hanswer := ofRequest_of_spells settings.issuer time huser huri hlength
  obtain ⟨target, htarget, hasks⟩ := Target.parse_of_spells huser huri hlength
  refine ⟨⟨target, Request.parse_get htarget, hasks⟩, hanswer, fun other hother hbound ↦ ?_,
    fun answer hsame hstatus ↦ ?_⟩
  · rw [hanswer, ofRequest_of_spells settings.issuer time huser hother hbound]
  · rw [hanswer, Outcome.answered.injEq] at hsame
    rw [← hsame] at hstatus ⊢
    exact Service.decode_of_handOut settings.issuer time hstatus

/-- An encoded slash does not end the user, and a space may be a plus sign in a query. -/
theorem ofRequest_spelled_slash :
    SpellsUri "a/" ⟨none, some " 1"⟩ (encode "http://localhost/token/a%2f?x&&%64ays=+1#d") ∧
      ofRequest (⟨"secret", .v4 ⟨0, 0, 0, 0⟩ 3001⟩ : Settings).issuer 1700000000 "GET"
          "http://localhost/token/a%2f?x&&%64ays=+1#d" =
        .answered (Service.handOut (⟨"secret", .v4 ⟨0, 0, 0, 0⟩ 3001⟩ : Settings).issuer
          1700000000 "a/" ⟨none, some " 1"⟩) := by
  have hfront : Target.IsFront
      (asciiBytes "http" ++ (asciiBytes "://" ++ asciiBytes "localhost")) :=
    .authority (List.all_eq_true.mp (by decide)) (by decide) (List.all_eq_true.mp (by decide))
      (by decide) rfl
  have hsegment : Dialect.path.SpellsText "a/"
      (encodeChar 'a' ++ (([Percent.sign, ascii '2', ascii 'f'] ++ []) ++ [])) :=
    .cons (.raw (by decide))
      (.cons (.escaped (.cons (.digits (Or.inl rfl) (Or.inl rfl)) .nil)) .nil)
  have hname : Dialect.query.SpellsText "days"
      (([Percent.sign, ascii '6', ascii '4'] ++ []) ++ encode "ays") :=
    .cons (.escaped (.cons (.digits (Or.inl rfl) (Or.inl rfl)) .nil))
      (@Dialect.spellsText_encode Dialect.query "ays" (by decide))
  have hvalue : Dialect.query.SpellsText " 1" ([ascii '+'] ++ encode "1") :=
    .cons (.plus rfl rfl) (@Dialect.spellsText_encode Dialect.query "1" (by decide))
  have hplain : Dialect.query.SpellsText "x" (encode "x") :=
    Dialect.spellsText_encode (by decide)
  have hparts : Form.SpellsLifetime ⟨none, some " 1"⟩ [encode "x", [], _] :=
    .other (Form.isPart_of_spellsText hplain) (by decide) (by decide +kernel)
      (by decide +kernel) (.empty (.days (.intro hname hvalue) .nil))
  have huri : SpellsUri "a/" ⟨none, some " 1"⟩
      (encode "http://localhost/token/a%2f?x&&%64ays=+1#d") := by
    have hspelled := SpellsUri.intro hfront hsegment hparts
      (.marked _ (.marked (asciiBytes "d")))
    refine cast (congrArg _ ?_) hspelled
    decide +kernel
  exact ⟨huri, (ofRequest_spelled _ _ (by decide) huri (by decide +kernel)).2.1⟩

end Session

end TokenService
