import TokenService.Proofs.Http.Routing
import TokenService.Proofs.Issuer.Issued
import TokenService.Session

/-!
# Runs of a session

A session goes from step to step with its service and its clock (`reached`), and every step adds one
outcome behind those of the steps before it (`takeAll_append`, `exists_takeAll_eq`). Two things hold
along every run. Nothing that comes of a step is a failure to sign, whatever the service is
configured with and whatever it is asked for (`isRegular_outcomes`). And since only configuring
changes the service (`issuer_take`), a token that was issued is read back from then on: `decode`
gives its claims at any time, and `verify` as long as the clock has not passed their expiry
(`takeAll_issue_read`).
-/

set_option autoImplicit false
set_option relaxedAutoImplicit false

namespace TokenService.Session

open Decimal.Integer (Fits)

variable {session : Session} {earlier : List Outcome} {steps : List Step}

/-! ### Steps in a row -/

/-- The session after some steps. -/
def reached (session : Session) (earlier : List Outcome) : List Step → Session
  | [] => session
  | step :: steps =>
    let (next, outcome) := session.take earlier step
    reached next (earlier ++ [outcome]) steps

theorem takeAll_cons (session : Session) (earlier : List Outcome) (step : Step)
    (steps : List Step) : takeAll session earlier (step :: steps) =
      takeAll (session.take earlier step).1 (earlier ++ [(session.take earlier step).2]) steps :=
  rfl

theorem takeAll_append (session : Session) (earlier : List Outcome) (steps others : List Step) :
    takeAll session earlier (steps ++ others) =
      takeAll (reached session earlier steps) (takeAll session earlier steps) others := by
  induction steps generalizing session earlier with
  | nil => rfl
  | cons step steps ih => exact ih _ _

/-- Each step has one outcome, and those of the steps before it stay as they are. -/
theorem exists_takeAll_eq (session : Session) (earlier : List Outcome) (steps : List Step) :
    ∃ added, takeAll session earlier steps = earlier ++ added ∧ added.length = steps.length := by
  induction steps generalizing session earlier with
  | nil => exact ⟨[], (List.append_nil earlier).symm, rfl⟩
  | cons step steps ih =>
    obtain ⟨added, htaken, hlength⟩ := ih (session.take earlier step).1
      (earlier ++ [(session.take earlier step).2])
    refine ⟨(session.take earlier step).2 :: added, ?_, congrArg (· + 1) hlength⟩
    rw [takeAll_cons, htaken, List.append_assoc, List.singleton_append]

theorem getElem?_takeAll {index : Nat} {outcome : Outcome} (h : earlier[index]? = some outcome) :
    (takeAll session earlier steps)[index]? = some outcome := by
  obtain ⟨added, htaken, -⟩ := exists_takeAll_eq session earlier steps
  obtain ⟨hlength, -⟩ := List.getElem?_eq_some_iff.mp h
  rw [htaken, List.getElem?_append_left hlength, h]

/-! ### The service -/

section Reading

variable (source : Source) (secret : Option Bytes)
  (read : Issuer → String → Except Token.Rejection Claims)

theorem fst_readToken : (session.readToken earlier source secret read).1 = session := by
  unfold readToken
  split
  · rfl
  · split
    · rfl
    · rfl

end Reading

/-- Only configuring changes the service. -/
theorem issuer_take {step : Step} (hstep : ∀ environment, step ≠ .configure environment) :
    (session.take earlier step).1.issuer = session.issuer := by
  cases step with
  | configure environment => exact absurd rfl (hstep environment)
  | setClock time => rfl
  | advance seconds => rfl
  | request method target => rfl
  | issue user duration => rfl
  | issueAt user duration time => rfl
  | verify source secret => exact congrArg issuer (fst_readToken source secret _)
  | decode source secret => exact congrArg issuer (fst_readToken source secret _)

theorem issuer_reached (hsteps : ∀ environment, Step.configure environment ∉ steps) :
    (reached session earlier steps).issuer = session.issuer := by
  induction steps generalizing session earlier with
  | nil => rfl
  | cons step steps ih =>
    rw [reached, ih fun environment hmem ↦ hsteps environment (List.mem_cons_of_mem step hmem)]
    exact issuer_take fun environment heq ↦ hsteps environment (heq ▸ List.mem_cons_self)

/-! ### No failure to sign -/

/-- An outcome that is no failure to sign. -/
def Outcome.IsRegular : Outcome → Prop
  | .answered answer =>
    answer.response.status ≠ 500 ∧ ∀ event ∈ answer.events, event.message ≠ "token signing failed"
  | .refused refusal => refusal.IsOfRequest
  | _ => True

section Regular

variable (issuer : Issuer) (time : Int)

theorem isRegular_ofRequest (method target : String) :
    (ofRequest issuer time method target).IsRegular := by
  unfold ofRequest
  split
  · trivial
  · next request _ => exact Http.Service.status_ne_of_answer issuer time request

theorem isRegular_ofIssue (user : String) (duration : Int) :
    (ofIssue (issuer.issueAt user duration time)).IsRegular := by
  by_cases hfits : Fits (time + duration)
  · rw [issuer.issueAt_of_fits user hfits]
    trivial
  · rw [issuer.issueAt_of_not_fits user hfits]
    exact nofun

end Regular

theorem isRegular_withService {act : Issuer → Outcome} (hact : ∀ issuer, (act issuer).IsRegular) :
    (session.withService act).2.IsRegular := by
  rw [withService]
  cases session.issuer with
  | none => trivial
  | some issuer => exact hact issuer

theorem isRegular_ofReading (read : Except Token.Rejection Claims) :
    (ofReading read).IsRegular := by
  cases read with
  | error rejection => trivial
  | ok claims => trivial

theorem isRegular_readToken (source : Source) (secret : Option Bytes)
    (read : Issuer → String → Except Token.Rejection Claims) :
    (session.readToken earlier source secret read).2.IsRegular := by
  unfold readToken
  split
  · trivial
  · next token _ =>
    split
    · next secret => exact isRegular_ofReading (read ⟨secret⟩ token)
    · exact isRegular_withService fun issuer ↦ isRegular_ofReading (read issuer token)

/-- What comes of a step is no failure to sign, however the session got there. -/
theorem isRegular_take (session : Session) (earlier : List Outcome) (step : Step) :
    (session.take earlier step).2.IsRegular := by
  cases step with
  | configure environment =>
    rw [take, configure]
    split
    · trivial
    · trivial
  | setClock time => trivial
  | advance seconds => trivial
  | request method target =>
    exact isRegular_withService fun issuer ↦ isRegular_ofRequest issuer session.time method target
  | issue user duration =>
    exact isRegular_withService fun issuer ↦ isRegular_ofIssue issuer session.time user duration
  | issueAt user duration time =>
    exact isRegular_withService fun issuer ↦ isRegular_ofIssue issuer time user duration
  | verify source secret => exact isRegular_readToken source secret _
  | decode source secret => exact isRegular_readToken source secret _

theorem isRegular_takeAll (hearlier : ∀ outcome ∈ earlier, outcome.IsRegular) :
    ∀ outcome ∈ takeAll session earlier steps, outcome.IsRegular := by
  induction steps generalizing session earlier with
  | nil => exact hearlier
  | cons step steps ih =>
    refine ih fun outcome houtcome ↦ ?_
    rcases List.mem_append.mp houtcome with hbefore | hlast
    · exact hearlier outcome hbefore
    · rw [List.mem_singleton.mp hlast]
      exact isRegular_take session earlier step

/-- In no session does the service fail, signing included. -/
theorem isRegular_outcomes (time : Int) (steps : List Step) :
    ∀ outcome ∈ outcomes time steps, outcome.IsRegular :=
  isRegular_takeAll nofun

/-! ### Tokens read later -/

section Tokens

variable {issuer : Issuer} (hissuer : session.issuer = some issuer)
include hissuer

theorem take_issue {user : String} {duration : Int} (hfits : Fits (session.time + duration)) :
    session.take earlier (.issue user duration) = (session, .issued
      (asciiText (issuer.segments (.standard user (session.time + duration))).toBytes)) := by
  rw [take, withService, hissuer, Option.map_some, issuer.issueAt_of_fits user hfits]
  rfl

theorem readToken_of_issued {index : Nat} {token : String}
    (hearlier : earlier[index]? = some (.issued token))
    (read : Issuer → String → Except Token.Rejection Claims) :
    session.readToken earlier (.step index) none read =
      (session, ofReading (read issuer token)) := by
  rw [readToken, Source.token?, hearlier]
  dsimp only [Option.bind_some, Outcome.token?]
  rw [withService, hissuer]
  rfl

end Tokens

/-- A token that a step issues is read back by later steps, unless the service is configured anew in
between: `decode` gives its claims, which are standard ones, and so does `verify` while the clock
has not passed their expiry. After that `verify` reports that the token has expired. -/
theorem takeAll_issue_read {issuer : Issuer} (hissuer : session.issuer = some issuer)
    (user : String) {duration : Int} (hfits : Fits (session.time + duration)) {between : List Step}
    (hbetween : ∀ environment, Step.configure environment ∉ between) :
    ∃ claims : Claims, claims.isStandard = true ∧ claims.subject = user ∧
      claims.expiry = session.time + duration ∧
      let past := Step.issue user duration :: between
      let now := (reached session earlier past).time
      takeAll session earlier (past ++ [Step.decode (.step earlier.length) none]) =
        takeAll session earlier past ++ [Outcome.accepted claims] ∧
      (0 ≤ now → now ≤ claims.expiry →
        takeAll session earlier (past ++ [Step.verify (.step earlier.length) none]) =
          takeAll session earlier past ++ [Outcome.accepted claims]) ∧
      (0 ≤ claims.expiry → claims.expiry < now →
        takeAll session earlier (past ++ [Step.verify (.step earlier.length) none]) =
          takeAll session earlier past ++ [Outcome.rejected .expired]) := by
  refine ⟨.standard user (session.time + duration), Claims.isStandard_iff.mpr rfl, rfl, rfl, ?_⟩
  intro past now
  have hclaims : Fits (Claims.standard user (session.time + duration)).expiry := hfits
  have htaken : (takeAll session earlier past)[earlier.length]? = some (.issued
      (asciiText (issuer.segments (.standard user (session.time + duration))).toBytes)) := by
    rw [takeAll_cons, take_issue hissuer hfits]
    exact getElem?_takeAll List.getElem?_concat_length
  have hsame : (reached session earlier past).issuer = some issuer := by
    rw [reached, take_issue hissuer hfits]
    exact (issuer_reached hbetween).trans hissuer
  have hread := readToken_of_issued hsame htaken
  refine ⟨?_, fun hnow hlate ↦ ?_, fun hexpiry hlate ↦ ?_⟩
  · rw [takeAll_append, takeAll, take, hread, Issuer.decode_segments issuer hclaims]
    rfl
  · rw [takeAll_append, takeAll, take, hread, Issuer.verify_segments issuer hclaims hnow hlate]
    rfl
  · rw [takeAll_append, takeAll, take, hread, Issuer.verify_segments_of_lt issuer hclaims hlate,
      if_pos hexpiry]
    rfl

end TokenService.Session
