import TokenService.Proofs.Claims
import TokenService.Proofs.Json.LenientRecord

/-!
# Two readings of one payload

A payload is read twice: strictly for its claims and leniently for the registered ones. A list of
the three claims is no list of the five registered ones, so a payload that both readings accept is
an object (`object_of_parse`). Both readers walk through its members, and as long as the lenient one
keeps its place it takes the expiry and the subject that the strict one takes
(`agree_of_readField`). It cannot lose its place and still reach the end of the text
(`agree_of_readMembers`), so the two readings agree on the whole payload (`registered_of_parse`).
-/

set_option autoImplicit false
set_option relaxedAutoImplicit false

namespace TokenService

open Json Token

/-! ### Lists -/

theorem readMoment_of_readText {bytes rest : Bytes} {text : String}
    (h : readText bytes = .ok (text, rest)) : (Registered.readMoment bytes).2 = rest := by
  obtain ⟨others, hstart, hscalar⟩ := readScalar_of_readText h
  rw [Registered.readMoment, hstart]
  dsimp only
  rw [if_neg (by decide), if_neg (by decide), hscalar]

/-- A list where a subject could be is left where it starts. -/
theorem readSubject_of_readTextList {bytes rest : Bytes} {texts : List String}
    (h : readTextList bytes = .ok (texts, rest)) :
    ∃ others, Registered.readSubject bytes = (false, ascii '[' :: others) := by
  obtain ⟨others, hopen⟩ := Registered.exists_bracket_of_readTextList h
  exact ⟨others, Registered.readSubject_of_bracket hopen (Or.inl rfl)⟩

theorem nextElement_of_bracket (bytes : Bytes) (element : Element) :
    nextElement false (ascii '[' :: bytes) ≠ .ok element := by
  intro h
  cases element with
  | last rest =>
    have hclose := nextElement_last_iff.mp h
    rw [skipBlanks_cons (by decide), List.cons.injEq] at hclose
    exact absurd hclose.1 (by decide)
  | more rest =>
    obtain ⟨_, _, _, hcomma, -⟩ := nextElement_later_iff.mp h
    rw [skipBlanks_cons (by decide), List.cons.injEq] at hcomma
    exact absurd hcomma.1 (by decide)

/-- The list of the claims is not read as a list of registered claims: its third element would have
to be read to its end before the fourth. -/
theorem readElements_registered_of_claims {inner rest left : Bytes} {start claims : Claims}
    {first registered : Registered}
    (hclaims : Claims.record.readElements Claims.names true start inner = .ok (claims, rest)) :
    Registered.record.readElements Registered.names true first inner ≠ .ok (registered, left) := by
  intro hregistered
  obtain ⟨subject, _, afterSubject, hsubject, htext, hclaims⟩ :=
    Record.readElements_cons_iff.mp hclaims
  obtain ⟨_, htext, -⟩ := Claims.readClaim_sub_iff.mp htext
  obtain ⟨expiry, _, afterExpiry, hexpiry, hinteger, hclaims⟩ :=
    Record.readElements_cons_iff.mp hclaims
  obtain ⟨_, hinteger, -⟩ := Claims.readClaim_exp_iff.mp hinteger
  obtain ⟨channels, _, afterChannels, hchannels, htexts, -⟩ :=
    Record.readElements_cons_iff.mp hclaims
  obtain ⟨_, htexts, -⟩ := Claims.readClaim_channels_iff.mp htexts
  -- the first element is no moment, but it is read to its end
  obtain ⟨element, _, behind, helement, hexp, hregistered⟩ :=
    Record.readElements_cons_iff.mp hregistered
  rw [hsubject, Except.ok.injEq, Element.more.injEq] at helement
  have hbehind := (Registered.readClaim_exp _ _).symm.trans hexp
  rw [Except.ok.injEq, Prod.mk.injEq, ← helement, readMoment_of_readText htext] at hbehind
  -- the second stands where a start of validity could be
  obtain ⟨element, _, after, helement, hnbf, hregistered⟩ :=
    Record.readElements_cons_iff.mp hregistered
  rw [← hbehind.2, hexpiry, Except.ok.injEq, Element.more.injEq] at helement
  have hafter := (Registered.readClaim_nbf _ _).symm.trans hnbf
  rw [Except.ok.injEq, Prod.mk.injEq, ← helement,
    Registered.readMoment_of_readInteger hinteger] at hafter
  -- the third is a list and not passed over
  obtain ⟨element, _, last, helement, hsub, hregistered⟩ :=
    Record.readElements_cons_iff.mp hregistered
  rw [← hafter.2, hchannels, Except.ok.injEq, Element.more.injEq] at helement
  have hlast := (Registered.readClaim_sub _ _).symm.trans hsub
  obtain ⟨others, hopen⟩ := readSubject_of_readTextList htexts
  rw [Except.ok.injEq, Prod.mk.injEq, ← helement, hopen] at hlast
  obtain ⟨fourth, _, _, hfourth, -⟩ := Record.readElements_cons_iff.mp hregistered
  rw [← hlast.2] at hfourth
  exact nextElement_of_bracket others _ hfourth

/-- A payload that both readings accept is an object, and both walk through its members. -/
theorem object_of_parse {text : Bytes} {claims : Claims} {registered : Registered}
    (hclaims : Claims.parse text = .ok claims)
    (hregistered : Registered.parse text = .ok registered) :
    ∃ inner draft left lenient behind, skipBlanks text = ascii '\x7b' :: inner ∧
      Claims.record.readMembers true ⟨[], Claims.record.start⟩ inner = .ok (draft, left) ∧
        (∀ name ∈ Claims.names, name ∈ draft.seen) ∧ draft.value = claims ∧
          skipBlanks left = [] ∧
      Registered.record.readMembers true ⟨[], Registered.record.start⟩ inner =
        .ok (lenient, behind) ∧ lenient.value = registered ∧ skipBlanks behind = [] := by
  rcases Record.parse_iff.mp hclaims with ⟨inner, left, hopen, hclaims, -⟩ |
    ⟨inner, draft, left, hopen, hmembers, hrequired, hvalue, hend⟩
  · rcases Record.parse_iff.mp hregistered with ⟨inner', behind, hopen', hregistered, -⟩ |
      ⟨inner', lenient, behind, hopen', -⟩
    · rw [hopen, List.cons.injEq] at hopen'
      rw [← hopen'.2] at hregistered
      exact absurd hregistered (readElements_registered_of_claims hclaims)
    · rw [hopen, List.cons.injEq] at hopen'
      exact absurd hopen'.1 (by decide)
  · rcases Record.parse_iff.mp hregistered with ⟨inner', behind, hopen', -⟩ |
      ⟨inner', lenient, behind, hopen', hlenient, -, hregistered, hbehind⟩
    · rw [hopen, List.cons.injEq] at hopen'
      exact absurd hopen'.1 (by decide)
    · rw [hopen, List.cons.injEq] at hopen'
      rw [← hopen'.2] at hlenient
      exact ⟨inner, draft, left, lenient, behind, hopen, hmembers, hrequired, hvalue, hend,
        hlenient, hregistered, hbehind⟩

/-! ### Objects -/

theorem isLenient_registered : Registered.record.IsLenient where
  lands := fun hvalue hbehind hread ↦ Registered.lands_readClaim hvalue hbehind hread
  names := by decide +kernel

/-- The registered claims say of the claims read so far what they say themselves. -/
structure Agree (draft : Draft Claims) (lenient : Draft Registered) : Prop where
  expiry : "exp" ∈ draft.seen → lenient.value.expiry = Registered.momentOf draft.value.expiry
  subject : "sub" ∈ draft.seen → lenient.value.hasSubject = true

section Fields

variable {draft longer : Draft Claims} {lenient changed : Draft Registered} {name : String}
  {bytes rest left : Bytes} (hagree : Agree draft lenient)
  (hclaims : Claims.record.readField draft name bytes = .ok (longer, rest))
  (hregistered : Registered.record.readField lenient name bytes = .ok (changed, left))
include hagree hclaims hregistered

theorem agree_of_sub (hname : name = "sub") : Agree longer changed := by
  subst hname
  obtain ⟨others, _, hcolon, hread, rfl⟩ := Record.readField_of_mem (by decide) hclaims
  obtain ⟨others', _, hcolon', hlenient, rfl⟩ := Record.readField_of_mem (by decide) hregistered
  obtain ⟨subject, htext, rfl⟩ := Claims.readClaim_sub_iff.mp hread
  rw [hcolon, List.cons.injEq] at hcolon'
  have hsubject := (Registered.readClaim_sub _ _).symm.trans hlenient
  rw [← hcolon'.2, Registered.readSubject_of_readText htext, Except.ok.injEq,
    Prod.mk.injEq] at hsubject
  rw [← hsubject.1]
  refine ⟨fun hseen ↦ hagree.expiry ?_, fun _ ↦ rfl⟩
  exact (List.mem_cons.mp hseen).resolve_left (by decide)

theorem agree_of_exp (hname : name = "exp") : Agree longer changed := by
  subst hname
  obtain ⟨others, _, hcolon, hread, rfl⟩ := Record.readField_of_mem (by decide) hclaims
  obtain ⟨others', _, hcolon', hlenient, rfl⟩ := Record.readField_of_mem (by decide) hregistered
  obtain ⟨expiry, hinteger, rfl⟩ := Claims.readClaim_exp_iff.mp hread
  rw [hcolon, List.cons.injEq] at hcolon'
  have hmoment := (Registered.readClaim_exp _ _).symm.trans hlenient
  rw [← hcolon'.2, Registered.readMoment_of_readInteger hinteger, Except.ok.injEq,
    Prod.mk.injEq] at hmoment
  rw [← hmoment.1]
  refine ⟨fun _ ↦ rfl, fun hseen ↦ hagree.subject ?_⟩
  exact (List.mem_cons.mp hseen).resolve_left (by decide)

theorem agree_of_channels (hname : name = "channels") : Agree longer changed := by
  subst hname
  obtain ⟨others, _, -, hread, rfl⟩ := Record.readField_of_mem (by decide) hclaims
  obtain ⟨channels, -, rfl⟩ := Claims.readClaim_channels_iff.mp hread
  rw [Record.readField_of_not_mem (by decide) hregistered]
  refine ⟨fun hseen ↦ hagree.expiry ?_, fun hseen ↦ hagree.subject ?_⟩
  · exact (List.mem_cons.mp hseen).resolve_left (by decide)
  · exact (List.mem_cons.mp hseen).resolve_left (by decide)

/-- A member that is no claim changes neither the expiry nor the subject. -/
theorem agree_of_other (hname : name ∉ Claims.names) : Agree longer changed := by
  rw [Record.readField_of_not_mem hname hclaims]
  rcases Record.readField_iff.mp hregistered with ⟨-, -, value, hmember, rfl⟩ | ⟨-, -, rfl⟩
  · obtain ⟨others, -, hread⟩ := readMember_iff.mp hmember
    have hsame : value.expiry = lenient.value.expiry ∧
        value.hasSubject = lenient.value.hasSubject := by
      have hexp : name ≠ "exp" := fun hexp ↦ hname (hexp ▸ by decide)
      have hsub : name ≠ "sub" := fun hsub ↦ hname (hsub ▸ by decide)
      change Registered.readClaim _ _ _ = _ at hread
      unfold Registered.readClaim at hread
      grind
    exact ⟨fun hseen ↦ hsame.1.trans (hagree.expiry hseen),
      fun hseen ↦ hsame.2.trans (hagree.subject hseen)⟩
  · exact hagree

theorem agree_of_readField : Agree longer changed := by
  by_cases hname : name ∈ Claims.names
  · rcases List.mem_cons.mp hname with hsub | hname
    · exact agree_of_sub hagree hclaims hregistered hsub
    rcases List.mem_cons.mp hname with hexp | hname
    · exact agree_of_exp hagree hclaims hregistered hexp
    · exact agree_of_channels hagree hclaims hregistered (List.mem_singleton.mp hname)
  · exact agree_of_other hagree hclaims hregistered hname

end Fields

/-- The two readings of the members of an object go hand in hand if both reach the end of the text.
-/
theorem agree_of_readMembers {first : Bool} {draft whole : Draft Claims}
    {lenient kept : Draft Registered} {bytes left behind : Bytes} (hagree : Agree draft lenient)
    (hclaims : Claims.record.readMembers first draft bytes = .ok (whole, left))
    (hleft : skipBlanks left = [])
    (hregistered : Registered.record.readMembers first lenient bytes = .ok (kept, behind))
    (hbehind : skipBlanks behind = []) : Agree whole kept := by
  fun_induction Claims.record.readMembers first draft bytes generalizing lenient with
  | case1 => cases hclaims
  | case2 first draft bytes rest hnext =>
    rw [Except.ok.injEq, Prod.mk.injEq] at hclaims
    rcases Record.readMembers_iff.mp hregistered with ⟨-, rfl⟩ | ⟨_, _, _, _, hkey, -⟩
    · exact hclaims.1 ▸ hagree
    · rw [hnext] at hkey
      cases hkey
  | case3 => cases hclaims
  | case4 first draft bytes name afterKey hnext longer others hfield ih =>
    rcases Record.readMembers_iff.mp hregistered with ⟨hlast, -⟩ |
      ⟨name', afterKey', changed, reached, hkey, hlenient, hmore⟩
    · rw [hnext] at hlast
      cases hlast
    · rw [hnext, Except.ok.injEq, Member.key.injEq] at hkey
      rw [← hkey.1, ← hkey.2] at hlenient
      have hobject : Passes .ending [.object] others left :=
        Record.passes_of_readMembers Claims.skippedAlike_readClaim rfl hclaims .done
      have hlexes : Lexes left := .of_skipBlanks (hleft ▸ .nil)
      have hmembers : skipBlanks others ≠ [] := by
        cases hobject with
        | nextMember hcomma => simp [hcomma]
        | endObject hclose => simp [hclose]
      obtain ⟨value, hcolon, hvalue⟩ :=
        Record.passes_of_readField Claims.skippedAlike_readClaim hfield .done
      have hplace : reached = others := Record.eq_of_lands isLenient_registered
        (Record.lands_readField isLenient_registered hlenient hcolon (passes_iff.mp hvalue)
          (.of_passes hobject hlexes)) (.of_passes hobject hlexes) hmembers hmore hbehind
      exact ih (agree_of_readField hagree hfield hlenient) hclaims (hplace ▸ hmore)

/-- The expiry and the subject that a payload is checked for are those of its claims. -/
theorem registered_of_parse {text : Bytes} {claims : Claims} {registered : Registered}
    (hclaims : Claims.parse text = .ok claims)
    (hregistered : Registered.parse text = .ok registered) :
    registered.expiry = Registered.momentOf claims.expiry ∧ registered.hasSubject = true := by
  obtain ⟨inner, draft, left, lenient, behind, -, hmembers, hrequired, rfl, hleft, hlenient, rfl,
    hbehind⟩ := object_of_parse hclaims hregistered
  have hagree : Agree ⟨[], Claims.record.start⟩ ⟨[], Registered.record.start⟩ :=
    { expiry := fun hnone ↦ absurd hnone List.not_mem_nil
      subject := fun hnone ↦ absurd hnone List.not_mem_nil }
  have hwhole := agree_of_readMembers hagree hmembers hleft hlenient hbehind
  exact ⟨hwhole.expiry (hrequired "exp" (by decide)),
    hwhole.subject (hrequired "sub" (by decide))⟩

end TokenService
