import TokenService.Json.Keep
import TokenService.Proofs.Json.Astray

/-!
# Where lenient readers end

A lenient reader of a well-formed value ends in one of four places (`Lands`): behind the value, at a
comma or a bracket of an object within it, within one of its strings, or in front of something that
no list or object goes on with. `lands_passKept` shows so for values that would have been kept. Only
the first leaves what follows in its place.
-/

set_option autoImplicit false
set_option relaxedAutoImplicit false

namespace TokenService.Json

variable {bytes rest behind : Bytes} {byte : UInt8} {frames outer : List Frame}

/-! ### Places -/

/-- No list and no object goes on or ends with what comes next. -/
def Stuck (bytes : Bytes) : Prop :=
  ∀ byte rest, skipBlanks bytes = byte :: rest →
    byte ≠ ascii ',' ∧ byte ≠ ascii ']' ∧ byte ≠ ascii '\x7d'

/-- A place behind a member of an object within a value that ends in front of `behind`. -/
def Nested (behind bytes : Bytes) : Prop :=
  ∃ outer, Passes .ending (.object :: outer) bytes behind

/-- The places where a lenient reader of a value may end, if the value ends in front of `behind`. -/
inductive Lands (behind : Bytes) : Bytes → Prop
  | exact : Lands behind behind
  | nested {bytes : Bytes} (hnested : Nested behind bytes) : Lands behind bytes
  | inside {bytes : Bytes} (hinside : Inside bytes) : Lands behind bytes
  | stuck {bytes : Bytes} (hstuck : Stuck bytes) : Lands behind bytes

theorem Stuck.of_skipBlanks_eq (hstart : skipBlanks bytes = byte :: rest)
    (hbyte : byte ≠ ascii ',' ∧ byte ≠ ascii ']' ∧ byte ≠ ascii '\x7d') : Stuck bytes := by
  intro other others hother
  rw [hstart, List.cons.injEq] at hother
  rwa [← hother.1]

theorem Stuck.of_cons (hblank : isBlank byte = false)
    (hbyte : byte ≠ ascii ',' ∧ byte ≠ ascii ']' ∧ byte ≠ ascii '\x7d') : Stuck (byte :: rest) :=
  .of_skipBlanks_eq (skipBlanks_cons hblank rest) hbyte

theorem Stuck.skipBlanks (h : Stuck bytes) : Stuck (skipBlanks bytes) := by
  intro byte rest hstart
  rw [skipBlanks_skipBlanks] at hstart
  exact h byte rest hstart

theorem Stuck.of_startsWithDigit (h : startsWithDigit bytes = true) : Stuck bytes := by
  cases bytes with
  | nil => cases h
  | cons byte rest =>
    have hdigit : isDigit byte = true := by simpa [startsWithDigit] using h
    exact .of_cons (isBlank_of_isDigit hdigit) ⟨ne_ascii_of_isDigit hdigit (by decide),
      ne_ascii_of_isDigit hdigit (by decide), ne_ascii_of_isDigit hdigit (by decide)⟩

/-- No value begins with a comma or a closing bracket. -/
theorem exists_start_of_passes (h : Passes .value frames bytes behind) :
    ∃ byte rest, skipBlanks bytes = byte :: rest ∧
      byte ≠ ascii ',' ∧ byte ≠ ascii ']' ∧ byte ≠ ascii '\x7d' := by
  cases h with
  | emptyList hopen => exact ⟨_, _, hopen, by decide⟩
  | list hopen => exact ⟨_, _, hopen, by decide⟩
  | emptyObject hopen => exact ⟨_, _, hopen, by decide⟩
  | object hopen => exact ⟨_, _, hopen, by decide⟩
  | scalar hstart _ _ hscalar =>
    refine ⟨_, _, hstart, ?_, ?_, ?_⟩ <;> rintro rfl <;> cases hscalar

theorem Stuck.of_passes (h : Passes .value frames bytes behind) : Stuck bytes := by
  obtain ⟨byte, rest, hstart, hbyte⟩ := exists_start_of_passes h
  exact .of_skipBlanks_eq hstart hbyte

theorem Lands.of_givenUp (h : GivenUp bytes behind) (hbehind : Lexes behind) :
    Lands behind bytes := by
  rcases h with rfl | hdigit | hstring
  · exact .exact
  · exact .stuck (.of_startsWithDigit hdigit)
  · exact .inside ⟨behind, hstring, hbehind⟩

/-! ### Values given up -/

theorem afterList_comma (h : skipBlanks bytes = ascii ',' :: rest) :
    afterList bytes = skipBlanks rest := by
  rw [afterList, h]
  exact (if_neg (by decide)).trans (if_pos rfl)

theorem afterList_end (h : skipBlanks bytes = ascii ']' :: rest) : afterList bytes = rest := by
  rw [afterList, h]
  exact if_pos rfl

theorem afterObject_comma (h : skipBlanks bytes = ascii ',' :: rest) :
    afterObject bytes = ascii ',' :: rest := by
  rw [afterObject, h]
  exact if_neg (by decide)

theorem afterObject_end (h : skipBlanks bytes = ascii '\x7d' :: rest) :
    afterObject bytes = rest := by
  rw [afterObject, h]
  exact if_pos rfl

theorem Stuck.afterList (h : Stuck bytes) : Stuck (afterList bytes) := by
  unfold Json.afterList
  split
  · intro _ _ hnone
    cases hnone
  · next byte rest hstart =>
    obtain ⟨hcomma, hlist, hobject⟩ := h byte rest hstart
    rw [if_neg hlist, if_neg hcomma]
    exact .of_cons (isBlank_of_skipBlanks hstart) ⟨hcomma, hlist, hobject⟩

theorem Stuck.afterObject (h : Stuck bytes) : Stuck (afterObject bytes) := by
  unfold Json.afterObject
  split
  · intro _ _ hnone
    cases hnone
  · next byte rest hstart =>
    obtain ⟨hcomma, hlist, hobject⟩ := h byte rest hstart
    rw [if_neg hobject]
    exact .of_cons (isBlank_of_skipBlanks hstart) ⟨hcomma, hlist, hobject⟩

theorem Stuck.giveUp (h : Stuck bytes) : Stuck (giveUp frames bytes) := by
  induction frames generalizing bytes with
  | nil => exact h
  | cons frame outer ih =>
    cases frame with
    | list => exact ih h.afterList
    | object => exact ih h.afterObject

theorem Inside.afterList (h : Inside bytes) : Inside (afterList bytes) := by
  unfold Json.afterList
  split
  · next hnone => exact absurd hnone h.skipBlanks_ne_nil
  · next byte rest hstart =>
    have hcons := hstart ▸ h.skipBlanks
    split
    · next hclose => exact hcons.of_cons (hclose ▸ by decide) (hclose ▸ by decide)
    split
    · next hcomma =>
      exact (hcons.of_cons (hcomma ▸ by decide) (hcomma ▸ by decide)).skipBlanks
    · exact hcons

theorem Inside.afterObject (h : Inside bytes) : Inside (afterObject bytes) := by
  unfold Json.afterObject
  split
  · next hnone => exact absurd hnone h.skipBlanks_ne_nil
  · next byte rest hstart =>
    have hcons := hstart ▸ h.skipBlanks
    split
    · next hclose => exact hcons.of_cons (hclose ▸ by decide) (hclose ▸ by decide)
    · exact hcons

theorem Inside.giveUp (h : Inside bytes) : Inside (giveUp frames bytes) := by
  induction frames generalizing bytes with
  | nil => exact h
  | cons frame outer ih =>
    cases frame with
    | list => exact ih h.afterList
    | object => exact ih h.afterObject

/-- In front of a comma within an object nothing but lists can be given up, and a list takes the
comma away. -/
theorem lands_giveUp_of_comma {left : Bytes} (hcomma : skipBlanks bytes = ascii ',' :: rest)
    (hkey : skipKey rest = .ok ((), left))
    (hbehind : Passes .value (.object :: outer) left behind) :
    Lands behind (giveUp frames bytes) := by
  induction frames generalizing bytes with
  | nil => exact .nested ⟨outer, .nextMember hcomma hkey hbehind⟩
  | cons frame frames ih =>
    cases frame with
    | list =>
      obtain ⟨others, -, hstart, -⟩ := skipKey_iff.mp hkey
      rw [giveUp, afterList_comma hcomma]
      exact .stuck (Stuck.of_skipBlanks_eq hstart (by decide)).skipBlanks.giveUp
    | object =>
      rw [giveUp, afterObject_comma hcomma]
      exact ih (skipBlanks_cons (by decide) rest)

theorem lands_giveUp (h : Passes .ending frames bytes behind) :
    Lands behind (giveUp frames bytes) := by
  induction frames generalizing bytes with
  | nil =>
    cases h with
    | done => exact .exact
  | cons frame outer ih =>
    cases h with
    | nextElement hcomma hbehind =>
      rw [giveUp, afterList_comma hcomma]
      exact .stuck (Stuck.of_passes hbehind).skipBlanks.giveUp
    | endList hclose hbehind =>
      rw [giveUp, afterList_end hclose]
      exact ih hbehind
    | nextMember hcomma hkey hbehind =>
      rw [giveUp, afterObject_comma hcomma]
      exact lands_giveUp_of_comma (skipBlanks_cons (by decide) _) hkey hbehind
    | endObject hclose hbehind =>
      rw [giveUp, afterObject_end hclose]
      exact ih hbehind

theorem lands_giveUp_of_givenUp {left : Bytes} (h : GivenUp bytes left)
    (hpasses : Passes .ending frames left behind) (hbehind : Lexes behind) :
    Lands behind (giveUp frames bytes) := by
  rcases h with rfl | hdigit | hstring
  · exact lands_giveUp hpasses
  · exact .stuck (Stuck.of_startsWithDigit hdigit).giveUp
  · exact .inside (Inside.giveUp ⟨left, hstring, .of_passes hpasses hbehind⟩)

/-! ### Values that would have been kept -/

/-- What a reader that would keep a well-formed value is in front of, at each of its turns. -/
inductive Awaits : Turn → List Frame → Bytes → Bytes → Prop
  | value {frames : List Frame} {bytes behind : Bytes}
      (hvalue : Passes .value frames bytes behind) : Awaits .value frames bytes behind
  | ending {frames : List Frame} {bytes behind : Bytes}
      (hending : Passes .ending frames bytes behind) : Awaits (.next false) frames bytes behind
  | emptyList {outer : List Frame} {bytes rest behind : Bytes}
      (hclose : skipBlanks bytes = ascii ']' :: rest) (hbehind : Passes .ending outer rest behind) :
      Awaits (.next true) (.list :: outer) bytes behind
  | list {outer : List Frame} {bytes rest behind : Bytes} {byte : UInt8}
      (hfirst : skipBlanks bytes = byte :: rest) (hmore : byte ≠ ascii ']')
      (hbehind : Passes .value (.list :: outer) (byte :: rest) behind) :
      Awaits (.next true) (.list :: outer) bytes behind
  | emptyObject {outer : List Frame} {bytes rest behind : Bytes}
      (hclose : skipBlanks bytes = ascii '\x7d' :: rest)
      (hbehind : Passes .ending outer rest behind) :
      Awaits (.next true) (.object :: outer) bytes behind
  | object {outer : List Frame} {bytes left behind : Bytes}
      (hkey : skipKey bytes = .ok ((), left))
      (hbehind : Passes .value (.object :: outer) left behind) :
      Awaits (.next true) (.object :: outer) bytes behind

theorem Awaits.of_bracket {bracket : UInt8} (h : Awaits .value frames bytes behind)
    (hstart : skipBlanks bytes = bracket :: rest)
    (hbracket : bracket = ascii '[' ∨ bracket = ascii '\x7b') :
    Awaits (.next true) ((if bracket = ascii '[' then .list else .object) :: frames) rest
      behind := by
  cases h with
  | value hvalue =>
    cases hvalue with
    | emptyList hopen hclose hbehind =>
      rw [hopen, List.cons.injEq] at hstart
      rw [← hstart.1, ← hstart.2, if_pos rfl]
      exact .emptyList hclose hbehind
    | list hopen hfirst hmore hbehind =>
      rw [hopen, List.cons.injEq] at hstart
      rw [← hstart.1, ← hstart.2, if_pos rfl]
      exact .list hfirst hmore hbehind
    | emptyObject hopen hclose hbehind =>
      rw [hopen, List.cons.injEq] at hstart
      rw [← hstart.1, ← hstart.2, if_neg (by decide)]
      exact .emptyObject hclose hbehind
    | object hopen hfirst hmore hkey hbehind =>
      rw [hopen, List.cons.injEq] at hstart
      rw [← hstart.1, ← hstart.2, if_neg (by decide)]
      refine .object ?_ hbehind
      rwa [← hfirst, skipKey_skipBlanks] at hkey
    | scalar hother hlist hobject =>
      rw [hother, List.cons.injEq] at hstart
      rw [← hstart.1] at hbracket
      exact absurd hbracket (not_or.mpr ⟨hlist, hobject⟩)

theorem Awaits.of_scalar (h : Awaits .value frames bytes behind)
    (hstart : skipBlanks bytes = byte :: rest)
    (hscalar : ¬(byte = ascii '[' ∨ byte = ascii '\x7b')) :
    ∃ left, skipScalar (byte :: rest) = .ok ((), left) ∧ Passes .ending frames left behind := by
  have hother : ∀ {bracket : UInt8} {others : Bytes}, skipBlanks bytes = bracket :: others →
      bracket = ascii '[' ∨ bracket = ascii '\x7b' → False := by
    intro bracket others hopen hbracket
    rw [hopen, List.cons.injEq] at hstart
    exact hscalar (hstart.1 ▸ hbracket)
  cases h with
  | value hvalue =>
    cases hvalue with
    | emptyList hopen => exact (hother hopen (Or.inl rfl)).elim
    | list hopen => exact (hother hopen (Or.inl rfl)).elim
    | emptyObject hopen => exact (hother hopen (Or.inr rfl)).elim
    | object hopen => exact (hother hopen (Or.inr rfl)).elim
    | scalar hsame _ _ hskip hbehind =>
      rw [hsame, List.cons.injEq] at hstart
      rw [← hstart.1, ← hstart.2]
      exact ⟨_, hskip, hbehind⟩

theorem Awaits.exists_nextElement {first : Bool}
    (h : Awaits (.next first) (.list :: outer) bytes behind) :
    (∃ left, nextElement first bytes = .ok (.last left) ∧
      Awaits (.next false) outer left behind) ∨
    ∃ more, nextElement first bytes = .ok (.more more) ∧
      Awaits .value (.list :: outer) more behind := by
  cases h with
  | emptyList hclose hbehind =>
    exact Or.inl ⟨_, nextElement_last_iff.mpr hclose, .ending hbehind⟩
  | list hfirst hmore hbehind =>
    exact Or.inr ⟨_, nextElement_first_iff.mpr ⟨_, _, hfirst, hmore, rfl⟩, .value hbehind⟩
  | ending hending =>
    cases hending with
    | endList hclose hbehind =>
      exact Or.inl ⟨_, nextElement_last_iff.mpr hclose, .ending hbehind⟩
    | nextElement hcomma hbehind =>
      obtain ⟨byte, others, hstart, -, hmore, -⟩ := exists_start_of_passes hbehind
      refine Or.inr ⟨_, nextElement_later_iff.mpr ⟨_, byte, others, hcomma, hstart, hmore, rfl⟩, ?_⟩
      exact .value (hstart ▸ passes_skipBlanks.mpr hbehind)

theorem nextMember_of_quoteMark {first : Bool} {others : Bytes}
    (hfirst : first = true → skipBlanks bytes = quoteMark :: others)
    (hlater : first = false → ∃ more, skipBlanks bytes = ascii ',' :: more ∧
      skipBlanks more = quoteMark :: others) :
    nextMember first bytes = readKey (quoteMark :: others) := by
  cases first with
  | true =>
    rw [nextMember, hfirst rfl]
    exact (if_neg (by decide)).trans (if_pos rfl)
  | false =>
    obtain ⟨more, hcomma, hmore⟩ := hlater rfl
    rw [nextMember, hcomma]
    dsimp only
    rw [if_neg (by decide), if_neg (by decide), if_pos rfl, hmore]

theorem Awaits.exists_nextMember {first : Bool}
    (h : Awaits (.next first) (.object :: outer) bytes behind) :
    (∃ left, nextMember first bytes = .ok (.last left) ∧
      Awaits (.next false) outer left behind) ∨
    ∃ others afterKey left, nextMember first bytes = readKey (quoteMark :: others) ∧
      skipString others = .ok ((), afterKey) ∧ readColon afterKey = .ok ((), left) ∧
        Passes .value (.object :: outer) left behind := by
  cases h with
  | emptyObject hclose hbehind =>
    exact Or.inl ⟨_, nextMember_last_iff.mpr hclose, .ending hbehind⟩
  | object hkey hbehind =>
    obtain ⟨others, afterKey, hstart, hstring, hcolon⟩ := skipKey_iff.mp hkey
    exact Or.inr ⟨others, afterKey, _,
      nextMember_of_quoteMark (fun _ ↦ hstart) (fun hnone ↦ by cases hnone), hstring, hcolon,
      hbehind⟩
  | ending hending =>
    cases hending with
    | endObject hclose hbehind =>
      exact Or.inl ⟨_, nextMember_last_iff.mpr hclose, .ending hbehind⟩
    | nextMember hcomma hkey hbehind =>
      obtain ⟨others, afterKey, hstart, hstring, hcolon⟩ := skipKey_iff.mp hkey
      exact Or.inr ⟨others, afterKey, _,
        nextMember_of_quoteMark (fun hnone ↦ by cases hnone) (fun _ ↦ ⟨_, hcomma, hstart⟩), hstring,
        hcolon, hbehind⟩

section Keys

variable {others left : Bytes} (hskip : skipString others = .ok ((), left))
include hskip

theorem givenUp_of_readKey {fault : Fault} (h : readKey (quoteMark :: others) = .error fault) :
    GivenUp fault.unread left := by
  rw [readKey, if_pos rfl] at h
  split at h
  · next hread =>
    rw [← Except.error.inj h]
    exact givenUp_string hread hskip
  · cases h

theorem eq_of_readKey {member : Member} (h : readKey (quoteMark :: others) = .ok member) :
    ∃ name, member = .key name left := by
  rw [readKey, if_pos rfl] at h
  split at h
  · cases h
  · next name reached hread =>
    rw [skipString_of_readString hread, Except.ok.injEq, Prod.mk.injEq] at hskip
    exact ⟨name, by rw [← Except.ok.inj h, hskip.2]⟩

end Keys

/-! ### One turn after another -/

theorem Awaits.of_lastElement {first : Bool}
    (h : Awaits (.next first) (.list :: outer) bytes behind)
    (hlast : nextElement first bytes = .ok (.last rest)) :
    Awaits (.next false) outer rest behind := by
  rcases h.exists_nextElement with ⟨left, hsame, hleft⟩ | ⟨more, hmore, -⟩
  · rw [hlast, Except.ok.injEq, Element.last.injEq] at hsame
    exact hsame ▸ hleft
  · rw [hlast] at hmore
    cases hmore

theorem Awaits.of_element {first : Bool}
    (h : Awaits (.next first) (.list :: outer) bytes behind)
    (hmore : nextElement first bytes = .ok (.more rest)) :
    Awaits .value (.list :: outer) rest behind := by
  rcases h.exists_nextElement with ⟨left, hlast, -⟩ | ⟨more, hsame, hvalue⟩
  · rw [hmore] at hlast
    cases hlast
  · rw [hmore, Except.ok.injEq, Element.more.injEq] at hsame
    exact hsame ▸ hvalue

theorem Awaits.nextElement_ne_error {first : Bool}
    (h : Awaits (.next first) (.list :: outer) bytes behind) (fault : Fault) :
    nextElement first bytes ≠ .error fault := by
  intro hfault
  rcases h.exists_nextElement with ⟨left, hlast, -⟩ | ⟨more, hmore, -⟩
  · rw [hfault] at hlast
    cases hlast
  · rw [hfault] at hmore
    cases hmore

theorem Awaits.of_lastMember {first : Bool}
    (h : Awaits (.next first) (.object :: outer) bytes behind)
    (hlast : nextMember first bytes = .ok (.last rest)) :
    Awaits (.next false) outer rest behind := by
  rcases h.exists_nextMember with ⟨left, hsame, hleft⟩ | ⟨others, afterKey, left, hkey, hskip, -⟩
  · rw [hlast, Except.ok.injEq, Member.last.injEq] at hsame
    exact hsame ▸ hleft
  · obtain ⟨_, hnone⟩ := eq_of_readKey hskip (hkey ▸ hlast)
    cases hnone

theorem Awaits.of_key {first : Bool} (h : Awaits (.next first) (.object :: outer) bytes behind)
    {name : String} (hname : nextMember first bytes = .ok (.key name rest)) :
    ∃ left, readColon rest = .ok ((), left) ∧ Awaits .value (.object :: outer) left behind := by
  rcases h.exists_nextMember with
    ⟨last, hlast, -⟩ | ⟨others, afterKey, left, hkey, hskip, hcolon, hvalue⟩
  · rw [hname] at hlast
    cases hlast
  · obtain ⟨_, hsame⟩ := eq_of_readKey hskip (hkey ▸ hname)
    rw [Member.key.injEq] at hsame
    exact ⟨left, hsame.2 ▸ hcolon, .value hvalue⟩

/-- A key that cannot be kept is given up within its quotes or behind them. -/
theorem Awaits.lands_of_nextMember {first : Bool}
    (h : Awaits (.next first) (.object :: outer) bytes behind) {fault : Fault}
    (hfault : nextMember first bytes = .error fault) (hbehind : Lexes behind) :
    Lands behind (giveUp (.object :: outer) fault.unread) := by
  rcases h.exists_nextMember with
    ⟨last, hlast, -⟩ | ⟨others, afterKey, left, hkey, hskip, hcolon, hvalue⟩
  · rw [hfault] at hlast
    cases hlast
  · have hmark := readColon_iff.mp hcolon
    have hafter : Lexes afterKey := .of_mark hmark (by decide) (.of_passes hvalue hbehind)
    rcases givenUp_of_readKey hskip (hkey ▸ hfault) with hend | hdigit | hstring
    · exact .stuck (Stuck.giveUp (hend ▸ .of_skipBlanks_eq hmark (by decide)))
    · exact .stuck (Stuck.of_startsWithDigit hdigit).giveUp
    · exact .inside (Inside.giveUp ⟨afterKey, hstring, hafter⟩)

/-- A reader that would keep a well-formed value lands: it follows the value turn by turn until it
gives up, if it does. -/
theorem lands_passWithin {turn : Turn} (h : Awaits turn frames bytes behind)
    (hbehind : Lexes behind) : Lands behind (passWithin turn frames bytes) := by
  fun_induction passWithin turn frames bytes with
  | case1 frames bytes hnone =>
    cases h with
    | value hvalue =>
      obtain ⟨byte, rest, hstart, -⟩ := exists_start_of_passes hvalue
      rw [hnone] at hstart
      cases hstart
  | case2 frames bytes byte rest hstart hbracket hdepth ih =>
    rw [if_pos hdepth]
    exact ih (h.of_bracket hstart hbracket)
  | case3 frames bytes byte rest hstart hbracket hdepth =>
    rw [if_neg hdepth]
    refine .stuck (Stuck.giveUp (.of_cons (isBlank_of_skipBlanks hstart) ?_))
    rcases hbracket with rfl | rfl <;> decide
  | case4 frames bytes byte rest hstart hother fault hread =>
    obtain ⟨left, hskip, hpasses⟩ := h.of_scalar hstart hother
    exact lands_giveUp_of_givenUp (givenUp_scalar hskip hread) hpasses hbehind
  | case5 frames bytes byte rest hstart hother scalar left hread ih =>
    obtain ⟨reached, hskip, hpasses⟩ := h.of_scalar hstart hother
    exact ih (.ending (eq_of_readScalar hskip hread ▸ hpasses))
  | case6 bytes first =>
    cases h with
    | ending hending =>
      cases hending with
      | done => exact .exact
  | case7 bytes first outer fault hnext => exact absurd hnext (h.nextElement_ne_error fault)
  | case8 bytes first outer rest hnext ih => exact ih (h.of_lastElement hnext)
  | case9 bytes first outer more hnext ih => exact ih (h.of_element hnext)
  | case10 bytes first outer fault hnext => exact h.lands_of_nextMember hnext hbehind
  | case11 bytes first outer rest hnext ih => exact ih (h.of_lastMember hnext)
  | case12 bytes first outer name rest hnext fault hfault =>
    obtain ⟨left, hcolon, -⟩ := h.of_key hnext
    rw [hcolon] at hfault
    cases hfault
  | case13 bytes first outer name rest hnext _ left hread ih =>
    obtain ⟨value, hcolon, hvalue⟩ := h.of_key hnext
    rw [hcolon, Except.ok.injEq, Prod.mk.injEq] at hread
    exact ih (hread.2 ▸ hvalue)

theorem lands_passKept (h : skipValue bytes = .ok ((), behind)) (hbehind : Lexes behind) :
    Lands behind (passKept bytes) :=
  lands_passWithin (.value (passes_iff.mpr h)) hbehind

/-- A string that would have been kept is read to its end. -/
theorem passKept_of_readText {text : String} (h : readText bytes = .ok (text, rest)) :
    passKept bytes = rest := by
  obtain ⟨others, hstart, hscalar⟩ := readScalar_of_readText h
  unfold passKept passWithin
  split
  · next hnone =>
    rw [hstart] at hnone
    cases hnone
  · next byte left hsome =>
    obtain ⟨rfl, rfl⟩ := List.cons.inj (hstart.symm.trans hsome)
    rw [if_neg (by decide)]
    split
    · next hfault =>
      rw [hscalar] at hfault
      cases hfault
    · next hread =>
      rw [hscalar, Except.ok.injEq, Prod.mk.injEq] at hread
      rw [passWithin, hread.2]

end TokenService.Json
