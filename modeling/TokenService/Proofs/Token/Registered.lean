import TokenService.Proofs.Json.Lenient
import TokenService.Proofs.Json.Record
import TokenService.Token.Registered

/-!
# Registered claims beside strict ones

The claims of a payload are read strictly and the registered ones leniently. Where the strict reader
of an integer or a string accepts a value, the lenient one ends at the same place and takes the same
value (`readMoment_of_readInteger`, `readSubject_of_readText`, `readAudience_of_readText`), except
that a negative integer counts as none. Any other well-formed value the lenient readers may give up,
and then they land somewhere in it (`lands_readClaim`).
-/

set_option autoImplicit false
set_option relaxedAutoImplicit false

namespace TokenService.Token.Registered

open Json

/-! ### One claim -/

section Readers

variable (registered : Registered) (bytes : Bytes)

theorem readClaim_exp : registered.readClaim "exp" bytes =
    .ok ({ registered with expiry := (readMoment bytes).1 }, (readMoment bytes).2) := by
  rw [readClaim, if_pos rfl]

theorem readClaim_nbf : registered.readClaim "nbf" bytes =
    .ok (registered, (readMoment bytes).2) := by
  rw [readClaim, if_neg (by decide), if_pos rfl]

theorem readClaim_sub : registered.readClaim "sub" bytes =
    .ok ({ registered with hasSubject := (readSubject bytes).1 }, (readSubject bytes).2) := by
  rw [readClaim, if_neg (by decide), if_neg (by decide), if_pos rfl]

theorem readClaim_iss : registered.readClaim "iss" bytes = .ok (registered, passKept bytes) := by
  rw [readClaim, if_neg (by decide), if_neg (by decide), if_neg (by decide), if_pos rfl]

theorem readClaim_aud : registered.readClaim "aud" bytes =
    .ok ({ registered with hasAudience := (readAudience bytes).1 }, (readAudience bytes).2) := by
  rw [readClaim, if_neg (by decide), if_neg (by decide), if_neg (by decide), if_neg (by decide)]

end Readers

/-! ### Strict values -/

/-- The moment that an integer stands for: negative ones stand for none. -/
def momentOf (value : Int) : Option Nat :=
  if 0 ≤ value then some value.toNat else none

theorem momentOf_natural (natural : Nat) : momentOf natural = some natural := by
  rw [momentOf, if_pos (Int.natCast_nonneg natural), Int.toNat_natCast]

theorem momentOf_neg {natural : Nat} (hnatural : natural ≠ 0) : momentOf (-natural) = none := by
  rw [momentOf, if_neg (by omega)]

theorem momentOf_eq_some {value : Int} {natural : Nat} (h : momentOf value = some natural) :
    value = natural := by
  unfold momentOf at h
  split at h
  · have hvalue := Option.some.inj h
    omega
  · cases h

/-- A strict integer is a moment or, below zero, none; either way it is read to its end. -/
theorem readMoment_of_readInteger {bytes rest : Bytes} {value : Int}
    (h : readInteger bytes = .ok (value, rest)) : readMoment bytes = (momentOf value, rest) := by
  obtain ⟨byte, others, number, hstart, hlist, hobject, hread, hinteger⟩ :=
    readScalar_of_readInteger h
  rw [readMoment, hstart]
  dsimp only
  rw [if_neg hlist, if_neg hobject, hread]
  dsimp only
  cases hinteger with
  | natural natural => rw [momentOf_natural, naturalOf]
  | negative hnonzero =>
    rw [momentOf_neg hnonzero, naturalOf]
    exact fun _ hnone ↦ by cases hnone

theorem readOptional_of_readText {bytes rest : Bytes} {text : String}
    (h : readText bytes = .ok (text, rest)) :
    readOptional readText bytes = .ok (some text, rest) := by
  have hstart : (skipBlanks bytes).head? ≠ some (ascii 'n') := by
    intro hnull
    unfold readText at h
    split at h
    · cases h
    · next byte others hbytes =>
      rw [hbytes, List.head?_cons, Option.some.injEq] at hnull
      rw [hnull, if_neg (by decide)] at h
      cases h
  rw [readOptional, if_neg hstart, h]

/-- A strict string is a subject. -/
theorem readSubject_of_readText {bytes rest : Bytes} {text : String}
    (h : readText bytes = .ok (text, rest)) : readSubject bytes = (true, rest) := by
  rw [readSubject, readOptional_of_readText h]
  rfl

theorem exists_bracket_of_readTextList {bytes rest : Bytes} {texts : List String}
    (h : readTextList bytes = .ok (texts, rest)) :
    ∃ others, skipBlanks bytes = ascii '[' :: others := by
  unfold readTextList readList at h
  split at h
  · cases h
  · next byte others hstart =>
    split at h
    · next hopen => exact ⟨others, hopen ▸ hstart⟩
    · cases h

theorem readText_of_bracket {bytes rest : Bytes} {byte : UInt8}
    (hstart : skipBlanks bytes = byte :: rest)
    (hbracket : byte = ascii '[' ∨ byte = ascii '\x7b') :
    readText bytes = .error (misfit "a string" (byte :: rest)) := by
  rw [readText, hstart]
  rcases hbracket with rfl | rfl <;> exact if_neg (by decide)

/-- A strict string is an audience. -/
theorem readAudience_of_readText {bytes rest : Bytes} {text : String}
    (h : readText bytes = .ok (text, rest)) : readAudience bytes = (true, rest) := by
  rw [readAudience, h]

/-- A list of strict strings is an audience, even if there are none in it. -/
theorem readAudience_of_readTextList {bytes rest : Bytes} {texts : List String}
    (h : readTextList bytes = .ok (texts, rest)) : readAudience bytes = (true, rest) := by
  obtain ⟨others, hopen⟩ := exists_bracket_of_readTextList h
  rw [readAudience, readText_of_bracket hopen (Or.inl rfl)]
  dsimp only
  rw [h]

/-! ### Any values -/

theorem readSubject_of_bracket {bytes rest : Bytes} {byte : UInt8}
    (hstart : skipBlanks bytes = byte :: rest)
    (hbracket : byte = ascii '[' ∨ byte = ascii '\x7b') :
    readSubject bytes = (false, byte :: rest) := by
  have hnull : (byte :: rest).head? ≠ some (ascii 'n') := by
    rw [List.head?_cons]
    rcases hbracket with rfl | rfl <;> decide
  have hunread : (misfit "a string" (byte :: rest)).unread = byte :: rest := by
    rcases hbracket with rfl | rfl <;> rfl
  rw [readSubject, readOptional, hstart, if_neg hnull, readText_of_bracket hstart hbracket]
  exact Prod.ext rfl hunread

section Lands

variable {bytes behind : Bytes} (hvalue : skipValue bytes = .ok ((), behind))
  (hbehind : Lexes behind)
include hvalue hbehind

theorem lands_readMoment : Lands behind (readMoment bytes).2 := by
  cases passes_iff.mpr hvalue with
  | emptyList hopen hclose hend =>
    cases hend with
    | done =>
      rw [readMoment, hopen]
      dsimp only
      rw [if_pos rfl, afterList_end hclose]
      exact .exact
  | list hopen hfirst _ hmore =>
    rw [readMoment, hopen]
    dsimp only
    rw [if_pos rfl]
    exact .stuck (Stuck.of_passes (passes_skipBlanks.mp (hfirst ▸ hmore))).afterList
  | emptyObject hopen hclose hend =>
    cases hend with
    | done =>
      rw [readMoment, hopen]
      dsimp only
      rw [if_neg (by decide), if_pos rfl, afterObject_end hclose]
      exact .exact
  | object hopen hfirst _ hkey _ =>
    rw [← hfirst, skipKey_skipBlanks] at hkey
    obtain ⟨others, -, hstart, -⟩ := skipKey_iff.mp hkey
    rw [readMoment, hopen]
    dsimp only
    rw [if_neg (by decide), if_pos rfl]
    exact .stuck (Stuck.of_skipBlanks_eq hstart (by decide)).afterObject
  | scalar hstart hlist hobject hscalar hend =>
    cases hend with
    | done =>
      rw [readMoment, hstart]
      dsimp only
      rw [if_neg hlist, if_neg hobject]
      split
      · next hread => exact .of_givenUp (givenUp_scalar hscalar hread) hbehind
      · next hread => exact eq_of_readScalar hscalar hread ▸ .exact

theorem lands_readSubject : Lands behind (readSubject bytes).2 := by
  have hbracket : ∀ {byte : UInt8} {rest : Bytes}, skipBlanks bytes = byte :: rest →
      byte = ascii '[' ∨ byte = ascii '\x7b' → Lands behind (readSubject bytes).2 := by
    intro byte rest hopen hbyte
    rw [readSubject_of_bracket hopen hbyte]
    refine .stuck (.of_cons (isBlank_of_skipBlanks hopen) ?_)
    rcases hbyte with rfl | rfl <;> decide
  cases passes_iff.mpr hvalue with
  | emptyList hopen => exact hbracket hopen (Or.inl rfl)
  | list hopen => exact hbracket hopen (Or.inl rfl)
  | emptyObject hopen => exact hbracket hopen (Or.inr rfl)
  | object hopen => exact hbracket hopen (Or.inr rfl)
  | @scalar _ _ rest _ _ byte hstart _ _ hscalar hend =>
    cases hend with
    | done =>
      unfold readSubject readOptional
      rw [hstart, List.head?_cons, List.tail_cons]
      by_cases hnull : byte = ascii 'n'
      · rw [hnull, skipScalar, if_pos rfl] at hscalar
        rw [hnull, if_pos rfl, hscalar]
        exact .exact
      · rw [if_neg (by simpa using hnull), readText, hstart]
        dsimp only
        by_cases hquote : byte = quoteMark
        · rw [hquote, skipScalar_quoteMark] at hscalar
          rw [if_pos hquote]
          cases hread : readString rest with
          | error fault => exact .of_givenUp (givenUp_string hread hscalar) hbehind
          | ok read =>
            rw [skipString_of_readString hread, Except.ok.injEq, Prod.mk.injEq] at hscalar
            exact hscalar.2 ▸ .exact
        · rw [if_neg hquote]
          exact .of_givenUp (givenUp_misfit hscalar) hbehind

theorem lands_readAudience : Lands behind (readAudience bytes).2 := by
  unfold readAudience
  split
  · next hread =>
    rw [skippedAlike_readText hread, Except.ok.injEq, Prod.mk.injEq] at hvalue
    exact hvalue.2 ▸ .exact
  · split
    · next hread =>
      rw [skippedAlike_readTextList hread, Except.ok.injEq, Prod.mk.injEq] at hvalue
      exact hvalue.2 ▸ .exact
    · exact lands_passKept hvalue hbehind

/-- Whichever claim it is, a lenient reader of a well-formed value lands. -/
theorem lands_readClaim {registered changed : Registered} {name : String} {rest : Bytes}
    (h : registered.readClaim name bytes = .ok (changed, rest)) : Lands behind rest := by
  have hmoment := lands_readMoment hvalue hbehind
  have hsubject := lands_readSubject hvalue hbehind
  have haudience := lands_readAudience hvalue hbehind
  have hkept := lands_passKept hvalue hbehind
  unfold readClaim at h
  grind

end Lands

end TokenService.Token.Registered
