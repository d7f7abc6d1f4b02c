import TokenService.Proofs.Json.Lenient
import TokenService.Proofs.Json.Record

/-!
# Lenient records

A record whose fields are read leniently is read from a well-formed object. A field reader that
lands anywhere but behind its value has lost its place, and then the record cannot be read to the
end of the text any more (`eq_of_lands`): within a string the reader stays within strings, and an
object within the value ends before the text does.
-/

set_option autoImplicit false
set_option relaxedAutoImplicit false

namespace TokenService.Json

theorem skipBlanks_ne_nil_of_passes {frames : List Frame} {bytes behind : Bytes}
    (h : Passes .ending frames bytes behind) (hbehind : skipBlanks behind ≠ []) :
    skipBlanks bytes ≠ [] := by
  cases h with
  | done => exact hbehind
  | nextElement hcomma => simp [hcomma]
  | endList hclose => simp [hclose]
  | nextMember hcomma => simp [hcomma]
  | endObject hclose => simp [hclose]

namespace Record

variable {σ : Type} {record : Record σ} {draft longer whole : Draft σ}
  {bytes rest behind : Bytes} {name : String} {first : Bool}

/-- The field readers of a record land, and none of its names could be read behind the end of a
string. -/
structure IsLenient (record : Record σ) : Prop where
  lands : ∀ {state : σ} {name : String} {bytes behind : Bytes} {value : σ} {rest : Bytes},
    skipValue bytes = .ok ((), behind) → Lexes behind →
      record.read state name bytes = .ok (value, rest) → Lands behind rest
  names : ∀ name ∈ record.names, ¬StartsWord name.toList

theorem not_stuck_of_readMembers (h : record.readMembers false draft bytes = .ok (whole, rest)) :
    ¬Stuck bytes := by
  intro hstuck
  rcases readMembers_iff.mp h with ⟨hlast, -⟩ | ⟨name, afterKey, _, _, hnext, -⟩
  · exact (hstuck _ _ (nextMember_last_iff.mp hlast)).2.2 rfl
  · obtain ⟨_, _, hcomma, -⟩ := nextMember_later_iff.mp hnext
    exact (hstuck _ _ hcomma).1 rfl

section Lenient

variable (hlenient : record.IsLenient)
include hlenient

theorem lands_readField {afterKey value : Bytes}
    (h : record.readField draft name afterKey = .ok (longer, rest))
    (hcolon : readColon afterKey = .ok ((), value)) (hvalue : skipValue value = .ok ((), behind))
    (hbehind : Lexes behind) : Lands behind rest := by
  rcases readField_iff.mp h with ⟨-, -, _, hmember, -⟩ | ⟨-, hmember, -⟩
  · obtain ⟨others, hothers, hread⟩ := readMember_iff.mp hmember
    rw [← readColon_iff, hcolon, Except.ok.injEq, Prod.mk.injEq] at hothers
    rw [← hothers.2] at hread
    exact hlenient.lands hvalue hbehind hread
  · obtain ⟨others, hothers, hread⟩ := readMember_iff.mp hmember
    rw [← readColon_iff, hcolon, Except.ok.injEq, Prod.mk.injEq] at hothers
    rw [← hothers.2, hvalue, Except.ok.injEq, Prod.mk.injEq] at hread
    exact hread.2 ▸ .exact

/-- From within a string every member is unknown, and its value ends within a string. -/
theorem inside_of_readMembers (hlater : first = false) (hinside : Inside bytes)
    (h : record.readMembers first draft bytes = .ok (whole, rest)) : Inside rest := by
  fun_induction record.readMembers first draft bytes with
  | case1 => cases h
  | case2 first draft bytes left hnext =>
    rw [Except.ok.injEq, Prod.mk.injEq] at h
    exact h.2 ▸ hinside.of_skipBlanks_eq (nextMember_last_iff.mp hnext) (by decide) (by decide)
  | case3 => cases h
  | case4 first draft bytes name afterKey hnext longer others hfield ih =>
    rw [hlater] at hnext
    obtain ⟨tail, key, hcomma, hstart, hkey⟩ := nextMember_later_iff.mp hnext
    have htail := (hinside.of_skipBlanks_eq hcomma (by decide) (by decide)).skipBlanks
    have hlexes : Lexes key := (hstart ▸ htail).of_quoteMark
    have hafter : Inside afterKey := .of_lexes hlexes (skipString_of_readString hkey)
    rcases readField_iff.mp hfield with ⟨hname, -⟩ | ⟨-, hmember, -⟩
    · exact absurd (startsWord_of_readString hlexes hkey) (hlenient.names name hname)
    · obtain ⟨value, hcolon, hvalue⟩ := readMember_iff.mp hmember
      exact ih rfl
        ((hafter.readColon (readColon_iff.mpr hcolon)).passes (passes_iff.mpr hvalue)) h

/-- From within an object of a value the record ends at latest where this object does. -/
theorem skipBlanks_ne_nil_of_nested (hlater : first = false) (hnested : Nested behind bytes)
    (hbehind : Lexes behind) (hmore : skipBlanks behind ≠ [])
    (h : record.readMembers first draft bytes = .ok (whole, rest)) : skipBlanks rest ≠ [] := by
  fun_induction record.readMembers first draft bytes with
  | case1 => cases h
  | case2 first draft bytes left hnext =>
    rw [Except.ok.injEq, Prod.mk.injEq] at h
    obtain ⟨outer, hpasses⟩ := hnested
    have hend := nextMember_last_iff.mp hnext
    cases hpasses with
    | nextMember hcomma =>
      rw [hcomma, List.cons.injEq] at hend
      exact absurd hend.1 (by decide)
    | endObject hclose houter =>
      rw [hclose, List.cons.injEq] at hend
      exact h.2 ▸ hend.2 ▸ skipBlanks_ne_nil_of_passes houter hmore
  | case3 => cases h
  | case4 first draft bytes name afterKey hnext longer others hfield ih =>
    rw [hlater] at hnext
    obtain ⟨tail, key, hcomma, hstart, hkey⟩ := nextMember_later_iff.mp hnext
    obtain ⟨outer, hpasses⟩ := hnested
    cases hpasses with
    | endObject hclose =>
      rw [hclose, List.cons.injEq] at hcomma
      exact absurd hcomma.1 (by decide)
    | @nextMember _ _ rest' value _ hsame hskip hvalue =>
      rw [hsame, List.cons.injEq] at hcomma
      obtain ⟨key', afterKey', hstart', hstring, hcolon⟩ := skipKey_iff.mp hskip
      rw [hcomma.2, hstart, List.cons.injEq] at hstart'
      rw [← hstart'.2, skipString_of_readString hkey, Except.ok.injEq, Prod.mk.injEq] at hstring
      rw [← hstring.2] at hcolon
      obtain ⟨middle, hmiddle, hback⟩ := @Passes.split _ [] _ _ _ hvalue
      have hlexes : Lexes middle := .of_passes hback hbehind
      cases lands_readField hlenient hfield hcolon (passes_iff.mp hmiddle) hlexes with
      | exact => exact ih rfl ⟨outer, hback⟩ h
      | nested hinner =>
        obtain ⟨inner, hinner⟩ := hinner
        exact ih rfl ⟨inner ++ .object :: outer, hinner.append hback⟩ h
      | inside hinside => exact (inside_of_readMembers hlenient rfl hinside h).skipBlanks_ne_nil
      | stuck hstuck => exact absurd hstuck (not_stuck_of_readMembers h)

/-- A record that is read to the end of the text has not lost its place. -/
theorem eq_of_lands (hlands : Lands behind bytes) (hbehind : Lexes behind)
    (hmore : skipBlanks behind ≠ []) (h : record.readMembers false draft bytes = .ok (whole, rest))
    (hend : skipBlanks rest = []) : bytes = behind := by
  cases hlands with
  | exact => rfl
  | nested hnested =>
    exact absurd hend (skipBlanks_ne_nil_of_nested hlenient rfl hnested hbehind hmore h)
  | inside hinside =>
    exact absurd hend (inside_of_readMembers hlenient rfl hinside h).skipBlanks_ne_nil
  | stuck hstuck => exact absurd hstuck (not_stuck_of_readMembers h)

end Lenient

end Record

end TokenService.Json
