import TokenService.Json.Record
import TokenService.Proofs.Json.Passes

/-!
# Records, member by member

A record is read from an object one member after another (`readMembers_iff`): a member of a known
name sets its field, and any other is passed over (`readField_iff`). A text that holds a record is a
list or an object with nothing behind it (`parse_iff`). Where the values of the fields are passed
over as they are read, so is the record (`passes_of_object`).
-/

set_option autoImplicit false
set_option relaxedAutoImplicit false

namespace TokenService.Json

namespace Record

variable {σ : Type} {record : Record σ} {draft longer whole : Draft σ} {value : σ}
  {bytes rest behind : Bytes} {name : String} {first : Bool}

theorem readField_iff : record.readField draft name bytes = .ok (longer, rest) ↔
    (name ∈ record.names ∧ name ∉ draft.seen ∧ ∃ value,
      readMember (record.read draft.value name) bytes = .ok (value, rest) ∧
        longer = ⟨name :: draft.seen, value⟩) ∨
    (name ∉ record.names ∧ readMember skipValue bytes = .ok ((), rest) ∧ longer = draft) := by
  unfold readField
  grind

theorem readField_of_mem (hname : name ∈ record.names)
    (h : record.readField draft name bytes = .ok (longer, rest)) :
    ∃ others value, skipBlanks bytes = ascii ':' :: others ∧
      record.read draft.value name others = .ok (value, rest) ∧
        longer = ⟨name :: draft.seen, value⟩ := by
  rcases readField_iff.mp h with ⟨-, -, value, hmember, hlonger⟩ | ⟨hnone, -⟩
  · obtain ⟨others, hcolon, hread⟩ := readMember_iff.mp hmember
    exact ⟨others, value, hcolon, hread, hlonger⟩
  · exact absurd hname hnone

theorem readField_of_not_mem (hname : name ∉ record.names)
    (h : record.readField draft name bytes = .ok (longer, rest)) : longer = draft := by
  rcases readField_iff.mp h with ⟨hsome, -⟩ | ⟨-, -, hlonger⟩
  · exact absurd hsome hname
  · exact hlonger

theorem readMembers_iff : record.readMembers first draft bytes = .ok (whole, rest) ↔
    (nextMember first bytes = .ok (.last rest) ∧ whole = draft) ∨
    ∃ name afterKey longer others, nextMember first bytes = .ok (.key name afterKey) ∧
      record.readField draft name afterKey = .ok (longer, others) ∧
        record.readMembers false longer others = .ok (whole, rest) := by
  conv => lhs; rw [readMembers]
  grind

theorem readMembers_of_member {afterKey : Bytes}
    (hnext : nextMember first bytes = .ok (.key name afterKey))
    (hfield : record.readField draft name afterKey = .ok (longer, behind))
    (hmore : record.readMembers false longer behind = .ok (whole, rest)) :
    record.readMembers first draft bytes = .ok (whole, rest) :=
  readMembers_iff.mpr (Or.inr ⟨name, afterKey, longer, behind, hnext, hfield, hmore⟩)

theorem readElements_cons_iff {names : List String} {start : σ} :
    record.readElements (name :: names) first start bytes = .ok (value, rest) ↔
      ∃ more changed left, nextElement first bytes = .ok (.more more) ∧
        record.read start name more = .ok (changed, left) ∧
          record.readElements names false changed left = .ok (value, rest) := by
  rw [readElements]
  grind

/-- A text that holds a record is a list of its fields or an object, with only blanks behind. -/
theorem parse_iff {text : Bytes} : record.parse text = .ok value ↔
    (∃ inner left, skipBlanks text = ascii '[' :: inner ∧
      record.readElements record.names true record.start inner = .ok (value, left) ∧
        skipBlanks left = []) ∨
    ∃ inner draft left, skipBlanks text = ascii '\x7b' :: inner ∧
      record.readMembers true ⟨[], record.start⟩ inner = .ok (draft, left) ∧
        (∀ name ∈ record.required, name ∈ draft.seen) ∧ draft.value = value ∧
          skipBlanks left = [] := by
  unfold parse readWhole readRecord
  grind

/-! ### Records that are passed over -/

section Skipped

variable {outer : List Frame} (hread : ∀ state name, SkippedAlike (record.read state name))
include hread

theorem passes_of_readField {frames : List Frame}
    (h : record.readField draft name bytes = .ok (longer, rest))
    (hbehind : Passes .ending frames rest behind) :
    ∃ others, readColon bytes = .ok ((), others) ∧ Passes .value frames others behind := by
  rcases readField_iff.mp h with ⟨-, -, value, hmember, -⟩ | ⟨-, hmember, -⟩
  · obtain ⟨others, hcolon, hvalue⟩ := readMember_iff.mp hmember
    exact ⟨others, readColon_iff.mpr hcolon, passes_skipValue (hread _ _ hvalue) hbehind⟩
  · obtain ⟨others, hcolon, hvalue⟩ := readMember_iff.mp hmember
    exact ⟨others, readColon_iff.mpr hcolon, passes_skipValue hvalue hbehind⟩

theorem passes_of_readMembers (hlater : first = false)
    (h : record.readMembers first draft bytes = .ok (whole, rest))
    (hbehind : Passes .ending outer rest behind) :
    Passes .ending (.object :: outer) bytes behind := by
  fun_induction record.readMembers first draft bytes with
  | case1 => cases h
  | case2 first draft bytes left hnext =>
    rw [Except.ok.injEq, Prod.mk.injEq] at h
    exact .endObject (nextMember_last_iff.mp hnext) (h.2 ▸ hbehind)
  | case3 => cases h
  | case4 first draft bytes name afterKey hnext longer others hfield ih =>
    rw [hlater] at hnext
    obtain ⟨tail, key, hcomma, hstart, hkey⟩ := nextMember_later_iff.mp hnext
    obtain ⟨inner, hcolon, hvalue⟩ := passes_of_readField hread hfield (ih rfl h)
    exact .nextMember hcomma
      (skipKey_iff.mpr ⟨key, afterKey, hstart, skipString_of_readString hkey, hcolon⟩) hvalue

/-- An object that holds a record is passed over as a whole. -/
theorem passes_of_object {inner : Bytes} (hopen : skipBlanks bytes = ascii '\x7b' :: inner)
    (h : record.readMembers true draft inner = .ok (whole, rest))
    (hbehind : Passes .ending outer rest behind) : Passes .value outer bytes behind := by
  rcases readMembers_iff.mp h with
    ⟨hlast, -⟩ | ⟨name, afterKey, longer, others, hnext, hfield, hmore⟩
  · exact .emptyObject hopen (nextMember_last_iff.mp hlast) hbehind
  · obtain ⟨key, hstart, hkey⟩ := nextMember_first_iff.mp hnext
    obtain ⟨value, hcolon, hvalue⟩ := passes_of_readField hread hfield
      (passes_of_readMembers hread rfl hmore hbehind)
    refine .object hopen hstart (by decide)
      (skipKey_iff.mpr ⟨key, afterKey, ?_, skipString_of_readString hkey, hcolon⟩) hvalue
    rw [← hstart, skipBlanks_skipBlanks]

end Skipped

end Record

end TokenService.Json
