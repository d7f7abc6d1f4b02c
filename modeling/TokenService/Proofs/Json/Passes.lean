import TokenService.Proofs.Json.Skip
import TokenService.Proofs.Json.Walk

/-!
# Runs over skipped values

A reader that passes over a value goes from byte to byte with the lists and objects still open as
its frames. `Passes` says from where to where it goes, one rule for each step; it is the graph of
`skipWithin` (`passes_iff`). What happens to the frames in front does not depend on those behind
(`Passes.append`), so a value is passed over alike wherever it stands.
-/

set_option autoImplicit false
set_option relaxedAutoImplicit false

namespace TokenService.Json

/-- The steps over nested values, from some bytes to those behind the outermost of the given
frames. -/
inductive Passes : Stage → List Frame → Bytes → Bytes → Prop
  | emptyList {frames : List Frame} {bytes rest others behind : Bytes}
      (hopen : skipBlanks bytes = ascii '[' :: rest)
      (hclose : skipBlanks rest = ascii ']' :: others)
      (hbehind : Passes .ending frames others behind) : Passes .value frames bytes behind
  | list {frames : List Frame} {bytes rest others behind : Bytes} {other : UInt8}
      (hopen : skipBlanks bytes = ascii '[' :: rest) (hfirst : skipBlanks rest = other :: others)
      (hmore : other ≠ ascii ']')
      (hbehind : Passes .value (.list :: frames) (other :: others) behind) :
      Passes .value frames bytes behind
  | emptyObject {frames : List Frame} {bytes rest others behind : Bytes}
      (hopen : skipBlanks bytes = ascii '\x7b' :: rest)
      (hclose : skipBlanks rest = ascii '\x7d' :: others)
      (hbehind : Passes .ending frames others behind) : Passes .value frames bytes behind
  | object {frames : List Frame} {bytes rest others left behind : Bytes} {other : UInt8}
      (hopen : skipBlanks bytes = ascii '\x7b' :: rest) (hfirst : skipBlanks rest = other :: others)
      (hmore : other ≠ ascii '\x7d') (hkey : skipKey (other :: others) = .ok ((), left))
      (hbehind : Passes .value (.object :: frames) left behind) : Passes .value frames bytes behind
  | scalar {frames : List Frame} {bytes rest left behind : Bytes} {byte : UInt8}
      (hstart : skipBlanks bytes = byte :: rest) (hlist : byte ≠ ascii '[')
      (hobject : byte ≠ ascii '\x7b') (hscalar : skipScalar (byte :: rest) = .ok ((), left))
      (hbehind : Passes .ending frames left behind) : Passes .value frames bytes behind
  | done {bytes : Bytes} : Passes .ending [] bytes bytes
  | nextElement {outer : List Frame} {bytes rest behind : Bytes}
      (hcomma : skipBlanks bytes = ascii ',' :: rest)
      (hbehind : Passes .value (.list :: outer) rest behind) :
      Passes .ending (.list :: outer) bytes behind
  | endList {outer : List Frame} {bytes rest behind : Bytes}
      (hclose : skipBlanks bytes = ascii ']' :: rest) (hbehind : Passes .ending outer rest behind) :
      Passes .ending (.list :: outer) bytes behind
  | nextMember {outer : List Frame} {bytes rest left behind : Bytes}
      (hcomma : skipBlanks bytes = ascii ',' :: rest) (hkey : skipKey rest = .ok ((), left))
      (hbehind : Passes .value (.object :: outer) left behind) :
      Passes .ending (.object :: outer) bytes behind
  | endObject {outer : List Frame} {bytes rest behind : Bytes}
      (hclose : skipBlanks bytes = ascii '\x7d' :: rest)
      (hbehind : Passes .ending outer rest behind) : Passes .ending (.object :: outer) bytes behind

/-! ### The steps of `skipWithin` -/

theorem skipKey_skipBlanks (bytes : Bytes) : skipKey (skipBlanks bytes) = skipKey bytes := by
  rw [skipKey, skipKey, skipBlanks_skipBlanks]

theorem skipKey_iff {bytes rest : Bytes} : skipKey bytes = .ok ((), rest) ↔
    ∃ others left, skipBlanks bytes = quoteMark :: others ∧ skipString others = .ok ((), left) ∧
      readColon left = .ok ((), rest) := by
  unfold skipKey
  grind

section Steps

variable {frames outer : List Frame} {bytes rest others left : Bytes} {byte other : UInt8}

theorem skipWithin_emptyList (hopen : skipBlanks bytes = ascii '[' :: rest)
    (hclose : skipBlanks rest = ascii ']' :: others) :
    skipWithin .value frames bytes = skipWithin .ending frames others := by
  conv => lhs; rw [skipWithin]
  grind

theorem skipWithin_list (hopen : skipBlanks bytes = ascii '[' :: rest)
    (hfirst : skipBlanks rest = other :: others) (hmore : other ≠ ascii ']') :
    skipWithin .value frames bytes = skipWithin .value (.list :: frames) (other :: others) := by
  conv => lhs; rw [skipWithin]
  grind

theorem skipWithin_emptyObject (hopen : skipBlanks bytes = ascii '\x7b' :: rest)
    (hclose : skipBlanks rest = ascii '\x7d' :: others) :
    skipWithin .value frames bytes = skipWithin .ending frames others := by
  conv => lhs; rw [skipWithin]
  grind

theorem skipWithin_object (hopen : skipBlanks bytes = ascii '\x7b' :: rest)
    (hfirst : skipBlanks rest = other :: others) (hmore : other ≠ ascii '\x7d')
    (hkey : skipKey (other :: others) = .ok ((), left)) :
    skipWithin .value frames bytes = skipWithin .value (.object :: frames) left := by
  conv => lhs; rw [skipWithin]
  grind

theorem skipWithin_scalar (hstart : skipBlanks bytes = byte :: rest) (hlist : byte ≠ ascii '[')
    (hobject : byte ≠ ascii '\x7b') (hscalar : skipScalar (byte :: rest) = .ok ((), left)) :
    skipWithin .value frames bytes = skipWithin .ending frames left := by
  conv => lhs; rw [skipWithin]
  grind

theorem skipWithin_done : skipWithin .ending [] bytes = .ok ((), bytes) := by
  rw [skipWithin]

theorem skipWithin_nextElement (hcomma : skipBlanks bytes = ascii ',' :: rest) :
    skipWithin .ending (.list :: outer) bytes = skipWithin .value (.list :: outer) rest := by
  conv => lhs; rw [skipWithin]
  grind

theorem skipWithin_endList (hclose : skipBlanks bytes = ascii ']' :: rest) :
    skipWithin .ending (.list :: outer) bytes = skipWithin .ending outer rest := by
  conv => lhs; rw [skipWithin]
  grind

theorem skipWithin_nextMember (hcomma : skipBlanks bytes = ascii ',' :: rest)
    (hkey : skipKey rest = .ok ((), left)) :
    skipWithin .ending (.object :: outer) bytes = skipWithin .value (.object :: outer) left := by
  conv => lhs; rw [skipWithin]
  grind

theorem skipWithin_endObject (hclose : skipBlanks bytes = ascii '\x7d' :: rest) :
    skipWithin .ending (.object :: outer) bytes = skipWithin .ending outer rest := by
  conv => lhs; rw [skipWithin]
  grind

end Steps

/-! ### Frames behind -/

theorem passes_of_skipWithin {stage : Stage} {frames : List Frame} {bytes behind : Bytes}
    (h : skipWithin stage frames bytes = .ok ((), behind)) : Passes stage frames bytes behind := by
  fun_induction skipWithin stage frames bytes with
  | case3 frames bytes rest others hopen hclose ih => exact .emptyList hopen hclose (ih h)
  | case4 frames bytes rest other others hfirst hmore hopen ih =>
    exact .list hopen hfirst hmore (ih h)
  | case6 frames bytes rest others hopen _ hclose ih => exact .emptyObject hopen hclose (ih h)
  | case8 frames bytes rest other others hfirst hmore _ left hkey hopen _ ih =>
    exact .object hopen hfirst hmore hkey (ih h)
  | case10 frames bytes byte rest hstart hlist hobject _ left hscalar ih =>
    exact .scalar hstart hlist hobject hscalar (ih h)
  | case11 bytes =>
    rw [Except.ok.injEq, Prod.mk.injEq] at h
    exact h.2 ▸ .done
  | case13 bytes outer rest hcomma ih => exact .nextElement hcomma (ih h)
  | case14 bytes outer rest hclose _ ih => exact .endList hclose (ih h)
  | case18 bytes outer rest _ left hkey hcomma ih => exact .nextMember hcomma hkey (ih h)
  | case19 bytes outer rest hclose _ ih => exact .endObject hclose (ih h)
  | _ => cases h

/-- With more frames behind the given ones, their own run goes on where that of the given ones
ends. -/
theorem Passes.skipWithin_append {stage : Stage} {frames : List Frame} {bytes behind : Bytes}
    (h : Passes stage frames bytes behind) (outer : List Frame) :
    skipWithin stage (frames ++ outer) bytes = skipWithin .ending outer behind := by
  induction h with
  | emptyList hopen hclose _ ih => rw [skipWithin_emptyList hopen hclose, ih]
  | list hopen hfirst hmore _ ih => rw [skipWithin_list hopen hfirst hmore, ← ih, List.cons_append]
  | emptyObject hopen hclose _ ih => rw [skipWithin_emptyObject hopen hclose, ih]
  | object hopen hfirst hmore hkey _ ih =>
    rw [skipWithin_object hopen hfirst hmore hkey, ← ih, List.cons_append]
  | scalar hstart hlist hobject hscalar _ ih =>
    rw [skipWithin_scalar hstart hlist hobject hscalar, ih]
  | done => rw [List.nil_append]
  | nextElement hcomma _ ih => rw [List.cons_append, skipWithin_nextElement hcomma, ← ih,
      List.cons_append]
  | endList hclose _ ih => rw [List.cons_append, skipWithin_endList hclose, ih]
  | nextMember hcomma hkey _ ih => rw [List.cons_append, skipWithin_nextMember hcomma hkey, ← ih,
      List.cons_append]
  | endObject hclose _ ih => rw [List.cons_append, skipWithin_endObject hclose, ih]

/-- `Passes` is the graph of `skipWithin`. -/
theorem passes_iff {stage : Stage} {frames : List Frame} {bytes behind : Bytes} :
    Passes stage frames bytes behind ↔ skipWithin stage frames bytes = .ok ((), behind) := by
  constructor
  · intro h
    have hrun := h.skipWithin_append []
    rwa [List.append_nil, skipWithin_done] at hrun
  · exact passes_of_skipWithin

theorem Passes.append {stage : Stage} {frames outer : List Frame} {bytes middle behind : Bytes}
    (hfront : Passes stage frames bytes middle) (hback : Passes .ending outer middle behind) :
    Passes stage (frames ++ outer) bytes behind := by
  rw [passes_iff, hfront.skipWithin_append outer]
  exact passes_iff.mp hback

/-- The frames in front are closed before those behind them go on. -/
theorem Passes.split {stage : Stage} {front outer : List Frame} {bytes behind : Bytes}
    (h : Passes stage (front ++ outer) bytes behind) :
    ∃ middle, Passes stage front bytes middle ∧ Passes .ending outer middle behind := by
  generalize hframes : front ++ outer = frames at h
  induction h generalizing front with
  | emptyList hopen hclose _ ih =>
    obtain ⟨middle, hfront, hback⟩ := ih hframes
    exact ⟨middle, .emptyList hopen hclose hfront, hback⟩
  | list hopen hfirst hmore _ ih =>
    obtain ⟨middle, hfront, hback⟩ := @ih (.list :: front) (by rw [List.cons_append, hframes])
    exact ⟨middle, .list hopen hfirst hmore hfront, hback⟩
  | emptyObject hopen hclose _ ih =>
    obtain ⟨middle, hfront, hback⟩ := ih hframes
    exact ⟨middle, .emptyObject hopen hclose hfront, hback⟩
  | object hopen hfirst hmore hkey _ ih =>
    obtain ⟨middle, hfront, hback⟩ := @ih (.object :: front) (by rw [List.cons_append, hframes])
    exact ⟨middle, .object hopen hfirst hmore hkey hfront, hback⟩
  | scalar hstart hlist hobject hscalar _ ih =>
    obtain ⟨middle, hfront, hback⟩ := ih hframes
    exact ⟨middle, .scalar hstart hlist hobject hscalar hfront, hback⟩
  | done =>
    obtain ⟨rfl, rfl⟩ := List.append_eq_nil_iff.mp hframes
    exact ⟨_, .done, .done⟩
  | nextElement hcomma hbehind ih =>
    cases front with
    | nil =>
      rw [List.nil_append] at hframes
      exact ⟨_, .done, hframes ▸ .nextElement hcomma hbehind⟩
    | cons frame front =>
      rw [List.cons_append, List.cons.injEq] at hframes
      obtain ⟨middle, hfront, hback⟩ := @ih (.list :: front) (by rw [List.cons_append, hframes.2])
      exact ⟨middle, hframes.1 ▸ .nextElement hcomma hfront, hback⟩
  | endList hclose hbehind ih =>
    cases front with
    | nil =>
      rw [List.nil_append] at hframes
      exact ⟨_, .done, hframes ▸ .endList hclose hbehind⟩
    | cons frame front =>
      rw [List.cons_append, List.cons.injEq] at hframes
      obtain ⟨middle, hfront, hback⟩ := ih hframes.2
      exact ⟨middle, hframes.1 ▸ .endList hclose hfront, hback⟩
  | nextMember hcomma hkey hbehind ih =>
    cases front with
    | nil =>
      rw [List.nil_append] at hframes
      exact ⟨_, .done, hframes ▸ .nextMember hcomma hkey hbehind⟩
    | cons frame front =>
      rw [List.cons_append, List.cons.injEq] at hframes
      obtain ⟨middle, hfront, hback⟩ := @ih (.object :: front) (by rw [List.cons_append, hframes.2])
      exact ⟨middle, hframes.1 ▸ .nextMember hcomma hkey hfront, hback⟩
  | endObject hclose hbehind ih =>
    cases front with
    | nil =>
      rw [List.nil_append] at hframes
      exact ⟨_, .done, hframes ▸ .endObject hclose hbehind⟩
    | cons frame front =>
      rw [List.cons_append, List.cons.injEq] at hframes
      obtain ⟨middle, hfront, hback⟩ := ih hframes.2
      exact ⟨middle, hframes.1 ▸ .endObject hclose hfront, hback⟩

theorem passes_skipValue {bytes middle behind : Bytes} {outer : List Frame}
    (hvalue : skipValue bytes = .ok ((), middle)) (hback : Passes .ending outer middle behind) :
    Passes .value outer bytes behind :=
  @Passes.append .value [] outer _ _ _ (passes_iff.mpr hvalue) hback

/-! ### Blanks and kept values -/

theorem passes_skipBlanks {frames : List Frame} {bytes behind : Bytes} :
    Passes .value frames (skipBlanks bytes) behind ↔ Passes .value frames bytes behind := by
  have hrun : skipWithin .value frames (skipBlanks bytes) = skipWithin .value frames bytes := by
    conv => lhs; rw [skipWithin]
    conv => rhs; rw [skipWithin]
    grind [skipBlanks_skipBlanks]
  rw [passes_iff, passes_iff, hrun]

theorem Passes.of_readText {bytes rest behind : Bytes} {text : String} {frames : List Frame}
    (h : readText bytes = .ok (text, rest)) (hbehind : Passes .ending frames rest behind) :
    Passes .value frames bytes behind := by
  unfold readText at h
  split at h
  · cases h
  · next byte others hstart =>
    split at h
    · next hquote =>
      rw [hquote] at hstart
      exact .scalar hstart (by decide) (by decide)
        ((skipScalar_quoteMark others).trans (skipString_of_readString h)) hbehind
    · cases h

theorem Passes.of_readInteger {bytes rest behind : Bytes} {value : Int} {frames : List Frame}
    (h : readInteger bytes = .ok (value, rest)) (hbehind : Passes .ending frames rest behind) :
    Passes .value frames bytes behind := by
  obtain ⟨byte, others, number, hstart, hlist, hobject, hread, -⟩ := readScalar_of_readInteger h
  have halike := alike_scalar (byte :: others)
  rw [hread] at halike
  exact .scalar hstart hlist hobject halike.skipped hbehind

/-! ### Readers that take no other values -/

/-- A reader whose values are passed over alike. -/
def SkippedAlike {α : Type} (read : Bytes → Reading α) : Prop :=
  ∀ {bytes : Bytes} {value : α} {rest : Bytes},
    read bytes = .ok (value, rest) → skipValue bytes = .ok ((), rest)

theorem skippedAlike_readText : SkippedAlike readText :=
  fun h ↦ passes_iff.mp (.of_readText h .done)

theorem skippedAlike_readInteger : SkippedAlike readInteger :=
  fun h ↦ passes_iff.mp (.of_readInteger h .done)

section Elements

variable {α : Type} {element : Consumer α} (helement : SkippedAlike element.read)
  {bytes rest behind : Bytes} {values : List α}
include helement

theorem passes_of_readEach {first : Bool} {outer : List Frame} (hlater : first = false)
    (h : readEach element first bytes = .ok (values, rest))
    (hbehind : Passes .ending outer rest behind) :
    Passes .ending (.list :: outer) bytes behind := by
  fun_induction readEach element first bytes generalizing values rest with
  | case1 => cases h
  | case2 first bytes left hnext =>
    rw [Except.ok.injEq, Prod.mk.injEq] at h
    rw [← h.2] at hbehind
    exact .endList (nextElement_last_iff.mp hnext) hbehind
  | case3 => cases h
  | case4 => cases h
  | case5 first bytes more hnext value left hread others last hvalues ih =>
    rw [Except.ok.injEq, Prod.mk.injEq] at h
    rw [hlater] at hnext
    obtain ⟨tail, byte, later, hcomma, hstart, -, hmore⟩ := nextElement_later_iff.mp hnext
    refine .nextElement hcomma (passes_skipBlanks.mp ?_)
    rw [hstart, ← hmore]
    exact passes_skipValue (helement hread) (ih rfl (h.2 ▸ hvalues) hbehind)

theorem passes_of_readList {frames : List Frame} (h : readList element bytes = .ok (values, rest))
    (hbehind : Passes .ending frames rest behind) : Passes .value frames bytes behind := by
  unfold readList at h
  split at h
  · cases h
  · next byte others hstart =>
    split at h
    · next hopen =>
      rw [hopen] at hstart
      rw [readEach] at h
      split at h
      · cases h
      · next left hnext =>
        rw [Except.ok.injEq, Prod.mk.injEq] at h
        rw [← h.2] at hbehind
        exact .emptyList hstart (nextElement_last_iff.mp hnext) hbehind
      · next more hnext =>
        obtain ⟨first, later, hfirst, hmore, rfl⟩ := nextElement_first_iff.mp hnext
        split at h
        · cases h
        · next value left hread =>
          split at h
          · cases h
          · next values' left' hvalues =>
            rw [Except.ok.injEq, Prod.mk.injEq] at h
            rw [← h.2] at hbehind
            exact .list hstart hfirst hmore (passes_skipValue (helement hread)
              (passes_of_readEach helement rfl hvalues hbehind))
    · cases h

theorem skippedAlike_readList : SkippedAlike (readList element) :=
  fun h ↦ passes_iff.mp (passes_of_readList helement h .done)

end Elements

theorem skippedAlike_readTextList : SkippedAlike readTextList :=
  skippedAlike_readList skippedAlike_readText

end TokenService.Json
