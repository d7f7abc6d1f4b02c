import TokenService.EnvFile.Assignments
import TokenService.Proofs.Text.Utf8

/-!
# What a variable file changes

An assignment gives a value to a variable that has none, and changes nothing else (`text?_define`).
So after all assignments of a file a variable has the value that it had before, or else the first
one that the file assigns to it (`text?_of_carryOut`). They can all be carried out exactly if none
of these first values holds a zero (`Settable`); otherwise it is such a variable that is at fault
(`eq_error_of_carryOut`).

Whether a line is malformed depends on the line alone, although its value may name other variables:
what these hold is put in as it is (`readLine_eq_none_iff`). A malformed line and all behind it
change nothing (`assignmentsOf_of_isMalformed`).
-/

set_option autoImplicit false
set_option relaxedAutoImplicit false

namespace TokenService

/-! ### Environments -/

namespace Environment

variable {environment next : Environment} {name value : String}

theorem text?_cons (environment : Environment) (name other value : String) :
    text? ((name, Text.Utf8.encode value) :: environment) other =
      if other = name then some value else environment.text? other := by
  rw [text?, List.lookup_cons]
  by_cases hname : other = name
  · rw [beq_iff_eq.mpr hname, if_pos hname]
    exact Text.Utf8.decode?_encode value
  · rw [beq_false_of_ne hname, if_neg hname]
    rfl

theorem define_of_some {held : String} (htext : environment.text? name = some held) :
    environment.define name value = .ok environment := by
  rw [define, htext]
  rfl

theorem define_of_zero (htext : environment.text? name = none) (hzero : '\x00' ∈ value.toList) :
    environment.define name value = .error ⟨name, value⟩ := by
  rw [define, htext, if_neg (by simp), if_pos hzero]

theorem define_of_none (htext : environment.text? name = none) (hzero : '\x00' ∉ value.toList) :
    environment.define name value = .ok ((name, Text.Utf8.encode value) :: environment) := by
  rw [define, htext, if_neg (by simp), if_neg hzero]

/-- Only a zero in the value of a variable that has none yet is at fault. -/
theorem define_eq_error_iff {fault : Fault} : environment.define name value = .error fault ↔
    environment.text? name = none ∧ '\x00' ∈ value.toList ∧ fault = ⟨name, value⟩ := by
  cases htext : environment.text? name with
  | some held =>
    rw [define_of_some htext]
    exact iff_of_false nofun nofun
  | none =>
    by_cases hzero : '\x00' ∈ value.toList
    · rw [define_of_zero htext hzero, Except.error.injEq, eq_comm]
      exact ⟨fun hfault ↦ ⟨rfl, hzero, hfault⟩, fun h ↦ h.2.2⟩
    · rw [define_of_none htext hzero]
      exact iff_of_false nofun fun h ↦ hzero h.2.1

/-- A variable is defined by its own definition alone, and only if it has no value yet. -/
theorem text?_define (h : environment.define name value = .ok next) (other : String) :
    next.text? other =
      (environment.text? other).or (if other = name then some value else none) := by
  cases htext : environment.text? name with
  | some held =>
    rw [define_of_some htext, Except.ok.injEq] at h
    subst h
    by_cases hname : other = name
    · rw [hname, htext, Option.some_or]
    · rw [if_neg hname, Option.or_none]
  | none =>
    by_cases hzero : '\x00' ∈ value.toList
    · rw [define_of_zero htext hzero] at h
      cases h
    · rw [define_of_none htext hzero, Except.ok.injEq] at h
      subst h
      rw [text?_cons]
      by_cases hname : other = name
      · rw [if_pos hname, if_pos hname, hname, htext, Option.none_or]
      · rw [if_neg hname, if_neg hname, Option.or_none]

end Environment

namespace EnvFile

variable {environment next : Environment} {assignments : Assignments} {line : List Char}
  {bad : Option (List Char)}

/-! ### Assignments -/

/-- The first values that are assigned to variables without one do not hold a zero. -/
def Settable (environment : Environment) (assignments : Assignments) : Prop :=
  ∀ name value, environment.text? name = none → assignments.lookup name = some value →
    '\x00' ∉ value.toList

theorem carryOut_cons (name value : String) :
    carryOut environment ((name, value) :: assignments) =
      environment.define name value >>= (carryOut · assignments) :=
  List.foldlM_cons

theorem carryOut_cons_of_ok {name value : String}
    (hdefine : environment.define name value = .ok next) :
    carryOut environment ((name, value) :: assignments) = carryOut next assignments := by
  rw [carryOut_cons, hdefine]
  rfl

theorem carryOut_cons_of_error {name value : String} {fault : Environment.Fault}
    (hdefine : environment.define name value = .error fault) :
    carryOut environment ((name, value) :: assignments) = .error fault := by
  rw [carryOut_cons, hdefine]
  rfl

/-- Of several assignments the first one counts, and none of them for a variable with a value. -/
theorem text?_of_carryOut (h : carryOut environment assignments = .ok next) (other : String) :
    next.text? other = (environment.text? other).or (assignments.lookup other) := by
  -- The environment grows on the way, so the induction is over all of them.
  induction assignments generalizing environment with
  | nil =>
    cases h
    rw [List.lookup_nil, Option.or_none]
  | cons assignment assignments ih =>
    obtain ⟨name, value⟩ := assignment
    cases hdefine : environment.define name value with
    | error fault =>
      rw [carryOut_cons_of_error hdefine] at h
      cases h
    | ok grown =>
      rw [carryOut_cons_of_ok hdefine] at h
      rw [ih h, Environment.text?_define hdefine, Option.or_assoc, List.lookup_cons]
      by_cases hname : other = name
      · rw [if_pos hname, beq_iff_eq.mpr hname, Option.some_or]
      · rw [if_neg hname, beq_false_of_ne hname, Option.none_or]

theorem settable_of_carryOut (h : carryOut environment assignments = .ok next) :
    Settable environment assignments := by
  induction assignments generalizing environment with
  | nil => exact fun name value _ hlookup ↦ absurd hlookup nofun
  | cons assignment assignments ih =>
    obtain ⟨first, given⟩ := assignment
    intro name value htext hlookup hzero
    cases hdefine : environment.define first given with
    | error fault =>
      rw [carryOut_cons_of_error hdefine] at h
      cases h
    | ok grown =>
      rw [carryOut_cons_of_ok hdefine] at h
      rw [List.lookup_cons] at hlookup
      by_cases hname : name = first
      · rw [beq_iff_eq.mpr hname, Option.some.injEq] at hlookup
        rw [hname] at htext
        rw [hlookup, Environment.define_of_zero htext hzero] at hdefine
        cases hdefine
      · rw [beq_false_of_ne hname] at hlookup
        have hgrown : grown.text? name = none := by
          rw [Environment.text?_define hdefine, htext, if_neg hname, Option.or_none]
        exact ih h name value hgrown hlookup hzero

/-- Assignments that are not carried out fail at a first value, of a variable without one, that
holds a zero. -/
theorem eq_error_of_carryOut {fault : Environment.Fault}
    (h : carryOut environment assignments = .error fault) :
    environment.text? fault.name = none ∧ assignments.lookup fault.name = some fault.value ∧
      '\x00' ∈ fault.value.toList := by
  induction assignments generalizing environment with
  | nil => cases h
  | cons assignment assignments ih =>
    obtain ⟨name, value⟩ := assignment
    rw [List.lookup_cons]
    cases hdefine : environment.define name value with
    | error cause =>
      rw [carryOut_cons_of_error hdefine, Except.error.injEq] at h
      obtain ⟨htext, hzero, rfl⟩ := Environment.define_eq_error_iff.mp (h ▸ hdefine)
      exact ⟨htext, by rw [beq_self_eq_true], hzero⟩
    | ok grown =>
      rw [carryOut_cons_of_ok hdefine] at h
      obtain ⟨htext, hlookup, hzero⟩ := ih h
      rw [Environment.text?_define hdefine, Option.or_eq_none_iff] at htext
      have hname : fault.name ≠ name := fun hname ↦ by
        rw [if_pos hname] at htext
        cases htext.2
      rw [beq_false_of_ne hname]
      exact ⟨htext.1, hlookup, hzero⟩

/-- All assignments are carried out exactly if no such value holds a zero. -/
theorem exists_carryOut_iff :
    (∃ next, carryOut environment assignments = .ok next) ↔ Settable environment assignments := by
  constructor
  · rintro ⟨next, h⟩
    exact settable_of_carryOut h
  · intro hsettable
    cases h : carryOut environment assignments with
    | ok next => exact ⟨next, rfl⟩
    | error fault =>
      obtain ⟨htext, hlookup, hzero⟩ := eq_error_of_carryOut h
      exact absurd hzero (hsettable _ _ htext hlookup)

instance decidableSettable (environment : Environment) (assignments : Assignments) :
    Decidable (Settable environment assignments) :=
  match h : carryOut environment assignments with
  | .ok _ => .isTrue (settable_of_carryOut h)
  | .error _ =>
    .isFalse fun hsettable ↦ (exists_carryOut_iff.mpr hsettable).elim fun _ hnext ↦
      absurd (h.symm.trans hnext) nofun

/-! ### Malformed lines -/

/-- Whether characters spell a value does not depend on the values that they name. -/
theorem readValue_eq_none_iff (valueOf other : String → String) (part : Part)
    (characters : List Char) :
    readValue valueOf part characters = none ↔ readValue other part characters = none := by
  -- The values only get into what is read, never into the part that reads on.
  induction characters generalizing part with
  | nil => cases part <;> simp [readValue]
  | cons character characters ih =>
    cases part with
    | plain quoted =>
      simp only [readValue]
      split
      · exact ih _
      · simp only [Option.map_eq_none_iff, ih]
    | escape quoted =>
      simp only [readValue]
      split
      · simp only [Option.map_eq_none_iff, ih]
      · exact Iff.rfl
    | strong =>
      simp only [readValue]
      split
      · exact ih _
      · simp only [Option.map_eq_none_iff, ih]
    | name quoted name =>
      simp only [readValue]
      split
      · exact ih _
      split
      · exact ih _
      split
      · simp only [Option.map_eq_none_iff, ih]
      · simp only [Option.map_eq_none_iff, ih]
    | braced quoted name =>
      simp only [readValue]
      split
      · simp only [Option.map_eq_none_iff, ih]
      · exact ih _
    | ended =>
      simp only [readValue]
      split
      · exact ih _
      · exact Iff.rfl

theorem readLine_eq_none_iff (valueOf other : String → String) (line : List Char) :
    readLine valueOf line = none ↔ readLine other line = none := by
  simp only [readLine]
  split
  · exact Iff.rfl
  split
  · exact Iff.rfl
  next name rest _ =>
  split
  · exact Iff.rfl
  have hvalue := readValue_eq_none_iff valueOf other (.plain false) (Text.Space.trimStart rest)
  cases hread : readValue valueOf (.plain false) (Text.Space.trimStart rest) with
  | none => rw [hvalue.mp hread]
  | some meant =>
    cases hother : readValue other (.plain false) (Text.Space.trimStart rest) with
    | none => exact absurd (hread.symm.trans (hvalue.mpr hother)) nofun
    | some _ => exact iff_of_false nofun nofun

/-- A line that is no text, or that says nothing whatever the variables hold. -/
def IsMalformed (line : Option (List Char)) : Prop :=
  ∀ valueOf, line.bind (readLine valueOf) = none

theorem isMalformed_some_iff (valueOf : String → String) :
    IsMalformed (some line) ↔ readLine valueOf line = none :=
  ⟨fun h ↦ h valueOf, fun h other ↦ (readLine_eq_none_iff other valueOf line).mpr h⟩

/-- A malformed line and the lines behind it assign nothing. -/
theorem assignmentsOf_of_isMalformed (hbad : IsMalformed bad)
    (before after : List (Option (List Char))) :
    assignmentsOf environment (before ++ bad :: after) = assignmentsOf environment before := by
  induction before generalizing environment with
  | nil =>
    cases bad with
    | none => rfl
    | some line =>
      have hline := (isMalformed_some_iff (valueOf environment)).mp hbad
      simp only [List.nil_append, assignmentsOf, hline]
  | cons line before ih =>
    cases line with
    | none => rfl
    | some line =>
      rw [List.cons_append, assignmentsOf, assignmentsOf]
      cases readLine (valueOf environment) line with
      | none => rfl
      | some content =>
        cases content with
        | blank => exact ih
        | assignment name value =>
          dsimp only
          cases environment.define name value with
          | error _ => rfl
          | ok _ => exact congrArg ((name, value) :: ·) ih

end EnvFile

end TokenService
