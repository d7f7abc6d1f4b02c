import TokenService.Http.Service
import TokenService.Proofs.Refusal

/-!
# Lifetimes as they are asked for

A query gives each of the two parameters at most one value. `valueCount` counts the values that a
parameter is given; where neither count exceeds one the lifetime holds the one value of each
(`ofQuery_of_le_one`), and otherwise there is a fault, whatever the values are
(`exists_ofQuery_fault`). A lifetime that does not resolve is the fault of the request
(`isOfRequest_of_resolve`).
-/

set_option autoImplicit false
set_option relaxedAutoImplicit false

namespace TokenService

namespace Lifetime

variable {lifetime : Lifetime} {refusal : Refusal} {pairs : List (String × String)}

/-! ### Resolving -/

theorem isOfRequest_of_parameter {name value : String}
    (h : parameter name value = .error refusal) : refusal.IsOfRequest := by
  unfold parameter at h
  split at h
  · cases h
  · rw [← Except.error.inj h]
    exact nofun

theorem isOfRequest_of_ofDays {days : Int} (h : ofDays days = .error refusal) :
    refusal.IsOfRequest := by
  unfold ofDays at h
  split at h
  · cases h
  · rw [← Except.error.inj h]
    exact nofun

/-- A lifetime that does not resolve is the fault of the request. -/
theorem isOfRequest_of_resolve (h : lifetime.resolve = .error refusal) : refusal.IsOfRequest := by
  unfold resolve at h
  split at h
  · exact isOfRequest_of_parameter h
  · split at h
    · next hparameter =>
      rw [Except.error.inj h] at hparameter
      exact isOfRequest_of_parameter hparameter
    · exact isOfRequest_of_ofDays h
  · exact isOfRequest_of_ofDays h

/-! ### Named values -/

/-- How many values a parameter is given: the one that it may hold already, and one by each pair of
its name. -/
def valueCount (held : Option String) (name : String) (pairs : List (String × String)) : Nat :=
  held.toList.length + (pairs.map Prod.fst).count name

theorem valueCount_none (name : String) (pairs : List (String × String)) :
    valueCount none name pairs = (pairs.map Prod.fst).count name := by
  rw [valueCount, Option.toList_none, List.length_nil, Nat.zero_add]

theorem valueCount_cons_of_ne {name other : String} (hname : other ≠ name) (held : Option String)
    (value : String) (pairs : List (String × String)) :
    valueCount held name ((other, value) :: pairs) = valueCount held name pairs := by
  rw [valueCount, valueCount, List.map_cons, List.count_cons_of_ne hname]

/-- A value that is met counts as much as one that is held. -/
theorem valueCount_cons_self (name value : String) (pairs : List (String × String)) :
    valueCount none name ((name, value) :: pairs) = valueCount (some value) name pairs := by
  rw [valueCount, valueCount, List.map_cons, List.count_cons_self, Option.toList_none,
    Option.toList_some, List.length_nil, List.length_singleton]
  omega

theorem one_lt_valueCount_cons_self (name held value : String) (pairs : List (String × String)) :
    1 < valueCount (some held) name ((name, value) :: pairs) := by
  rw [valueCount, List.map_cons, List.count_cons_self, Option.toList_some, List.length_singleton]
  omega

theorem lookup_cons_of_ne {name other : String} (hname : other ≠ name) (value : String)
    (pairs : List (String × String)) :
    ((other, value) :: pairs).lookup name = pairs.lookup name := by
  rw [List.lookup_cons, beq_false_of_ne hname.symm]

/-- Where no parameter has more than one value, each comes to hold the one that it has. -/
theorem ofPairs_of_le_one (hseconds : valueCount lifetime.seconds "seconds" pairs ≤ 1)
    (hdays : valueCount lifetime.days "days" pairs ≤ 1) : ofPairs lifetime pairs =
      .ok ⟨lifetime.seconds.or (pairs.lookup "seconds"),
        lifetime.days.or (pairs.lookup "days")⟩ := by
  induction pairs generalizing lifetime with
  | nil => simp [ofPairs]
  | cons pair pairs ih =>
    obtain ⟨name, value⟩ := pair
    obtain ⟨seconds, days⟩ := lifetime
    dsimp only at hseconds hdays ⊢
    by_cases hname : name = "seconds"
    · subst hname
      have hother : ("seconds" : String) ≠ "days" := by decide
      rw [valueCount_cons_of_ne hother] at hdays
      cases seconds with
      | some held => exact absurd hseconds (Nat.not_le.mpr (one_lt_valueCount_cons_self _ _ _ _))
      | none =>
        rw [valueCount_cons_self] at hseconds
        rw [ofPairs, if_pos rfl, List.lookup_cons_self, lookup_cons_of_ne hother]
        exact ih hseconds hdays
    · rw [valueCount_cons_of_ne hname] at hseconds
      by_cases hname' : name = "days"
      · subst hname'
        cases days with
        | some held => exact absurd hdays (Nat.not_le.mpr (one_lt_valueCount_cons_self _ _ _ _))
        | none =>
          rw [valueCount_cons_self] at hdays
          rw [ofPairs, if_neg hname, if_pos rfl, List.lookup_cons_self, lookup_cons_of_ne hname]
          exact ih hseconds hdays
      · rw [valueCount_cons_of_ne hname'] at hdays
        rw [ofPairs, if_neg hname, if_neg hname', ih hseconds hdays, lookup_cons_of_ne hname,
          lookup_cons_of_ne hname']

/-- Where a parameter has more than one value there is a fault. -/
theorem exists_ofPairs_fault (h : 1 < valueCount lifetime.seconds "seconds" pairs ∨
    1 < valueCount lifetime.days "days" pairs) : ∃ name, ofPairs lifetime pairs = .error name := by
  induction pairs generalizing lifetime with
  | nil =>
    obtain ⟨seconds, days⟩ := lifetime
    cases seconds <;> cases days <;> simp [valueCount] at h
  | cons pair pairs ih =>
    obtain ⟨name, value⟩ := pair
    obtain ⟨seconds, days⟩ := lifetime
    dsimp only at h
    by_cases hname : name = "seconds"
    · subst hname
      have hother : ("seconds" : String) ≠ "days" := by decide
      rw [valueCount_cons_of_ne hother] at h
      rw [ofPairs, if_pos rfl]
      cases seconds with
      | some held => exact ⟨_, rfl⟩
      | none =>
        rw [valueCount_cons_self] at h
        exact ih h
    · rw [valueCount_cons_of_ne hname] at h
      by_cases hname' : name = "days"
      · subst hname'
        rw [ofPairs, if_neg hname, if_pos rfl]
        cases days with
        | some held => exact ⟨_, rfl⟩
        | none =>
          rw [valueCount_cons_self] at h
          exact ih h
      · rw [valueCount_cons_of_ne hname'] at h
        rw [ofPairs, if_neg hname, if_neg hname']
        exact ih h

/-! ### Queries -/

/-- How many values a query gives a parameter. -/
def timesGiven (query : Bytes) (name : String) : Nat :=
  ((Http.Form.pairs query).map Prod.fst).count name

/-- The lifetime with the first value that a query gives each parameter. -/
def ofFirstValues (query : Bytes) : Lifetime :=
  ⟨(Http.Form.pairs query).lookup "seconds", (Http.Form.pairs query).lookup "days"⟩

theorem ofQuery_of_le_one {query : Bytes} (hseconds : timesGiven query "seconds" ≤ 1)
    (hdays : timesGiven query "days" ≤ 1) : ofQuery query = .ok (ofFirstValues query) := by
  rw [timesGiven, ← valueCount_none] at hseconds hdays
  exact ofPairs_of_le_one hseconds hdays

theorem exists_ofQuery_fault {query : Bytes}
    (h : 1 < timesGiven query "seconds" ∨ 1 < timesGiven query "days") :
    ∃ name, ofQuery query = .error name := by
  rw [timesGiven, timesGiven, ← valueCount_none, ← valueCount_none] at h
  exact exists_ofPairs_fault h

end Lifetime

end TokenService
