import Mathlib.Data.List.Nodup
import TokenService.Proofs.Json.Grammar.Kept
import TokenService.Token.WebKey

/-!
# Web keys and their spellings

What the members of a key have to be like is said field by field: a field that every key may have is
there at most once, and some family of keys has each of its fields once (`IsWebKey`). The check of a
key goes through its members in order and finds nothing wrong exactly with those
(`problem?_eq_none_iff`). A key is then spelled by an object of such members (`SpellsWebKey`), whose
values are nested only so deep.
-/

set_option autoImplicit false
set_option relaxedAutoImplicit false

namespace TokenService.Token

open Json

namespace WebKey

/-! ### Kinds of fields -/

/-- The values of a kind. -/
inductive Kind.Admits : Kind → Value → Prop
  | text (content : String) : Kind.Admits .text (.scalar (.text content))
  | texts (contents : List String) :
      Kind.Admits .texts (.list (contents.map fun content ↦ .scalar (.text content)))
  | name {known : List String} {allowsEmpty : Bool} {given : String} (hknown : given ∈ known) :
      Kind.Admits (.name known allowsEmpty) (.scalar (.text given))
  | nothing {known : List String} {allowsEmpty : Bool} {given : String} (hknown : given ∈ known) :
      Kind.Admits (.name known allowsEmpty) (.object [(given, .scalar .null)])
  | empty {known : List String} {given : String} (hknown : given ∈ known) :
      Kind.Admits (.name known true) (.object [(given, .object [])])

theorem textProblem?_eq_none_iff {value : Value} :
    textProblem? value = none ↔ ∃ content, value = .scalar (.text content) := by
  unfold textProblem?
  grind

theorem findSome?_textProblem?_eq_none_iff {values : List Value} :
    values.findSome? textProblem? = none ↔
      ∃ contents : List String, values = contents.map fun content ↦ .scalar (.text content) := by
  simp only [List.findSome?_eq_none_iff, textProblem?_eq_none_iff]
  constructor
  · intro h
    induction values with
    | nil => exact ⟨[], rfl⟩
    | cons value values ih =>
      obtain ⟨⟨content, rfl⟩, hvalues⟩ := List.forall_mem_cons.mp h
      obtain ⟨contents, rfl⟩ := ih hvalues
      exact ⟨content :: contents, rfl⟩
  · rintro ⟨contents, rfl⟩ value hvalue
    obtain ⟨content, -, rfl⟩ := List.mem_map.mp hvalue
    exact ⟨content, rfl⟩

theorem nameProblem?_eq_none_iff {known : List String} {name : String} :
    nameProblem? known name = none ↔ name ∈ known := by
  simp [nameProblem?]

theorem contentProblem?_eq_none_iff {allowsEmpty : Bool} {value : Value} :
    contentProblem? allowsEmpty value = none ↔
      value = .scalar .null ∨ (allowsEmpty = true ∧ value = .object []) := by
  unfold contentProblem?
  grind

/-- Nothing is wrong with the values of a kind, and with no others. -/
theorem Kind.problem?_eq_none_iff {kind : Kind} {value : Value} :
    kind.problem? value = none ↔ kind.Admits value := by
  constructor
  · intro h
    unfold Kind.problem? at h
    split at h
    · obtain ⟨content, rfl⟩ := textProblem?_eq_none_iff.mp h
      exact .text content
    · obtain ⟨contents, rfl⟩ := findSome?_textProblem?_eq_none_iff.mp h
      exact .texts contents
    · cases h
    · exact .name (nameProblem?_eq_none_iff.mp h)
    · rw [Option.or_eq_none_iff] at h
      have hknown := nameProblem?_eq_none_iff.mp h.1
      rcases contentProblem?_eq_none_iff.mp h.2 with rfl | ⟨rfl, rfl⟩
      · exact .nothing hknown
      · exact .empty hknown
    · cases h
    · cases h
  · intro h
    cases h with
    | text content => rfl
    | texts contents => exact findSome?_textProblem?_eq_none_iff.mpr ⟨contents, rfl⟩
    | name hknown => exact nameProblem?_eq_none_iff.mpr hknown
    | nothing hknown =>
      exact Option.or_eq_none_iff.mpr ⟨nameProblem?_eq_none_iff.mpr hknown, rfl⟩
    | empty hknown => exact Option.or_eq_none_iff.mpr ⟨nameProblem?_eq_none_iff.mpr hknown, rfl⟩

theorem Kind.optionalProblem?_eq_none_iff {kind : Kind} {value : Value} :
    kind.optionalProblem? value = none ↔ value = .scalar .null ∨ kind.Admits value := by
  have hkind := @Kind.problem?_eq_none_iff kind value
  unfold Kind.optionalProblem?
  grind

/-! ### Fields -/

section Fields

variable {fields : List (String × Kind)} {seen : List String} {members : List (String × Value)}
  {name : String} {value : Value} {kind : Kind} {field : String × Kind}

/-- Members give a field at most once, and not at all if it has been seen before. What they give is
`null` or a value of its kind. -/
structure Conforms (seen : List String) (members : List (String × Value)) (field : String × Kind) :
    Prop where
  fresh : field.1 ∈ seen → valuesOf field.1 members = []
  once : (valuesOf field.1 members).length ≤ 1
  kind : ∀ value ∈ valuesOf field.1 members, value = .scalar .null ∨ field.2.Admits value

theorem conforms_nil (seen : List String) (field : String × Kind) : Conforms seen [] field :=
  ⟨fun _ ↦ rfl, Nat.zero_le 1, List.forall_mem_nil _⟩

theorem conforms_cons_of_ne (hname : name ≠ field.1) :
    Conforms seen ((name, value) :: members) field ↔ Conforms seen members field := by
  have hvalues := valuesOf_cons_of_ne hname value members
  constructor
  · rintro ⟨hfresh, honce, hkind⟩
    rw [hvalues] at hfresh honce hkind
    exact ⟨hfresh, honce, hkind⟩
  · rintro ⟨hfresh, honce, hkind⟩
    rw [← hvalues] at hfresh honce hkind
    exact ⟨hfresh, honce, hkind⟩

theorem conforms_see_of_ne (hname : name ≠ field.1) :
    Conforms (name :: seen) members field ↔ Conforms seen members field := by
  have hseen : field.1 ∈ name :: seen ↔ field.1 ∈ seen := by simp [Ne.symm hname]
  constructor
  · rintro ⟨hfresh, honce, hkind⟩
    exact ⟨fun hmem ↦ hfresh (hseen.mpr hmem), honce, hkind⟩
  · rintro ⟨hfresh, honce, hkind⟩
    exact ⟨fun hmem ↦ hfresh (hseen.mp hmem), honce, hkind⟩

/-- A member of a field that has not been seen is its only one. -/
theorem conforms_cons_self (hname : name ∉ seen) :
    Conforms seen ((name, value) :: members) (name, kind) ↔
      (value = .scalar .null ∨ kind.Admits value) ∧
        Conforms (name :: seen) members (name, kind) := by
  have hvalues := valuesOf_cons_self name value members
  constructor
  · rintro ⟨-, honce, hkind⟩
    rw [hvalues] at honce hkind
    obtain ⟨hvalue, hothers⟩ := List.forall_mem_cons.mp hkind
    have hnone : valuesOf name members = [] := by
      rw [List.length_cons] at honce
      exact List.length_eq_zero_iff.mp (by omega)
    exact ⟨hvalue, fun _ ↦ hnone, by simp [hnone], hothers⟩
  · rintro ⟨hvalue, hfresh, -, hkind⟩
    have hnone := hfresh List.mem_cons_self
    refine ⟨fun hmem ↦ absurd hmem hname, ?_, ?_⟩
    · rw [hvalues, hnone, List.length_singleton]
    · rw [hvalues]
      exact List.forall_mem_cons.mpr ⟨hvalue, hkind⟩

/-- One member: if it is of a field, it has to be a new one of the right kind. -/
theorem forall_conforms_cons (hfields : (fields.map Prod.fst).Nodup) (hkind : (name, kind) ∈ fields)
    (hname : name ∉ seen) :
    (∀ field ∈ fields, Conforms seen ((name, value) :: members) field) ↔
      (value = .scalar .null ∨ kind.Admits value) ∧
        ∀ field ∈ fields, Conforms (name :: seen) members field := by
  have hother : ∀ field ∈ fields, name = field.1 → field = (name, kind) := by
    intro field hfield hsame
    exact List.inj_on_of_nodup_map hfields hfield hkind hsame.symm
  constructor
  · intro h
    refine ⟨((conforms_cons_self hname).mp (h _ hkind)).1, fun field hfield ↦ ?_⟩
    by_cases hsame : name = field.1
    · rw [hother field hfield hsame]
      exact ((conforms_cons_self hname).mp (h _ hkind)).2
    · exact (conforms_see_of_ne hsame).mpr ((conforms_cons_of_ne hsame).mp (h field hfield))
  · rintro ⟨hvalue, h⟩ field hfield
    by_cases hsame : name = field.1
    · rw [hother field hfield hsame]
      exact (conforms_cons_self hname).mpr ⟨hvalue, h _ hkind⟩
    · exact (conforms_cons_of_ne hsame).mpr ((conforms_see_of_ne hsame).mp (h field hfield))

theorem fieldProblem?_eq_none_iff (hfields : (fields.map Prod.fst).Nodup) :
    fieldProblem? fields seen members = none ↔ ∀ field ∈ fields, Conforms seen members field := by
  induction members generalizing seen with
  | nil => exact ⟨fun _ field _ ↦ conforms_nil seen field, fun _ ↦ rfl⟩
  | cons member members ih =>
    obtain ⟨name, value⟩ := member
    rw [fieldProblem?]
    split
    · next hnone =>
      rw [List.lookup_eq_none_iff] at hnone
      have hname : ∀ field ∈ fields, name ≠ field.1 := fun field hfield ↦ by
        simpa using hnone field hfield
      rw [ih]
      exact forall₂_congr fun field hfield ↦ (conforms_cons_of_ne (hname field hfield)).symm
    · next kind hsome =>
      have hkind : (name, kind) ∈ fields := by
        obtain ⟨before, after, rfl, -⟩ := List.lookup_eq_some_iff.mp hsome
        simp
      split
      · next hname =>
        refine ⟨nofun, fun h ↦ ?_⟩
        have hnone := (h _ hkind).fresh hname
        rw [valuesOf_cons_self] at hnone
        cases hnone
      · next hname =>
        rw [Option.or_eq_none_iff, Kind.optionalProblem?_eq_none_iff, ih,
          forall_conforms_cons hfields hkind hname]

end Fields

/-- Members of a key: each field that every key may have is there at most once, and some family has
each of its fields once. -/
structure IsWebKey (members : List (String × Value)) : Prop where
  common : ∀ field ∈ commonFields, (valuesOf field.1 members).length ≤ 1 ∧
    ∀ value ∈ valuesOf field.1 members, value = .scalar .null ∨ field.2.Admits value
  family : ∃ fields ∈ families, ∀ field ∈ fields,
    ∃ value, valuesOf field.1 members = [value] ∧ field.2.Admits value

theorem fits_iff {fields : List (String × Kind)} {members : List (String × Value)} :
    fits members fields = true ↔ ∀ field ∈ fields,
      ∃ value, valuesOf field.1 members = [value] ∧ field.2.Admits value := by
  rw [fits, List.all_eq_true]
  refine forall₂_congr fun field _ ↦ ?_
  split
  · next value hvalue =>
    simp [hvalue, Kind.problem?_eq_none_iff]
  · next hother =>
    refine iff_of_false Bool.false_ne_true ?_
    rintro ⟨value, hvalue, -⟩
    exact hother value hvalue

/-- Nothing is wrong with the members of a key, and with no others. -/
theorem problem?_eq_none_iff {members : List (String × Value)} :
    problem? members = none ↔ IsWebKey members := by
  have hcommon : fieldProblem? commonFields [] members = none ↔
      ∀ field ∈ commonFields, Conforms [] members field :=
    fieldProblem?_eq_none_iff (by decide)
  have hfamily : (if families.any (fits members) then none
      else some (.noVariant "AlgorithmParameters") : Option Problem) = none ↔
      ∃ fields ∈ families, ∀ field ∈ fields,
        ∃ value, valuesOf field.1 members = [value] ∧ field.2.Admits value := by
    simp only [← fits_iff, ite_eq_left_iff, reduceCtorEq, imp_false, Decidable.not_not,
      List.any_eq_true]
  rw [problem?, Option.or_eq_none_iff, hcommon, hfamily]
  constructor
  · rintro ⟨h, hfits⟩
    exact ⟨fun field hfield ↦ ⟨(h field hfield).once, (h field hfield).kind⟩, hfits⟩
  · rintro ⟨h, hfits⟩
    exact ⟨fun field hfield ↦ ⟨nofun, (h field hfield).1, (h field hfield).2⟩, hfits⟩

end WebKey

/-! ### Spellings -/

/-- The spellings of a key. -/
def SpellsWebKey (token : Bytes) : Prop :=
  ∃ members, SpellsEntries (SpellsValue webKeyNesting) members token ∧ WebKey.IsWebKey members

theorem SpellsWebKey.opens {token : Bytes} (h : SpellsWebKey token) : Opens token := by
  obtain ⟨-, ⟨-, -, -, inner, -, -, rfl⟩, -⟩ := h
  exact opens_cons _ rfl (by decide) (by decide)

theorem readsOnly_readWebKey : ReadsOnly readWebKey fun _ token ↦ SpellsWebKey token := by
  intro bytes rest _ h
  unfold readWebKey at h
  split at h
  · cases h
  next byte others hstart =>
  obtain ⟨-, blanks, hblanks, rfl⟩ := skipBlanks_eq_cons_iff.mp hstart
  split_ifs at h with hobject
  split at h
  · cases h
  next members left hread =>
  split at h
  · cases h
  next hproblem =>
  rw [Except.ok.injEq, Prod.mk.injEq] at h
  obtain ⟨entries, parts, inner, hentries, hparts, hinner, rfl⟩ :=
    exists_of_readEntries (readsOnly_valueReader webKeyNesting) hread
  refine ⟨blanks, ascii '\x7b' :: (inner ++ [ascii '\x7d']), hblanks,
    ⟨members, ⟨entries, hentries, parts, inner, hparts, hinner, rfl⟩,
      WebKey.problem?_eq_none_iff.mp hproblem⟩, ?_⟩
  rw [hobject, h.2]
  simp

theorem readsAll_readWebKey : ReadsAll readWebKey fun _ token ↦ SpellsWebKey token := by
  rintro blanks _ rest _ hblanks
    ⟨members, ⟨entries, hentries, parts, inner, hparts, hinner, rfl⟩, hkey⟩ -
  simp only [List.append_assoc, List.cons_append, List.nil_append]
  rw [readWebKey, skipBlanks_append_cons hblanks rfl]
  dsimp only
  rw [if_pos rfl, readEntries_append (readsAll_valueReader webKeyNesting) hentries hparts hinner]
  dsimp only
  rw [WebKey.problem?_eq_none_iff.mpr hkey]

end TokenService.Token
