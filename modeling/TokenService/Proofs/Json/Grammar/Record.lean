import TokenService.Proofs.Json.Grammar.Value
import TokenService.Proofs.Json.Grammar.Walk
import TokenService.Proofs.Json.Record

/-!
# Records and their spellings

A record is read from an object whose members set its fields one after another (`Adds`), or from a
list of all fields in order (`AddsEach`). Given the spellings of its fields, the texts that hold a
record are those that spell one (`parse_append`, `exists_of_parse`).

The fields are looked at one by one. A field is set by the one member of its name and kept by every
other (`Adds.exists_valuesOf`, `Adds.field_eq`), and members that set no field twice are added in
any order (`exists_adds`). The value of a field of one record may be passed over by the reader of
another, as what is kept is well-formed (`isValue_of_spells`).
-/

set_option autoImplicit false
set_option relaxedAutoImplicit false

namespace TokenService.Json

theorem readsAll_skipValue : ReadsAll skipValue fun _ token ↦ IsValue token :=
  skipValue_append

theorem readsOnly_skipValue : ReadsOnly skipValue fun _ token ↦ IsValue token :=
  exists_of_skipValue

section Kept

variable {α : Type} {read : Bytes → Reading α} {Spells : α → Bytes → Prop} {value : α}
  {token : Bytes}

theorem isValue_of_skipValue (hstart : skipBlanks token = token)
    (h : skipValue token = .ok ((), [])) : IsValue token :=
  readsOnly_skipValue.spells hstart h

/-- What a reader keeps is well-formed if the reader ends where the value does. -/
theorem isValue_of_spells (hall : ReadsAll read Spells) (halike : SkippedAlike read)
    (hbegins : Begins token) (h : Spells value token) : IsValue token := by
  have hread : read ([] ++ (token ++ [])) = .ok (value, []) := hall .nil h ⟨rfl, rfl⟩
  rw [List.nil_append, List.append_nil] at hread
  exact isValue_of_skipValue hbegins.skipBlanks_eq (halike hread)

theorem SpellsText.isValue {text : String} (h : SpellsText text token) : IsValue token :=
  isValue_of_spells readsAll_readText skippedAlike_readText h.begins h

theorem SpellsInteger.isValue {number : Int} (h : SpellsInteger number token) : IsValue token :=
  isValue_of_spells readsAll_readInteger skippedAlike_readInteger h.begins h

theorem SpellsList.isValue {texts : List String} (h : SpellsList SpellsText texts token) :
    IsValue token :=
  isValue_of_spells readsAll_readTextList skippedAlike_readTextList h.begins h

end Kept

/-- The text holds one object, with nothing but blanks around it. -/
def IsObject (text : Bytes) : Prop :=
  ∃ before inner after, Blanks before ∧ Blanks after ∧ IsValue (ascii '\x7b' :: inner) ∧
    text = before ++ (ascii '\x7b' :: (inner ++ after))

namespace Record

variable {σ α : Type} {record : Record σ} {Spells : σ → String → σ → Bytes → Prop}
  {draft longer whole : Draft σ} {value changed : σ} {bytes rest token : Bytes} {name : String}
  {names : List String} {first : Bool} {members : List (String × Bytes)} {parts : List Bytes}
  {inner : Bytes}

/-! ### Members one after another -/

/-- What members make of a draft, in order. A member of a known name sets its field, which is not
set yet; any other has some value. -/
inductive Adds (record : Record σ) (Spells : σ → String → σ → Bytes → Prop) :
    Draft σ → List (String × Bytes) → Draft σ → Prop
  | nil {draft : Draft σ} : Adds record Spells draft [] draft
  | field {draft whole : Draft σ} {name : String} {token : Bytes} {changed : σ}
      {members : List (String × Bytes)} (hname : name ∈ record.names) (hfirst : name ∉ draft.seen)
      (hvalue : Spells draft.value name changed token)
      (hmore : Adds record Spells ⟨name :: draft.seen, changed⟩ members whole) :
      Adds record Spells draft ((name, token) :: members) whole
  | other {draft whole : Draft σ} {name : String} {token : Bytes}
      {members : List (String × Bytes)} (hname : name ∉ record.names) (hvalue : IsValue token)
      (hmore : Adds record Spells draft members whole) :
      Adds record Spells draft ((name, token) :: members) whole

/-- What parts make of a record, one for each of some fields. -/
inductive AddsEach (Spells : σ → String → σ → Bytes → Prop) :
    List String → σ → List Bytes → σ → Prop
  | nil {value : σ} : AddsEach Spells [] value [] value
  | cons {names : List String} {name : String} {parts : List Bytes} {part : Bytes}
      {start changed value : σ} (hpart : Spells start name changed part)
      (hmore : AddsEach Spells names changed parts value) :
      AddsEach Spells (name :: names) start (part :: parts) value

/-- The spellings of a record: an object that has the required fields, or a list of all fields. -/
inductive SpellsRecord (record : Record σ) (Spells : σ → String → σ → Bytes → Prop) :
    σ → Bytes → Prop
  | object {members : List (String × Bytes)} {draft : Draft σ} {token : Bytes}
      (hadds : Adds record Spells ⟨[], record.start⟩ members draft)
      (hrequired : ∀ name ∈ record.required, name ∈ draft.seen)
      (hobject : SpellsObject members token) : SpellsRecord record Spells draft.value token
  | list {parts : List Bytes} {inner : Bytes} {value : σ}
      (hparts : AddsEach Spells record.names record.start parts value)
      (hinner : Separated true parts inner) :
      SpellsRecord record Spells value (ascii '[' :: (inner ++ [ascii ']']))

/-! ### Every spelling is read -/

section Append

variable (hall : ∀ state name, ReadsAll (record.read state name) (Spells state name))
include hall

theorem readMembers_append (hadds : Adds record Spells draft members whole)
    (hmembers : List.Forall₂ SpellsMember members parts) (hinner : Separated first parts inner)
    (rest : Bytes) :
    record.readMembers first draft (inner ++ ascii '\x7d' :: rest) = .ok (whole, rest) := by
  induction hadds generalizing first parts inner with
  | nil =>
    cases hmembers
    cases hinner with
    | nil hblanks => exact readMembers_iff.mpr (Or.inl ⟨nextMember_end first hblanks rest, rfl⟩)
  | @field draft whole name token changed members hname hfirst hvalue _ ih =>
    cases hmembers with
    | cons hmember hmembers =>
      obtain ⟨⟨key, before, after, value, hbefore, hafter⟩, hkey, rfl, rfl⟩ := hmember
      cases hinner with
      | cons hfront hothers =>
        simp only [Entry.text, List.append_assoc, List.cons_append]
        refine readMembers_of_member (nextMember_append hfront hkey _)
          (readField_iff.mpr (Or.inl ⟨hname, hfirst, changed, ?_, rfl⟩)) (ih hmembers hothers)
        exact readMember_append (hall _ _) hbefore hafter hvalue (hothers.endsNumber ⟨rfl, rfl⟩)
  | @other draft whole name token members hname hvalue _ ih =>
    cases hmembers with
    | cons hmember hmembers =>
      obtain ⟨⟨key, before, after, value, hbefore, hafter⟩, hkey, rfl, rfl⟩ := hmember
      cases hinner with
      | cons hfront hothers =>
        simp only [Entry.text, List.append_assoc, List.cons_append]
        refine readMembers_of_member (nextMember_append hfront hkey _)
          (readField_iff.mpr (Or.inr ⟨hname, ?_, rfl⟩)) (ih hmembers hothers)
        exact readMember_append readsAll_skipValue hbefore hafter hvalue
          (hothers.endsNumber ⟨rfl, rfl⟩)

theorem readElements_append (hbegins : ∀ {state name changed token},
      Spells state name changed token → Begins token) {start : σ}
    (hparts : AddsEach Spells names start parts value) (hinner : Separated first parts inner)
    (rest : Bytes) :
    record.readElements names first start (inner ++ ascii ']' :: rest) = .ok (value, rest) := by
  induction hparts generalizing first inner with
  | nil =>
    cases hinner with
    | nil hblanks => rw [readElements, readListEnd_iff.mpr ⟨_, hblanks, rfl⟩]
  | @cons names name parts part start changed value hpart _ ih =>
    cases hinner with
    | @cons _ front _ others _ hfront hothers =>
      have hread : record.read start name ([] ++ (part ++ (others ++ ascii ']' :: rest))) =
          .ok (changed, others ++ ascii ']' :: rest) :=
        hall start name .nil hpart (hothers.endsNumber ⟨rfl, rfl⟩)
      simp only [List.append_assoc]
      exact readElements_cons_iff.mpr ⟨_, changed, _, nextElement_append hfront (hbegins hpart) _,
        hread, ih hothers⟩

/-- A text that spells a record holds it. -/
theorem parse_append (hbegins : ∀ {state name changed token},
      Spells state name changed token → Begins token) {before after : Bytes}
    (hbefore : Blanks before) (hafter : Blanks after)
    (htoken : SpellsRecord record Spells value token) :
    record.parse (before ++ (token ++ after)) = .ok value := by
  cases htoken with
  | @object members draft token hadds hrequired hobject =>
    obtain ⟨parts, inner, hparts, hinner, rfl⟩ := hobject
    have hread := readMembers_append hall hadds hparts hinner after
    refine parse_iff.mpr (Or.inr ⟨_, draft, after, ?_, hread, hrequired, rfl,
      skipBlanks_eq_nil_iff.mpr hafter⟩)
    simpa using skipBlanks_append_cons hbefore rfl _
  | @list parts inner value hparts hinner =>
    have hread := readElements_append hall hbegins hparts hinner after
    refine parse_iff.mpr (Or.inl ⟨_, after, ?_, hread, skipBlanks_eq_nil_iff.mpr hafter⟩)
    simpa using skipBlanks_append_cons hbefore rfl _

end Append

/-! ### Nothing else is read -/

section Only

variable (honly : ∀ state name, ReadsOnly (record.read state name) (Spells state name))
include honly

theorem exists_of_readMembers (h : record.readMembers first draft bytes = .ok (whole, rest)) :
    ∃ members parts inner, Adds record Spells draft members whole ∧
      List.Forall₂ SpellsMember members parts ∧ Separated first parts inner ∧
        bytes = inner ++ ascii '\x7d' :: rest := by
  fun_induction record.readMembers first draft bytes with
  | case1 => cases h
  | case2 first draft bytes left hnext =>
    rw [Except.ok.injEq, Prod.mk.injEq] at h
    obtain ⟨blanks, hblanks, rfl⟩ := exists_of_nextMember_last hnext
    exact ⟨[], [], blanks, h.1 ▸ .nil, .nil, .nil hblanks, by rw [h.2]⟩
  | case3 => cases h
  | case4 first draft bytes name afterKey hnext longer others hfield ih =>
    obtain ⟨members, parts, inner, hadds, hmembers, hinner, rfl⟩ := ih h
    obtain ⟨front, key, hfront, hkey, rfl⟩ := exists_of_nextMember hnext
    rcases readField_iff.mp hfield with ⟨hname, hfirst, value, hmember, rfl⟩ |
      ⟨hname, hmember, rfl⟩
    · obtain ⟨before, after, token, hbefore, hafter, hvalue, rfl⟩ :=
        exists_of_readMember (honly _ _) hmember
      exact ⟨(name, token) :: members, _, _, .field hname hfirst hvalue hadds,
        .cons ⟨⟨key, before, after, token, hbefore, hafter⟩, hkey, rfl, rfl⟩ hmembers,
        .cons hfront hinner, by simp [Entry.text]⟩
    · obtain ⟨before, after, token, hbefore, hafter, hvalue, rfl⟩ :=
        exists_of_readMember readsOnly_skipValue hmember
      exact ⟨(name, token) :: members, _, _, .other hname hvalue hadds,
        .cons ⟨⟨key, before, after, token, hbefore, hafter⟩, hkey, rfl, rfl⟩ hmembers,
        .cons hfront hinner, by simp [Entry.text]⟩

theorem exists_of_readElements {start : σ}
    (h : record.readElements names first start bytes = .ok (value, rest)) :
    ∃ parts inner, AddsEach Spells names start parts value ∧ Separated first parts inner ∧
      bytes = inner ++ ascii ']' :: rest := by
  induction names generalizing first start bytes with
  | nil =>
    rw [readElements] at h
    split at h
    · cases h
    · next hend =>
      rw [Except.ok.injEq, Prod.mk.injEq] at h
      obtain ⟨blanks, hblanks, rfl⟩ := readListEnd_iff.mp hend
      exact ⟨[], blanks, h.1 ▸ .nil, .nil hblanks, by rw [h.2]⟩
  | cons name names ih =>
    obtain ⟨more, changed, left, hnext, hread, hothers⟩ := readElements_cons_iff.mp h
    obtain ⟨front, hfront, rfl⟩ := exists_of_nextElement hnext
    obtain ⟨blanks, token, hblanks, htoken, rfl⟩ := honly _ _ hread
    obtain ⟨parts, inner, hparts, hinner, rfl⟩ := ih hothers
    exact ⟨token :: parts, _, .cons htoken hparts, .cons (hfront.append hblanks) hinner, by simp⟩

/-- A text that holds a record spells it. -/
theorem exists_of_parse {text : Bytes} (h : record.parse text = .ok value) :
    ∃ before token after, Blanks before ∧ Blanks after ∧ SpellsRecord record Spells value token ∧
      text = before ++ (token ++ after) := by
  rcases parse_iff.mp h with ⟨bytes, after, hopen, hread, hafter⟩ |
    ⟨bytes, draft, after, hopen, hread, hrequired, rfl, hafter⟩
  · obtain ⟨-, before, hbefore, rfl⟩ := skipBlanks_eq_cons_iff.mp hopen
    obtain ⟨parts, inner, hparts, hinner, rfl⟩ := exists_of_readElements honly hread
    exact ⟨before, _, after, hbefore, skipBlanks_eq_nil_iff.mp hafter, .list hparts hinner, by simp⟩
  · obtain ⟨-, before, hbefore, rfl⟩ := skipBlanks_eq_cons_iff.mp hopen
    obtain ⟨members, parts, inner, hadds, hmembers, hinner, rfl⟩ :=
      exists_of_readMembers honly hread
    exact ⟨before, _, after, hbefore, skipBlanks_eq_nil_iff.mp hafter,
      .object hadds hrequired ⟨parts, inner, hmembers, hinner, rfl⟩, by simp⟩

end Only

/-- An object that holds a record is one of the grammar. -/
theorem isObject_of_readMembers (hread : ∀ state name, SkippedAlike (record.read state name))
    {text inner left : Bytes} (hopen : skipBlanks text = ascii '\x7b' :: inner)
    (h : record.readMembers true draft inner = .ok (whole, left)) (hend : skipBlanks left = []) :
    IsObject text := by
  obtain ⟨before, token, hbefore, htoken, rfl⟩ :=
    exists_of_skipValue (passes_iff.mp (passes_of_object hread hopen h .done))
  obtain ⟨byte, others, rfl, hblank, -⟩ := htoken.begins
  rw [List.cons_append, skipBlanks_append_cons hbefore hblank, List.cons.injEq] at hopen
  rw [hopen.1] at htoken ⊢
  exact ⟨before, others, left, hbefore, skipBlanks_eq_nil_iff.mp hend, htoken, by simp⟩

/-! ### Fields -/

theorem Adds.valuesOf_eq_nil (h : Adds record Spells draft members whole)
    (hname : name ∈ record.names) (hseen : name ∈ draft.seen) : valuesOf name members = [] := by
  induction h with
  | nil => rfl
  | @field _ _ other _ _ _ _ hfirst _ _ ih =>
    have hother : other ≠ name := by
      rintro rfl
      exact hfirst hseen
    rw [valuesOf_cons_of_ne hother]
    exact ih (List.mem_cons_of_mem _ hseen)
  | @other _ _ other _ _ hunknown _ _ ih =>
    have hother : other ≠ name := by
      rintro rfl
      exact hunknown hname
    rw [valuesOf_cons_of_ne hother]
    exact ih hseen

theorem Adds.isValue (h : Adds record Spells draft members whole) :
    ∀ member ∈ members, member.1 ∉ record.names → IsValue member.2 := by
  induction h with
  | nil => exact List.forall_mem_nil _
  | field hname _ _ _ ih => exact List.forall_mem_cons.mpr ⟨fun hnone ↦ absurd hname hnone, ih⟩
  | other _ hvalue _ ih => exact List.forall_mem_cons.mpr ⟨fun _ ↦ hvalue, ih⟩

theorem Adds.mem_seen (h : Adds record Spells draft members whole) (hname : name ∈ record.names)
    (hseen : name ∈ draft.seen ∨ valuesOf name members ≠ []) : name ∈ whole.seen := by
  induction h with
  | nil => exact hseen.resolve_right fun hnone ↦ hnone rfl
  | @field _ _ other _ _ _ _ _ _ _ ih =>
    by_cases hother : other = name
    · exact ih (Or.inl (hother ▸ List.mem_cons_self))
    · rw [valuesOf_cons_of_ne hother] at hseen
      exact ih (hseen.imp_left (List.mem_cons_of_mem other))
  | @other _ _ other _ _ hunknown _ _ ih =>
    have hother : other ≠ name := by
      rintro rfl
      exact hunknown hname
    rw [valuesOf_cons_of_ne hother] at hseen
    exact ih hseen

/-- Members that set no field twice: each of the names is there at most once, and not at all if its
field is set already. -/
structure Unrepeated (names seen : List String) (members : List (String × Bytes)) : Prop where
  free : ∀ name ∈ names, name ∈ seen → valuesOf name members = []
  once : ∀ name ∈ names, (valuesOf name members).length ≤ 1

theorem Adds.unrepeated (h : Adds record Spells draft members whole) :
    Unrepeated record.names draft.seen members := by
  refine ⟨fun name hname hseen ↦ h.valuesOf_eq_nil hname hseen, fun name hname ↦ ?_⟩
  induction h with
  | nil => exact Nat.zero_le 1
  | @field draft _ other token _ _ _ _ _ hmore ih =>
    by_cases hother : other = name
    · subst hother
      rw [valuesOf_cons_self, hmore.valuesOf_eq_nil hname List.mem_cons_self,
        List.length_singleton]
    · rw [valuesOf_cons_of_ne hother]
      exact ih
  | @other _ _ other _ _ hunknown _ _ ih =>
    have hother : other ≠ name := by
      rintro rfl
      exact hunknown hname
    rw [valuesOf_cons_of_ne hother]
    exact ih

theorem Adds.exists_spells (h : Adds record Spells draft members whole) :
    ∀ member ∈ members, member.1 ∈ record.names →
      ∃ state changed, Spells state member.1 changed member.2 := by
  induction h with
  | nil => exact List.forall_mem_nil _
  | field _ _ hvalue _ ih => exact List.forall_mem_cons.mpr ⟨fun _ ↦ ⟨_, _, hvalue⟩, ih⟩
  | other hname _ _ ih =>
    exact List.forall_mem_cons.mpr ⟨fun hsome ↦ absurd hsome hname, ih⟩

section Unrepeated

variable {seen : List String} (h : Unrepeated names seen ((name, token) :: members))
include h

theorem Unrepeated.not_mem_seen (hname : name ∈ names) : name ∉ seen := by
  intro hseen
  have hnone := h.free name hname hseen
  rw [valuesOf_cons_self] at hnone
  cases hnone

theorem Unrepeated.field (hname : name ∈ names) : Unrepeated names (name :: seen) members := by
  have hlast := h.once name hname
  rw [valuesOf_cons_self, List.length_cons] at hlast
  have hnone : valuesOf name members = [] := List.length_eq_zero_iff.mp (by omega)
  constructor
  · intro other hother hseen
    by_cases hsame : other = name
    · rw [hsame, hnone]
    · rw [← valuesOf_cons_of_ne (Ne.symm hsame) token]
      exact h.free other hother ((List.mem_cons.mp hseen).resolve_left hsame)
  · intro other hother
    by_cases hsame : other = name
    · simp [hsame, hnone]
    · rw [← valuesOf_cons_of_ne (Ne.symm hsame) token]
      exact h.once other hother

theorem Unrepeated.other (hname : name ∉ names) : Unrepeated names seen members := by
  have hvalues : ∀ other ∈ names,
      valuesOf other ((name, token) :: members) = valuesOf other members := by
    intro other hother
    refine valuesOf_cons_of_ne ?_ token members
    rintro rfl
    exact hname hother
  constructor
  · intro other hother hseen
    rw [← hvalues other hother]
    exact h.free other hother hseen
  · intro other hother
    rw [← hvalues other hother]
    exact h.once other hother

end Unrepeated

/-- Members that set no field twice are added, in whatever order they are. -/
theorem exists_adds (hmembers : Unrepeated record.names draft.seen members)
    (hfields : ∀ member ∈ members, member.1 ∈ record.names →
      ∀ state, ∃ changed, Spells state member.1 changed member.2)
    (hothers : ∀ member ∈ members, member.1 ∉ record.names → IsValue member.2) :
    ∃ whole, Adds record Spells draft members whole := by
  induction members generalizing draft with
  | nil => exact ⟨draft, .nil⟩
  | cons member members ih =>
    obtain ⟨name, token⟩ := member
    obtain ⟨hfield, hfields⟩ := List.forall_mem_cons.mp hfields
    obtain ⟨hother, hothers⟩ := List.forall_mem_cons.mp hothers
    by_cases hname : name ∈ record.names
    · obtain ⟨changed, hvalue⟩ := hfield hname draft.value
      obtain ⟨whole, hmore⟩ :=
        @ih ⟨name :: draft.seen, changed⟩ (hmembers.field hname) hfields hothers
      exact ⟨whole, .field hname (hmembers.not_mem_seen hname) hvalue hmore⟩
    · obtain ⟨whole, hmore⟩ := ih (hmembers.other hname) hfields hothers
      exact ⟨whole, .other hname (hother hname) hmore⟩

/-- A field is set by the members of its name, to something that their values spell, and kept by
those of other fields. -/
structure IsField (record : Record σ) (Spells : σ → String → σ → Bytes → Prop) (name : String)
    (field : σ → α) (SpellsField : α → Bytes → Prop) : Prop where
  mem : name ∈ record.names
  spells : ∀ {state changed : σ} {token : Bytes},
    Spells state name changed token → SpellsField (field changed) token
  keeps : ∀ {state changed : σ} {other : String} {token : Bytes}, other ≠ name →
    other ∈ record.names → Spells state other changed token → field changed = field state

section Field

variable {field : σ → α} {SpellsField : α → Bytes → Prop}
  (hfield : IsField record Spells name field SpellsField)
include hfield

/-- A field without a member stays as it is. -/
theorem Adds.field_eq_of_valuesOf_eq_nil (h : Adds record Spells draft members whole)
    (hnone : valuesOf name members = []) : field whole.value = field draft.value := by
  induction h with
  | nil => rfl
  | @field _ _ other token _ _ hname _ hvalue _ ih =>
    have hother : other ≠ name := by
      rintro rfl
      rw [valuesOf_cons_self] at hnone
      cases hnone
    rw [valuesOf_cons_of_ne hother] at hnone
    rw [ih hnone]
    exact hfield.keeps hother hname hvalue
  | @other _ _ other _ _ hunknown _ _ ih =>
    have hother : other ≠ name := by
      rintro rfl
      exact hunknown hfield.mem
    rw [valuesOf_cons_of_ne hother] at hnone
    exact ih hnone

theorem Adds.field_eq (h : Adds record Spells draft members whole) (hseen : name ∈ draft.seen) :
    field whole.value = field draft.value :=
  h.field_eq_of_valuesOf_eq_nil hfield (h.valuesOf_eq_nil hfield.mem hseen)

/-- A field that is there in the end has one member, and what this member spells. -/
theorem Adds.exists_valuesOf (h : Adds record Spells draft members whole)
    (hnew : name ∉ draft.seen) (hseen : name ∈ whole.seen) :
    ∃ token, valuesOf name members = [token] ∧ SpellsField (field whole.value) token := by
  induction h with
  | nil => exact absurd hseen hnew
  | @field draft whole other token changed members hname hfirst hvalue hmore ih =>
    by_cases hother : other = name
    · subst hother
      have hmine : other ∈ other :: draft.seen := List.mem_cons_self
      refine ⟨token, ?_, ?_⟩
      · rw [valuesOf_cons_self, hmore.valuesOf_eq_nil hname hmine]
      · rw [hmore.field_eq hfield hmine]
        exact hfield.spells hvalue
    · rw [valuesOf_cons_of_ne hother]
      refine ih ?_ hseen
      rw [List.mem_cons, not_or]
      exact ⟨fun hsame ↦ hother hsame.symm, hnew⟩
  | @other _ _ other _ _ hunknown _ _ ih =>
    have hother : other ≠ name := by
      rintro rfl
      exact hunknown hfield.mem
    rw [valuesOf_cons_of_ne hother]
    exact ih hnew hseen

end Field

end Record

end TokenService.Json
