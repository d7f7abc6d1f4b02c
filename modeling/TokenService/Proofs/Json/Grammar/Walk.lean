import TokenService.Proofs.Json.Grammar.Number
import TokenService.Proofs.Json.Grammar.Text
import TokenService.Proofs.Json.Walk

/-!
# Readers and the spellings they read

A reader of values of a wanted kind goes with the spellings of such values: it reads all of them,
wherever they stand (`ReadsAll`), and nothing else (`ReadsOnly`). What it reads is then determined
by its spelling (`ReadsAll.unique`), and evaluating the reader shows that a text is a spelling
(`ReadsOnly.spells`). The steps through lists and objects are described the same way,
by the bytes in front of the next part, and from them the lists of elements of one kind
(`readsAll_readList`, `readsOnly_readList`).
-/

set_option autoImplicit false
set_option relaxedAutoImplicit false

namespace TokenService.Json

variable {bytes rest more front blanks token : Bytes} {byte : UInt8} {first : Bool} {name : String}

/-! ### Readers -/

section Readers

variable {α : Type} {read : Bytes → Reading α} {Spells : α → Bytes → Prop} {value other : α}

/-- The reader reads every spelling of a value, wherever it stands. -/
def ReadsAll (read : Bytes → Reading α) (Spells : α → Bytes → Prop) : Prop :=
  ∀ {blanks token rest : Bytes} {value : α}, Blanks blanks → Spells value token →
    EndsNumber rest → read (blanks ++ (token ++ rest)) = .ok (value, rest)

/-- The reader reads nothing but spellings of values. -/
def ReadsOnly (read : Bytes → Reading α) (Spells : α → Bytes → Prop) : Prop :=
  ∀ {bytes rest : Bytes} {value : α}, read bytes = .ok (value, rest) →
    ∃ blanks token, Blanks blanks ∧ Spells value token ∧ bytes = blanks ++ (token ++ rest)

theorem ReadsAll.unique (h : ReadsAll read Spells) (hvalue : Spells value token)
    (hother : Spells other token) : value = other := by
  have hread : read ([] ++ (token ++ [])) = .ok (value, []) := h .nil hvalue ⟨rfl, rfl⟩
  rw [h .nil hother ⟨rfl, rfl⟩, Except.ok.injEq, Prod.mk.injEq] at hread
  exact hread.1.symm

/-- Bytes that are read from the first to the last spell what is read. -/
theorem ReadsOnly.spells (h : ReadsOnly read Spells) (hstart : skipBlanks token = token)
    (hread : read token = .ok (value, [])) : Spells value token := by
  obtain ⟨blanks, part, hblanks, hpart, htoken⟩ := h hread
  rw [List.append_nil] at htoken
  -- There are no blanks in front, since skipping them changes nothing.
  have hlength := skipBlanks_length_le part
  rw [← skipBlanks_append hblanks, ← htoken, hstart, htoken, List.length_append] at hlength
  obtain rfl : blanks = [] := List.length_eq_zero_iff.mp (by omega)
  rw [htoken]
  exact hpart

end Readers

theorem readsAll_readText : ReadsAll readText SpellsText :=
  fun hblanks htoken _ ↦ readText_iff.mpr ⟨_, _, hblanks, htoken, rfl⟩

theorem readsOnly_readText : ReadsOnly readText SpellsText :=
  readText_iff.mp

theorem readsAll_readInteger : ReadsAll readInteger SpellsInteger :=
  fun hblanks htoken hrest ↦ readInteger_iff.mpr ⟨_, _, hblanks, htoken, hrest, rfl⟩

theorem readsOnly_readInteger : ReadsOnly readInteger SpellsInteger := by
  intro bytes rest value h
  obtain ⟨blanks, token, hblanks, htoken, -, hbytes⟩ := readInteger_iff.mp h
  exact ⟨blanks, token, hblanks, htoken, hbytes⟩

/-! ### Steps through lists -/

theorem Leads.append (hfront : Leads first front) (hblanks : Blanks blanks) :
    Leads first (front ++ blanks) := by
  cases hfront with
  | first hbefore => exact .first (hbefore.append hblanks)
  | later hbefore hafter =>
    rw [List.append_assoc, List.cons_append]
    exact .later hbefore (hafter.append hblanks)

theorem Begins.skipBlanks_eq (h : Begins token) : skipBlanks token = token := by
  obtain ⟨byte, others, rfl, hblank, -⟩ := h
  exact skipBlanks_cons hblank others

theorem SpellsText.begins {text : String} (h : SpellsText text token) : Begins token := by
  obtain ⟨parts, -, rfl⟩ := h
  exact ⟨_, _, rfl, rfl, by decide⟩

theorem SpellsInteger.begins {value : Int} (h : SpellsInteger value token) : Begins token := by
  cases h with
  | natural hdigits =>
    obtain ⟨byte, others, rfl, hbyte, -⟩ := hdigits.exists_eq_cons
    exact ⟨byte, others, rfl, isBlank_of_isDigit hbyte, ne_ascii_of_isDigit hbyte (by decide)⟩
  | negative => exact ⟨_, _, rfl, rfl, by decide⟩

theorem SpellsList.begins {α : Type} {Spells : α → Bytes → Prop} {values : List α}
    (h : SpellsList Spells values token) : Begins token := by
  obtain ⟨parts, inner, -, -, rfl⟩ := h
  exact ⟨_, _, rfl, rfl, by decide⟩

theorem nextElement_end (first : Bool) (hblanks : Blanks blanks) (rest : Bytes) :
    nextElement first (blanks ++ ascii ']' :: rest) = .ok (.last rest) :=
  nextElement_last_iff.mpr (skipBlanks_append_cons hblanks rfl rest)

theorem exists_of_nextElement_last (h : nextElement first bytes = .ok (.last rest)) :
    ∃ blanks, Blanks blanks ∧ bytes = blanks ++ ascii ']' :: rest := by
  obtain ⟨-, blanks, hblanks, hbytes⟩ := skipBlanks_eq_cons_iff.mp (nextElement_last_iff.mp h)
  exact ⟨blanks, hblanks, hbytes⟩

theorem nextElement_append (hfront : Leads first front) (htoken : Begins token) (rest : Bytes) :
    nextElement first (front ++ (token ++ rest)) = .ok (.more (token ++ rest)) := by
  obtain ⟨byte, others, rfl, hblank, hend⟩ := htoken
  cases hfront with
  | first hblanks =>
    exact nextElement_first_iff.mpr
      ⟨byte, others ++ rest, skipBlanks_append_cons hblanks hblank _, hend, rfl⟩
  | @later before after hbefore hafter =>
    rw [List.append_assoc, List.cons_append]
    exact nextElement_later_iff.mpr ⟨_, byte, others ++ rest,
      skipBlanks_append_cons hbefore rfl _, skipBlanks_append_cons hafter hblank _, hend, rfl⟩

theorem exists_of_nextElement (h : nextElement first bytes = .ok (.more more)) :
    ∃ front, Leads first front ∧ bytes = front ++ more := by
  cases first with
  | true =>
    obtain ⟨byte, others, hstart, -, rfl⟩ := nextElement_first_iff.mp h
    obtain ⟨-, blanks, hblanks, rfl⟩ := skipBlanks_eq_cons_iff.mp hstart
    exact ⟨blanks, .first hblanks, rfl⟩
  | false =>
    obtain ⟨left, byte, others, hcomma, hstart, -, rfl⟩ := nextElement_later_iff.mp h
    obtain ⟨-, before, hbefore, rfl⟩ := skipBlanks_eq_cons_iff.mp hcomma
    obtain ⟨-, after, hafter, rfl⟩ := skipBlanks_eq_cons_iff.mp hstart
    exact ⟨before ++ ascii ',' :: after, .later hbefore hafter, by simp⟩

/-! ### Lists of elements of one kind -/

section Elements

variable {α : Type} {element : Consumer α} {Spells : α → Bytes → Prop} {values : List α}

theorem exists_of_readEach (honly : ReadsOnly element.read Spells)
    (h : readEach element first bytes = .ok (values, rest)) :
    ∃ parts inner, List.Forall₂ Spells values parts ∧ Separated first parts inner ∧
      bytes = inner ++ ascii ']' :: rest := by
  fun_induction readEach element first bytes generalizing values with
  | case2 first bytes left hnext =>
    rw [Except.ok.injEq, Prod.mk.injEq] at h
    obtain ⟨blanks, hblanks, rfl⟩ := exists_of_nextElement_last hnext
    exact ⟨[], blanks, h.1 ▸ .nil, .nil hblanks, by rw [h.2]⟩
  | case5 first bytes more hnext value left hread others last hvalues ih =>
    rw [Except.ok.injEq, Prod.mk.injEq] at h
    obtain ⟨front, hfront, rfl⟩ := exists_of_nextElement hnext
    obtain ⟨blanks, token, hblanks, htoken, rfl⟩ := honly hread
    obtain ⟨parts, inner, hparts, hinner, rfl⟩ := ih (h.2 ▸ hvalues)
    exact ⟨token :: parts, _, h.1 ▸ .cons htoken hparts,
      .cons (hfront.append hblanks) hinner, by simp⟩
  | _ => cases h

theorem readsOnly_readList (honly : ReadsOnly element.read Spells) :
    ReadsOnly (readList element) (SpellsList Spells) := by
  intro bytes rest values h
  unfold readList at h
  split at h
  · cases h
  next byte others hstart =>
  split at h
  · next hopen =>
    obtain ⟨-, blanks, hblanks, rfl⟩ := skipBlanks_eq_cons_iff.mp hstart
    obtain ⟨parts, inner, hparts, hinner, rfl⟩ := exists_of_readEach honly h
    exact ⟨blanks, _, hblanks, ⟨parts, inner, hparts, hinner, rfl⟩, by simp [hopen]⟩
  · cases h

variable (hall : ReadsAll element.read Spells)
  (hbegins : ∀ {value token}, Spells value token → Begins token)
include hall hbegins

theorem readEach_append {parts : List Bytes} {inner : Bytes}
    (hparts : List.Forall₂ Spells values parts) (hinner : Separated first parts inner)
    (rest : Bytes) : readEach element first (inner ++ ascii ']' :: rest) = .ok (values, rest) := by
  induction hinner generalizing values with
  | nil hblanks =>
    cases hparts
    exact readEach_of_last (nextElement_end _ hblanks rest)
  | @cons _ front part others _ hfront hothers ih =>
    cases hparts with
    | @cons value _ _ _ hpart hparts =>
      have hread : element.read ([] ++ (part ++ (others ++ ascii ']' :: rest))) =
          .ok (value, others ++ ascii ']' :: rest) :=
        hall .nil hpart (hothers.endsNumber ⟨rfl, rfl⟩)
      simp only [List.append_assoc]
      exact readEach_of_more (nextElement_append hfront (hbegins hpart) _) hread (ih hparts)

theorem readsAll_readList : ReadsAll (readList element) (SpellsList Spells) := by
  rintro blanks token rest values hblanks ⟨parts, inner, hparts, hinner, rfl⟩ -
  simp only [List.append_assoc, List.cons_append, List.nil_append]
  rw [readList, skipBlanks_append_cons hblanks rfl]
  dsimp only
  rw [if_pos rfl]
  exact readEach_append hall hbegins hparts hinner rest

end Elements

theorem readsAll_readTextList : ReadsAll readTextList (SpellsList SpellsText) :=
  readsAll_readList readsAll_readText SpellsText.begins

theorem readsOnly_readTextList : ReadsOnly readTextList (SpellsList SpellsText) :=
  readsOnly_readList readsOnly_readText

theorem readListEnd_iff : readListEnd bytes = .ok ((), rest) ↔
    ∃ blanks, Blanks blanks ∧ bytes = blanks ++ ascii ']' :: rest := by
  have hstart : readListEnd bytes = .ok ((), rest) ↔ skipBlanks bytes = ascii ']' :: rest := by
    unfold readListEnd
    grind
  rw [hstart, skipBlanks_eq_cons_iff, and_iff_right (by decide)]

/-! ### Steps through objects -/

theorem nextMember_end (first : Bool) (hblanks : Blanks blanks) (rest : Bytes) :
    nextMember first (blanks ++ ascii '\x7d' :: rest) = .ok (.last rest) :=
  nextMember_last_iff.mpr (skipBlanks_append_cons hblanks rfl rest)

theorem exists_of_nextMember_last (h : nextMember first bytes = .ok (.last rest)) :
    ∃ blanks, Blanks blanks ∧ bytes = blanks ++ ascii '\x7d' :: rest := by
  obtain ⟨-, blanks, hblanks, hbytes⟩ := skipBlanks_eq_cons_iff.mp (nextMember_last_iff.mp h)
  exact ⟨blanks, hblanks, hbytes⟩

theorem nextMember_append (hfront : Leads first front) (hkey : SpellsText name token)
    (rest : Bytes) : nextMember first (front ++ (token ++ rest)) = .ok (.key name rest) := by
  obtain ⟨inner, htoken, hinner⟩ := hkey.cons_append rest
  rw [htoken]
  cases hfront with
  | first hblanks =>
    exact nextMember_first_iff.mpr ⟨inner, skipBlanks_append_cons hblanks rfl inner, hinner⟩
  | later hbefore hafter =>
    rw [List.append_assoc, List.cons_append]
    exact nextMember_later_iff.mpr ⟨_, inner, skipBlanks_append_cons hbefore rfl _,
      skipBlanks_append_cons hafter rfl inner, hinner⟩

theorem exists_of_nextMember (h : nextMember first bytes = .ok (.key name rest)) :
    ∃ front token, Leads first front ∧ SpellsText name token ∧
      bytes = front ++ (token ++ rest) := by
  cases first with
  | true =>
    obtain ⟨others, hstart, hkey⟩ := nextMember_first_iff.mp h
    obtain ⟨-, blanks, hblanks, rfl⟩ := skipBlanks_eq_cons_iff.mp hstart
    obtain ⟨token, htoken, hothers⟩ := exists_of_readString hkey
    exact ⟨blanks, token, .first hblanks, htoken, by rw [hothers]⟩
  | false =>
    obtain ⟨others, behind, hcomma, hstart, hkey⟩ := nextMember_later_iff.mp h
    obtain ⟨-, before, hbefore, rfl⟩ := skipBlanks_eq_cons_iff.mp hcomma
    obtain ⟨-, after, hafter, rfl⟩ := skipBlanks_eq_cons_iff.mp hstart
    obtain ⟨token, htoken, hothers⟩ := exists_of_readString hkey
    exact ⟨before ++ ascii ',' :: after, token, .later hbefore hafter, htoken, by simp [hothers]⟩

section Members

variable {α : Type} {read : Bytes → Reading α} {Spells : α → Bytes → Prop} {value : α}

theorem readMember_append (hall : ReadsAll read Spells) {before after : Bytes}
    (hbefore : Blanks before) (hafter : Blanks after) (hvalue : Spells value token)
    (hrest : EndsNumber rest) :
    readMember read (before ++ ascii ':' :: (after ++ (token ++ rest))) = .ok (value, rest) :=
  readMember_iff.mpr ⟨_, skipBlanks_append_cons hbefore rfl _, hall hafter hvalue hrest⟩

theorem exists_of_readMember (honly : ReadsOnly read Spells)
    (h : readMember read bytes = .ok (value, rest)) :
    ∃ before after token, Blanks before ∧ Blanks after ∧ Spells value token ∧
      bytes = before ++ ascii ':' :: (after ++ (token ++ rest)) := by
  obtain ⟨others, hcolon, hread⟩ := readMember_iff.mp h
  obtain ⟨-, before, hbefore, rfl⟩ := skipBlanks_eq_cons_iff.mp hcolon
  obtain ⟨after, token, hafter, hvalue, rfl⟩ := honly hread
  exact ⟨before, after, token, hbefore, hafter, hvalue, rfl⟩

end Members

end TokenService.Json
