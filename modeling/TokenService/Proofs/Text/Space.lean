import Mathlib.Data.List.TakeWhile
import TokenService.Text.Space

/-!
# Trimmed texts

A text encloses a core: there are blanks in front of it and behind it, and it neither begins nor
ends with one (`Encloses`). Trimming gives the core of a text (`trim_eq_iff`), so a text has exactly
one.
-/

set_option autoImplicit false
set_option relaxedAutoImplicit false

namespace TokenService.Text.Space

variable {characters core front back : List Char}

/-- Characters that are all blank. -/
def AreBlank (characters : List Char) : Prop :=
  ∀ character ∈ characters, isSpace character = true

/-- The texts with a given core between the blanks at their ends. -/
inductive Encloses (core : List Char) : List Char → Prop
  | intro {front back : List Char} (hfront : AreBlank front) (hback : AreBlank back)
      (hfirst : ∀ character ∈ core.head?, isSpace character = false)
      (hlast : ∀ character ∈ core.getLast?, isSpace character = false) :
      Encloses core (front ++ (core ++ back))

/-! ### Blanks at one end -/

theorem trimStart_append (hfront : AreBlank front)
    (hcore : ∀ character ∈ core.head?, isSpace character = false) :
    trimStart (front ++ core) = core := by
  rw [trimStart, List.dropWhile_append_of_pos hfront]
  cases core with
  | nil => rfl
  | cons character core =>
    rw [List.dropWhile_cons_of_neg (Bool.not_eq_true _ ▸ hcore character rfl)]

theorem exists_append_trimStart (characters : List Char) :
    ∃ front, AreBlank front ∧ characters = front ++ trimStart characters ∧
      ∀ character ∈ (trimStart characters).head?, isSpace character = false := by
  refine ⟨characters.takeWhile isSpace, fun _ ↦ List.mem_takeWhile_imp,
    List.takeWhile_append_dropWhile.symm, fun character hcharacter ↦ ?_⟩
  have hhead := List.head?_dropWhile_not isSpace characters
  rwa [show (characters.dropWhile isSpace).head? = some character from hcharacter] at hhead

theorem trimEnd_eq (characters : List Char) :
    trimEnd characters = (trimStart characters.reverse).reverse :=
  rfl

theorem AreBlank.reverse (h : AreBlank characters) : AreBlank characters.reverse :=
  fun character hcharacter ↦ h character (List.mem_reverse.mp hcharacter)

theorem trimEnd_append (hback : AreBlank back)
    (hcore : ∀ character ∈ core.getLast?, isSpace character = false) :
    trimEnd (core ++ back) = core := by
  rw [trimEnd_eq, List.reverse_append, trimStart_append hback.reverse, List.reverse_reverse]
  rwa [List.head?_reverse]

theorem exists_trimEnd_append (characters : List Char) :
    ∃ back, AreBlank back ∧ characters = trimEnd characters ++ back ∧
      ∀ character ∈ (trimEnd characters).getLast?, isSpace character = false := by
  obtain ⟨front, hfront, hcharacters, hhead⟩ := exists_append_trimStart characters.reverse
  refine ⟨front.reverse, hfront.reverse, ?_, ?_⟩
  · rw [trimEnd_eq, ← List.reverse_append, ← hcharacters, List.reverse_reverse]
  · rwa [trimEnd_eq, List.getLast?_reverse]

/-! ### Blanks at both ends -/

theorem Encloses.trim_eq (h : Encloses core characters) : trim characters = core := by
  obtain @⟨front, back, hfront, hback, hfirst, hlast⟩ := h
  cases core with
  | nil =>
    -- Of blanks alone none is left for the second trimming.
    have hblank : AreBlank (front ++ back) := fun character hcharacter ↦
      (List.mem_append.mp hcharacter).elim (hfront character) (hback character)
    have hstart : trimStart (front ++ back ++ []) = [] := trimStart_append hblank nofun
    rw [trim, List.nil_append, ← List.append_nil (front ++ back), hstart]
    rfl
  | cons character core =>
    have hstart : trimStart (front ++ (character :: core ++ back)) = character :: core ++ back :=
      trimStart_append hfront hfirst
    rw [trim, hstart, trimEnd_append hback hlast]

theorem encloses_trim (characters : List Char) : Encloses (trim characters) characters := by
  obtain ⟨front, hfront, hcharacters, hfirst⟩ := exists_append_trimStart characters
  obtain ⟨back, hback, hstart, hlast⟩ := exists_trimEnd_append (trimStart characters)
  have hhead : ∀ character ∈ (trim characters).head?, isSpace character = false := by
    intro character hcharacter
    apply hfirst
    rw [hstart, List.head?_append]
    exact Option.mem_def.mpr (by rw [← trim, hcharacter, Option.some_or])
  have h := Encloses.intro hfront hback hhead hlast
  rwa [trim, ← hstart, ← hcharacters] at h

/-- Trimming a text gives its core. -/
theorem trim_eq_iff : trim characters = core ↔ Encloses core characters :=
  ⟨fun h ↦ h ▸ encloses_trim characters, Encloses.trim_eq⟩

/-- Nothing is left of a text exactly if all of it is blank. -/
theorem trim_eq_nil_iff : trim characters = [] ↔ AreBlank characters := by
  rw [trim_eq_iff]
  constructor
  · rintro ⟨hfront, hback, -, -⟩ character hcharacter
    rw [List.nil_append, List.mem_append] at hcharacter
    exact hcharacter.elim (hfront character) (hback character)
  · intro hblank
    have h : Encloses [] (characters ++ ([] ++ [])) := .intro hblank (fun _ ↦ nofun) nofun nofun
    rwa [List.append_nil, List.append_nil] at h

end TokenService.Text.Space
