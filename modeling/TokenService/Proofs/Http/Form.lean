import TokenService.Proofs.Http.Dialect
import TokenService.Proofs.Http.Target
import TokenService.Proofs.Lifetime

/-!
# Spellings of a query

A query spells a lifetime by at most one pair for each parameter, in any order, among empty parts
and pairs of other names (`SpellsLifetime`). It is read as this lifetime (`ofQuery_of_spells`): the
parts come apart again at the ampersands (`pairs_intercalate`), a pair gives back the name and the
value that it spells (`pair_of_spellsPair`), and all else is passed over.
-/

set_option autoImplicit false
set_option relaxedAutoImplicit false

namespace TokenService.Http.Form

/-! ### Parts -/

/-- The sign between two parts. -/
abbrev ampersand : UInt8 := ascii '&'

theorem split_eq_splitOn (separator : UInt8) (bytes : Bytes) :
    split separator bytes = bytes.splitOn separator := by
  induction bytes with
  | nil => rfl
  | cons byte bytes ih =>
    rw [split, ih, List.splitOn, List.splitOn, List.splitOnP_cons_eq_if_modifyHead]
    by_cases h : byte = separator
    · rw [if_pos h, if_pos (beq_iff_eq.mpr h)]
    · rw [if_neg h, if_neg (by rwa [beq_iff_eq])]
      split
      · next hnil => exact absurd hnil (List.splitOnP_ne_nil _ _)
      · next hcons => rw [hcons, List.modifyHead_cons]

/-- The pairs of parts that were put together with ampersands. Of no parts there are none, although
what is split always has a part. -/
theorem pairs_intercalate {parts : List Bytes} (hparts : ∀ part ∈ parts, ampersand ∉ part) :
    pairs ([ampersand].intercalate parts) = (parts.filter (!·.isEmpty)).map pair := by
  cases parts with
  | nil => rfl
  | cons part parts =>
    rw [pairs, split_eq_splitOn, List.splitOn_intercalate _ hparts (List.cons_ne_nil _ _)]

theorem filter_cons_of_ne_nil {part : Bytes} (hpart : part ≠ []) (parts : List Bytes) :
    (part :: parts).filter (!·.isEmpty) = part :: parts.filter (!·.isEmpty) :=
  List.filter_cons_of_pos (by rwa [Bool.not_eq_true', List.isEmpty_eq_false_iff])

theorem forall_mem_intercalate {property : UInt8 → Prop} (hampersand : property ampersand)
    {parts : List Bytes} (hparts : ∀ part ∈ parts, ∀ byte ∈ part, property byte) :
    ∀ byte ∈ [ampersand].intercalate parts, property byte := by
  induction parts with
  | nil => exact nofun
  | cons part parts ih =>
    have hrest := ih fun other hother ↦ hparts other (List.mem_cons_of_mem _ hother)
    have hpart := hparts part List.mem_cons_self
    cases parts with
    | nil => rwa [List.intercalate_singleton]
    | cons next parts =>
      rw [List.intercalate_cons_cons, List.append_assoc, List.singleton_append]
      intro byte hbyte
      rcases List.mem_append.mp hbyte with hbyte | hbyte
      · exact hpart byte hbyte
      · rcases List.mem_cons.mp hbyte with rfl | hbyte
        · exact hampersand
        · exact hrest byte hbyte

/-! ### Pairs -/

/-- Bytes that may stand between two ampersands. -/
def IsPart (part : Bytes) : Prop :=
  ∀ byte ∈ part, Target.isQueryByte byte = true ∧ byte ≠ ampersand

theorem decode_of_spellsText {text : String} {bytes : Bytes}
    (h : Dialect.query.SpellsText text bytes) : decode bytes = text := by
  rw [decode, ← Dialect.read_query, Dialect.read_of_spellsText h, Text.Utf8.decodeLossy_encode]

theorem isPart_of_spellsText {text : String} {bytes : Bytes}
    (h : Dialect.query.SpellsText text bytes) : IsPart bytes := by
  have hampersand : ampersand ∉ bytes :=
    Dialect.not_mem_of_spellsText h (by decide) (by decide) (by decide) (Or.inl (by decide))
  exact fun byte hbyte ↦
    ⟨Dialect.isAllowed_of_spellsText h byte hbyte, ne_of_mem_of_not_mem hbyte hampersand⟩

/-- The spellings of a name and its value. -/
inductive SpellsPair (name value : String) : Bytes → Prop
  | intro {key content : Bytes} (hkey : Dialect.query.SpellsText name key)
      (hcontent : Dialect.query.SpellsText value content) :
      SpellsPair name value (key ++ ascii '=' :: content)

section Pairs

variable {name value : String} {part : Bytes} (h : SpellsPair name value part)
include h

theorem isPart_of_spellsPair : IsPart part := by
  cases h with
  | intro hkey hcontent =>
    intro byte hbyte
    rcases List.mem_append.mp hbyte with hbyte | hbyte
    · exact isPart_of_spellsText hkey byte hbyte
    · rcases List.mem_cons.mp hbyte with rfl | hbyte
      · decide
      · exact isPart_of_spellsText hcontent byte hbyte

theorem ne_nil_of_spellsPair : part ≠ [] := by
  cases h with
  | intro _ _ => exact List.append_ne_nil_of_right_ne_nil _ (List.cons_ne_nil _ _)

/-- A pair is read as the name and the value that it spells, if no equals sign is in the name. -/
theorem pair_of_spellsPair (hname : '=' ∉ name.toList) : pair part = (name, value) := by
  cases h with
  | @intro key content hkey hcontent =>
    have hsign : ascii '=' ∉ key :=
      Dialect.not_mem_of_spellsText hkey (by decide) (by decide) (by decide) (Or.inr hname)
    have hkeep : ∀ byte ∈ key, decide (byte ≠ ascii '=') = true :=
      fun byte hbyte ↦ decide_eq_true (ne_of_mem_of_not_mem hbyte hsign)
    have hstop : Target.Stops (fun byte ↦ decide (byte ≠ ascii '=')) (ascii '=' :: content) :=
      Target.stops_cons (by decide) content
    rw [pair, Target.takeWhile_append_of_stops hkeep hstop,
      Target.dropWhile_append_of_stops hkeep hstop, List.tail_cons, decode_of_spellsText hkey,
      decode_of_spellsText hcontent]

end Pairs

/-! ### Lifetimes -/

/-- Parts that spell a lifetime. -/
inductive SpellsLifetime : Lifetime → List Bytes → Prop
  | nil : SpellsLifetime ⟨none, none⟩ []
  | empty {lifetime : Lifetime} {parts : List Bytes} (h : SpellsLifetime lifetime parts) :
      SpellsLifetime lifetime ([] :: parts)
  | other {lifetime : Lifetime} {part : Bytes} {parts : List Bytes} (hpart : IsPart part)
      (hne : part ≠ []) (hseconds : (pair part).1 ≠ "seconds") (hdays : (pair part).1 ≠ "days")
      (h : SpellsLifetime lifetime parts) : SpellsLifetime lifetime (part :: parts)
  | seconds {value : String} {days : Option String} {part : Bytes} {parts : List Bytes}
      (hpart : SpellsPair "seconds" value part) (h : SpellsLifetime ⟨none, days⟩ parts) :
      SpellsLifetime ⟨some value, days⟩ (part :: parts)
  | days {value : String} {seconds : Option String} {part : Bytes} {parts : List Bytes}
      (hpart : SpellsPair "days" value part) (h : SpellsLifetime ⟨seconds, none⟩ parts) :
      SpellsLifetime ⟨seconds, some value⟩ (part :: parts)

section Lifetimes

variable {lifetime : Lifetime} {parts : List Bytes} (h : SpellsLifetime lifetime parts)
include h

theorem isPart_of_spellsLifetime : ∀ part ∈ parts, IsPart part := by
  induction h with
  | nil => exact nofun
  | empty _ ih => exact List.forall_mem_cons.mpr ⟨nofun, ih⟩
  | other hpart _ _ _ _ ih => exact List.forall_mem_cons.mpr ⟨hpart, ih⟩
  | seconds hpart _ ih => exact List.forall_mem_cons.mpr ⟨isPart_of_spellsPair hpart, ih⟩
  | days hpart _ ih => exact List.forall_mem_cons.mpr ⟨isPart_of_spellsPair hpart, ih⟩

/-- Pairs are taken up by a lifetime that does not hold what they spell. -/
theorem ofPairs_of_spells {held : Lifetime}
    (hseconds : held.seconds = none ∨ lifetime.seconds = none)
    (hdays : held.days = none ∨ lifetime.days = none) :
    held.ofPairs ((parts.filter (!·.isEmpty)).map pair) =
      .ok ⟨held.seconds.or lifetime.seconds, held.days.or lifetime.days⟩ := by
  -- What is held grows along the parts, so the statement is about any lifetime that is held.
  induction h generalizing held with
  | nil =>
    obtain ⟨seconds, days⟩ := held
    simp [Lifetime.ofPairs]
  | empty _ ih => exact ih hseconds hdays
  | @other lifetime part parts _ hne hother hother' _ ih =>
    rcases hpair : pair part with ⟨name, value⟩
    rw [hpair] at hother hother'
    rw [filter_cons_of_ne_nil hne, List.map_cons, hpair, Lifetime.ofPairs, if_neg hother,
      if_neg hother']
    exact ih hseconds hdays
  | seconds hpart _ ih =>
    obtain ⟨heldSeconds, heldDays⟩ := held
    obtain rfl : heldSeconds = none := hseconds.resolve_right (Option.some_ne_none _)
    rw [filter_cons_of_ne_nil (ne_nil_of_spellsPair hpart), List.map_cons,
      pair_of_spellsPair hpart (by decide), Lifetime.ofPairs, if_pos rfl]
    exact ih (Or.inr rfl) hdays
  | days hpart _ ih =>
    obtain ⟨heldSeconds, heldDays⟩ := held
    obtain rfl : heldDays = none := hdays.resolve_right (Option.some_ne_none _)
    rw [filter_cons_of_ne_nil (ne_nil_of_spellsPair hpart), List.map_cons,
      pair_of_spellsPair hpart (by decide), Lifetime.ofPairs, if_neg (by decide), if_pos rfl]
    exact ih hseconds (Or.inr rfl)

/-- Parts that spell a lifetime are read as it. -/
theorem ofQuery_of_spells : Lifetime.ofQuery ([ampersand].intercalate parts) = .ok lifetime := by
  have hparts : ∀ part ∈ parts, ampersand ∉ part := fun part hpart hmem ↦
    (isPart_of_spellsLifetime h part hpart ampersand hmem).2 rfl
  rw [Lifetime.ofQuery, pairs_intercalate hparts, ofPairs_of_spells h (Or.inl rfl) (Or.inl rfl)]
  rfl

theorem isQueryByte_of_spells :
    ∀ byte ∈ [ampersand].intercalate parts, Target.isQueryByte byte = true :=
  forall_mem_intercalate (by decide) fun part hpart byte hbyte ↦
    (isPart_of_spellsLifetime h part hpart byte hbyte).1

end Lifetimes

end TokenService.Http.Form
