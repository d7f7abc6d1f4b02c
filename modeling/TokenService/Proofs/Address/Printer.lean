import Mathlib.Data.List.TakeWhile
import TokenService.Address.Printer
import TokenService.Proofs.Address.Parser
import TokenService.Proofs.Decimal.Integer

/-!
# Written addresses read back

The written form of an address spells it (`Address.spells_render`): numbers have the digits of the
library, and where groups are left out, those that are left out are zeros
(`Ipv6.take_append_zeros_append_drop`). So every address is read back from its written form
(`Address.parse?_text`), and no two are written alike (`Address.text_injective`).
-/

set_option autoImplicit false
set_option relaxedAutoImplicit false

namespace TokenService

/-! ### Numerals -/

namespace Numeral

variable {base : Nat} {front back : List Char} {digits others : List Nat}

theorem hexValue?_digitChar : ∀ value < 16,
    Text.Hex.value? (Nat.digitChar value).toNat = some value := by
  decide

theorem digit?_digitChar (hlimit : base ≤ 16) {value : Nat} (hvalue : value < base) :
    digit? base (Nat.digitChar value) = some value := by
  rw [digit?, hexValue?_digitChar value (by omega), Option.filter_some, if_pos (by simpa)]

theorem value_append_singleton (base : Nat) (digits : List Nat) (last : Nat) :
    value base (digits ++ [last]) = value base digits * base + last := by
  rw [value, List.foldl_append]
  rfl

/-- Appending a digit to the characters of a number. -/
theorem Spells.append_digit {number last : Nat} {character : Char}
    (h : Spells base number front) (hlast : digit? base character = some last) :
    Spells base (number * base + last) (front ++ [character]) := by
  obtain ⟨digits, hdigits, -, rfl⟩ := h
  exact ⟨digits ++ [last], List.rel_append hdigits (.cons hlast .nil),
    List.append_ne_nil_of_right_ne_nil _ (List.cons_ne_nil _ _), value_append_singleton ..⟩

/-- A number is spelled by its digits. -/
theorem spells_toDigits (hbase : 1 < base) (hlimit : base ≤ 16) (number : Nat) :
    Spells base number (Nat.toDigits base number) := by
  induction number using Nat.strongRecOn with
  | ind number ih =>
    by_cases hsmall : number < base
    · rw [Nat.toDigits_of_lt_base hsmall]
      refine ⟨[number], .cons (digit?_digitChar hlimit hsmall) .nil, List.cons_ne_nil _ _, ?_⟩
      rw [value, List.foldl_cons, List.foldl_nil, Nat.zero_mul, Nat.zero_add]
    · have hlast : number % base < base := Nat.mod_lt _ (by omega)
      have hhigh := ih (number / base) (Nat.div_lt_self (by omega) hbase)
      have h := hhigh.append_digit (digit?_digitChar hlimit hlast)
      rw [Nat.toDigits_of_base_le hbase (by omega)]
      rwa [Nat.div_add_mod'] at h

/-- No number but zero begins with the digit zero. -/
theorem eq_zero_of_head?_toDigits {number : Nat}
    (h : (Nat.toDigits 10 number).head? = some '0') : number = 0 := by
  induction number using Nat.strongRecOn with
  | ind number ih =>
    by_cases hsmall : number < 10
    · rw [Nat.toDigits_of_lt_base hsmall, List.head?_singleton, Option.some.injEq] at h
      have hvalue := digit?_digitChar (by decide) hsmall
      rw [h] at hvalue
      exact (Option.some.inj hvalue).symm
    · rw [Nat.toDigits_of_base_le (by decide) (Nat.not_lt.mp hsmall),
        List.head?_append_of_ne_nil _ Nat.toDigits_ne_nil] at h
      have hhigh := ih (number / 10) (by omega) h
      omega

end Numeral

theorem spells_digits (number : Nat) :
    Numeral.Spells 10 number (Decimal.Integer.digits number) := by
  rw [Decimal.Integer.digits_eq_toDigits]
  exact Numeral.spells_toDigits (by decide) (by decide) number

/-! ### Four octets -/

namespace Ipv4

theorem spellsOctet_renderOctet (octet : UInt8) : SpellsOctet octet (renderOctet octet) where
  number := spells_digits octet.toNat
  short := by
    rw [renderOctet, Decimal.Integer.digits_eq_toDigits]
    have hoctet := octet.toNat_lt
    exact (Nat.length_toDigits_le_iff (by decide) (by decide)).mpr (by omega)
  plain := by
    rw [renderOctet, Decimal.Integer.digits_eq_toDigits]
    intro hzero
    rw [Numeral.eq_zero_of_head?_toDigits hzero]
    rfl

theorem spells_render (host : Ipv4) : host.Spells host.render := by
  have h := Spells.intro (spellsOctet_renderOctet host.first)
    (spellsOctet_renderOctet host.second) (spellsOctet_renderOctet host.third)
    (spellsOctet_renderOctet host.fourth)
  simpa [render] using h

/-- The octets of two groups make these groups again. -/
theorem groups_ofGroups (high low : UInt16) : (ofGroups high low).groups = [high, low] := by
  have hjoin : ∀ group : UInt16, UInt16.ofNat ((UInt8.ofNat (group.toNat / 256)).toNat * 256 +
      (UInt8.ofNat (group.toNat % 256)).toNat) = group := by
    intro group
    have hgroup := group.toNat_lt
    rw [Numeral.keeps_uInt8.kept_keep _ (by omega), Numeral.keeps_uInt8.kept_keep _ (by omega),
      Nat.div_add_mod', UInt16.ofNat_toNat]
  rw [groups, ofGroups, hjoin, hjoin]

end Ipv4

/-! ### Eight groups -/

namespace Ipv6

theorem spellsGroup_renderGroup (group : UInt16) : SpellsGroup group (renderGroup group) where
  number := Numeral.spells_toDigits (by decide) (by decide) group.toNat
  short := by
    have hgroup := group.toNat_lt
    exact (Nat.length_toDigits_le_iff (by decide) (by decide)).mpr (by omega)

/-- Groups behind others, each behind its colon. -/
theorem spellsGroups_false (groups : List UInt16) :
    SpellsGroups false false groups (groups.flatMap fun group ↦ ':' :: renderGroup group) := by
  induction groups with
  | nil => exact .nil
  | cons group groups ih =>
    rw [List.flatMap_cons]
    exact .cons (spellsGroup_renderGroup group) ih

theorem renderGroups_cons (group : UInt16) (groups : List UInt16) :
    renderGroups (group :: groups) =
      renderGroup group ++ groups.flatMap fun group ↦ ':' :: renderGroup group := by
  induction groups generalizing group with
  | nil => rw [renderGroups, List.flatMap_nil, List.append_nil]
  | cons other groups ih =>
    rw [renderGroups, ih, List.flatMap_cons, List.cons_append]
    exact List.cons_ne_nil _ _

theorem spellsGroups_renderGroups (groups : List UInt16) :
    SpellsGroups true false groups (renderGroups groups) := by
  cases groups with
  | nil => exact .nil
  | cons group groups =>
    rw [renderGroups_cons]
    exact .cons (spellsGroup_renderGroup group) (spellsGroups_false groups)

theorem replicate_leadingZeros (groups : List UInt16) :
    List.replicate (leadingZeros groups) 0 = groups.take (leadingZeros groups) := by
  have hzeros : groups.takeWhile (· = 0) = List.replicate (leadingZeros groups) 0 :=
    List.eq_replicate_iff.mpr ⟨rfl, fun group hgroup ↦ by simpa using List.mem_takeWhile_imp hgroup⟩
  rw [← hzeros]
  exact List.prefix_iff_eq_take.mp (List.takeWhile_prefix _)

/-- The groups that the longest run of zeros takes up are zeros. -/
theorem take_append_zeros_append_drop (groups : List UInt16) :
    groups = groups.take (longestZeros groups).1 ++
      (List.replicate (longestZeros groups).2 0 ++
        groups.drop ((longestZeros groups).1 + (longestZeros groups).2)) := by
  induction groups with
  | nil => rfl
  | cons group groups ih =>
    rw [longestZeros]
    dsimp only
    split
    · rw [List.take_zero, List.nil_append, Nat.zero_add, replicate_leadingZeros,
        List.take_append_drop]
    · rw [List.take_succ_cons, Nat.add_right_comm, List.drop_succ_cons, List.cons_append, ← ih]

/-- A host whose longest run of zeros is left out. -/
theorem spells_renderCompressed (host : Ipv6) : host.Spells host.renderCompressed := by
  rw [renderCompressed]
  dsimp only
  split
  · exact .full (spellsGroups_renderGroups host.groups)
  · next hlong =>
    -- A gap stands for one group or more.
    obtain ⟨length, hlength⟩ : ∃ length, (longestZeros host.groups).2 = length + 1 :=
      Nat.exists_eq_succ_of_ne_zero (by omega)
    have hgroups := take_append_zeros_append_drop host.groups
    rw [hlength] at hgroups ⊢
    exact .gap hgroups (spellsGroups_renderGroups _) (spellsGroups_renderGroups _)

theorem groups_of_mapped? {host : Ipv6} {octets : Ipv4} (h : host.mapped? = some octets) :
    host.groups = List.replicate 5 0 ++ 0xFFFF :: octets.groups := by
  unfold mapped? at h
  split at h
  · next high low hgroups =>
    rw [hgroups, ← Option.some.inj h, Ipv4.groups_ofGroups]
    rfl
  · cases h

/-- A host of four octets mapped into groups. -/
theorem spells_mapped {host : Ipv6} {octets : Ipv4} (h : host.mapped? = some octets) :
    host.Spells ("::ffff:".toList ++ octets.render) := by
  have hmark : SpellsGroup 0xFFFF "ffff".toList := by
    have h := spellsGroup_renderGroup 0xFFFF
    have hdigits : renderGroup 0xFFFF = "ffff".toList := by decide +kernel
    rwa [hdigits] at h
  have hback : SpellsGroups true true (0xFFFF :: octets.groups)
      (colon true ++ ("ffff".toList ++ (colon false ++ octets.render))) :=
    .cons hmark (.octets octets.spells_render)
  exact .gap (groups_of_mapped? h) .nil hback

theorem spells_render (host : Ipv6) : host.Spells host.render := by
  rw [render]
  cases h : host.mapped? with
  | some octets => exact spells_mapped h
  | none => exact host.spells_renderCompressed

end Ipv6

/-! ### Addresses -/

namespace Address

theorem spellsScope_renderScope (scope : UInt32) : SpellsScope scope (renderScope scope) := by
  rw [renderScope]
  split
  · next hzero =>
    rw [hzero]
    exact .none
  · exact .named (spells_digits scope.toNat)

/-- The written form of an address spells it. -/
theorem spells_render (address : Address) : address.Spells address.render := by
  cases address with
  | v4 host port => exact .v4 host.spells_render (spells_digits port.toNat)
  | v6 host scope port =>
    have h := Spells.v6 host.spells_render (spellsScope_renderScope scope)
      (spells_digits port.toNat)
    simpa [render, renderPort] using h

theorem spells_text (address : Address) : address.Spells address.text.toList := by
  rw [text, String.toList_ofList]
  exact address.spells_render

/-- Every address is read back from its written form. -/
theorem parse?_text (address : Address) : parse? address.text = some address :=
  parse?_eq_some_iff.mpr address.spells_text

/-- No two addresses are written alike. -/
theorem text_injective : Function.Injective text := by
  intro first second h
  have hread := parse?_text first
  rw [h, parse?_text] at hread
  exact (Option.some.inj hread).symm

end Address

end TokenService
