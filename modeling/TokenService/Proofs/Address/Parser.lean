import TokenService.Proofs.Address.Grammar

/-!
# Addresses of the grammar are those that are read

Each part of an address is taken from the front exactly if it is spelled there and what follows does
not continue it. So a text is read as an address exactly if it spells it
(`Address.parse?_eq_some_iff`), and no text spells two addresses (`Address.Spells.unique`).

Groups are taken as long as there are any. Where octets could be taken, a group could be taken too,
but only the octets are followed by a point, so a spelling settles which of them is meant.
-/

set_option autoImplicit false
set_option relaxedAutoImplicit false

namespace TokenService

variable {characters front rest : List Char}

/-! ### Numerals -/

namespace Numeral

variable {base bound number : Nat} {digits : List Nat}

/-- The characters behind a number, none of which continues it. -/
def Ends (base : Nat) (rest : List Char) : Prop :=
  ∀ character ∈ rest.head?, digit? base character = none

theorem ends_nil (base : Nat) : Ends base [] :=
  fun _ ↦ nofun

theorem ends_cons {character : Char} (h : digit? base character = none) (rest : List Char) :
    Ends base (character :: rest) :=
  fun _ hcharacter ↦ Option.some.inj hcharacter ▸ h

theorem takeDigits_append (hfront : AreDigits base front digits) (hrest : Ends base rest) :
    takeDigits base (front ++ rest) = (digits, rest) := by
  induction hfront with
  | nil =>
    cases rest with
    | nil => rfl
    | cons character rest => rw [List.nil_append, takeDigits, hrest character rfl]
  | cons hdigit _ ih =>
    rw [List.cons_append, takeDigits, hdigit, ih]

theorem Spells.exists_eq_cons (h : Spells base number characters) :
    ∃ character others digit, characters = character :: others ∧
      digit? base character = some digit := by
  obtain ⟨digits, hdigits, hnonempty, -⟩ := h
  cases hdigits with
  | nil => exact absurd rfl hnonempty
  | cons hdigit _ => exact ⟨_, _, _, rfl, hdigit⟩

/-- A digit is a digit of every higher base. -/
theorem digit?_mono {higher digit : Nat} {character : Char} (hle : base ≤ higher)
    (h : digit? base character = some digit) : digit? higher character = some digit := by
  simp only [digit?, Option.filter_eq_some_iff, decide_eq_true_eq] at h ⊢
  exact ⟨h.1, Nat.lt_of_lt_of_le h.2 hle⟩

theorem AreDigits.mono {higher : Nat} (hle : base ≤ higher) (h : AreDigits base characters digits) :
    AreDigits higher characters digits :=
  List.Forall₂.imp (fun _ _ ↦ digit?_mono hle) h

theorem exists_of_takeDigits (base : Nat) (characters : List Char) :
    ∃ front, AreDigits base front (takeDigits base characters).1 ∧
      Ends base (takeDigits base characters).2 ∧
        characters = front ++ (takeDigits base characters).2 := by
  induction characters with
  | nil => exact ⟨[], .nil, ends_nil base, rfl⟩
  | cons character characters ih =>
    obtain ⟨front, hfront, hends, hcharacters⟩ := ih
    rw [takeDigits]
    cases hdigit : digit? base character with
    | none => exact ⟨[], .nil, ends_cons hdigit characters, rfl⟩
    | some digit => exact ⟨character :: front, .cons hdigit hfront, hends, by
        rw [List.cons_append, ← hcharacters]⟩

/-- A number is taken exactly if it is spelled there, accepted and ended. -/
theorem take?_eq_some_iff {accept : List Nat → Bool} (Accepted : List Char → Prop)
    (haccept : ∀ {front digits}, AreDigits base front digits →
      (accept digits = true ↔ Accepted front)) :
    take? base bound accept characters = some (number, rest) ↔
      ∃ front, Spells base number front ∧ Accepted front ∧ number < bound ∧ Ends base rest ∧
        characters = front ++ rest := by
  constructor
  · intro h
    obtain ⟨front, hfront, hends, hcharacters⟩ := exists_of_takeDigits base characters
    rw [take?] at h
    dsimp only at h
    split at h
    · cases h
    next htaken =>
    simp only [Bool.or_eq_true, decide_eq_true_eq, List.isEmpty_iff, Bool.not_eq_true', not_or,
      Bool.not_eq_false, Nat.not_le] at htaken
    obtain ⟨⟨hnonempty, haccepted⟩, hbound⟩ := htaken
    rw [Option.some.injEq, Prod.mk.injEq] at h
    obtain ⟨rfl, rfl⟩ := h
    exact ⟨front, ⟨_, hfront, hnonempty, rfl⟩, (haccept hfront).mp haccepted, hbound, hends,
      hcharacters⟩
  · rintro ⟨front, ⟨digits, hdigits, hnonempty, rfl⟩, haccepted, hbound, hends, rfl⟩
    rw [take?, takeDigits_append hdigits hends]
    dsimp only
    rw [if_neg]
    simp only [Bool.or_eq_true, decide_eq_true_eq, List.isEmpty_iff, Bool.not_eq_true', not_or,
      Bool.not_eq_false, Nat.not_le]
    exact ⟨⟨hnonempty, (haccept hdigits).mpr haccepted⟩, hbound⟩

/-- A type that keeps the numbers below a bound. -/
structure Keeps {α : Type} (bound : Nat) (keep : Nat → α) (kept : α → Nat) : Prop where
  kept_lt : ∀ value, kept value < bound
  keep_kept : ∀ value, keep (kept value) = value
  kept_keep : ∀ number < bound, kept (keep number) = number

theorem keeps_uInt8 : Keeps 256 UInt8.ofNat UInt8.toNat :=
  ⟨fun value ↦ value.toNat_lt, fun _ ↦ UInt8.ofNat_toNat, fun _ ↦ UInt8.toNat_ofNat_of_lt'⟩

theorem keeps_uInt16 : Keeps 65536 UInt16.ofNat UInt16.toNat :=
  ⟨fun value ↦ value.toNat_lt, fun _ ↦ UInt16.ofNat_toNat, fun _ ↦ UInt16.toNat_ofNat_of_lt'⟩

theorem keeps_uInt32 : Keeps 4294967296 UInt32.ofNat UInt32.toNat :=
  ⟨fun value ↦ value.toNat_lt, fun _ ↦ UInt32.ofNat_toNat, fun _ ↦ UInt32.toNat_ofNat_of_lt'⟩

section Kept

variable {α : Type} {keep : Nat → α} {kept : α → Nat} (hkeeps : Keeps bound keep kept)
  {accept : List Nat → Bool} (Accepted : List Char → Prop) {value : α}
include hkeeps

/-- A number that is kept as a value is taken exactly if it is spelled there and ended. -/
theorem map_take?_eq_some_iff (haccept : ∀ {front digits}, AreDigits base front digits →
      (accept digits = true ↔ Accepted front)) :
    (take? base bound accept characters).map (fun (number, rest) ↦ (keep number, rest)) =
      some (value, rest) ↔
    ∃ front, Spells base (kept value) front ∧ Accepted front ∧ Ends base rest ∧
      characters = front ++ rest := by
  simp only [Option.map_eq_some_iff, Prod.exists, Prod.mk.injEq]
  constructor
  · rintro ⟨number, _, hnumber, rfl, rfl⟩
    obtain ⟨front, hspells, haccepted, hbound, hends, hcharacters⟩ :=
      (take?_eq_some_iff Accepted haccept).mp hnumber
    exact ⟨front, (hkeeps.kept_keep number hbound).symm ▸ hspells, haccepted, hends, hcharacters⟩
  · rintro ⟨front, hspells, haccepted, hends, hcharacters⟩
    exact ⟨kept value, rest, (take?_eq_some_iff Accepted haccept).mpr
      ⟨front, hspells, haccepted, hkeeps.kept_lt value, hends, hcharacters⟩,
      hkeeps.keep_kept value, rfl⟩

end Kept

end Numeral

theorem takeChar?_eq_some_iff {wanted : Char} :
    takeChar? wanted characters = some rest ↔ characters = wanted :: rest := by
  cases characters with
  | nil => simp [takeChar?]
  | cons character others =>
    rw [takeChar?, List.cons.injEq]
    split
    · next hwanted => simp [hwanted]
    · next hother => simp [hother]

/-- A part behind a lead is a part of what stands behind the lead. -/
theorem exists_behind_iff {lead : List Char} {IsPart : List Char → Prop} {hasEnded : Prop} :
    (∃ others, characters = lead ++ others ∧
      ∃ front, IsPart front ∧ hasEnded ∧ others = front ++ rest) ↔
    ∃ front, IsPart front ∧ hasEnded ∧ characters = lead ++ (front ++ rest) := by
  constructor
  · rintro ⟨_, rfl, front, hfront, hended, rfl⟩
    exact ⟨front, hfront, hended, rfl⟩
  · rintro ⟨front, hfront, hended, rfl⟩
    exact ⟨_, rfl, front, hfront, hended, rfl⟩

open Numeral (AreDigits Ends digit?)

/-! ### Four octets -/

namespace Ipv4

variable {octet : UInt8} {host : Ipv4}

theorem digit?_eq_zero_iff {character : Char} : digit? 10 character = some 0 ↔ character = '0' := by
  constructor
  · intro h
    rw [digit?, Option.filter_eq_some_iff] at h
    have hvalue := h.1
    unfold Text.Hex.value? at hvalue
    have hcode : character.toNat = 0x30 := by
      split_ifs at hvalue <;> rw [Option.some.injEq] at hvalue <;> omega
    exact Char.toNat_inj.mp hcode
  · rintro rfl
    rfl

theorem isOctet_iff {digits : List Nat} (hfront : AreDigits 10 front digits) :
    isOctet digits = true ↔ front.length ≤ 3 ∧ (front.head? = some '0' → front = ['0']) := by
  have hlength := hfront.length_eq
  cases hfront with
  | nil => simp [isOctet]
  | @cons character digit characters digits hdigit hdigits =>
    have hzero : digit = 0 ↔ character = '0' := by
      rw [← digit?_eq_zero_iff, hdigit, Option.some.injEq]
    simp only [isOctet, Bool.and_eq_true, decide_eq_true_eq, Bool.or_eq_true, ← hlength,
      List.length_cons, Nat.add_eq_right, List.length_eq_zero_iff, List.head?_cons,
      Option.some.injEq, List.cons.injEq, hzero, ne_eq]
    tauto

theorem takeOctet?_eq_some_iff : takeOctet? characters = some (octet, rest) ↔
    ∃ front, SpellsOctet octet front ∧ Ends 10 rest ∧ characters = front ++ rest := by
  refine (Numeral.map_take?_eq_some_iff Numeral.keeps_uInt8 _ isOctet_iff).trans ?_
  simp only [spellsOctet_iff, and_assoc]

/-- A host is taken exactly if it is spelled there and ended. -/
theorem take?_eq_some_iff : take? characters = some (host, rest) ↔
    ∃ front, host.Spells front ∧ Ends 10 rest ∧ characters = front ++ rest := by
  constructor
  · intro h
    simp only [take?, Option.bind_eq_bind, Option.bind_eq_some_iff, takeOctet?_eq_some_iff,
      takeChar?_eq_some_iff, Prod.exists, Option.some.injEq, Prod.mk.injEq] at h
    obtain ⟨first, _, ⟨one, hone, -, rfl⟩, _, rfl, second, _, ⟨two, htwo, -, rfl⟩, _, rfl, third,
      _, ⟨three, hthree, -, rfl⟩, _, rfl, fourth, _, ⟨four, hfour, hends, rfl⟩, rfl, rfl⟩ := h
    exact ⟨_, ⟨hone, htwo, hthree, hfour⟩, hends, by simp⟩
  · rintro ⟨front, hfront, hends, rfl⟩
    cases hfront with
    | @intro first second third fourth hfirst hsecond hthird hfourth =>
      simp only [take?, Option.bind_eq_bind, Option.bind_eq_some_iff, takeOctet?_eq_some_iff,
        takeChar?_eq_some_iff, Prod.exists, Option.some.injEq, Prod.mk.injEq]
      refine ⟨host.first, _, ⟨first, hfirst, Numeral.ends_cons rfl _, ?_⟩, _, rfl,
        host.second, _, ⟨second, hsecond, Numeral.ends_cons rfl _, rfl⟩, _, rfl,
        host.third, _, ⟨third, hthird, Numeral.ends_cons rfl _, rfl⟩, _, rfl,
        host.fourth, _, ⟨fourth, hfourth, hends, rfl⟩, rfl, rfl⟩
      simp

end Ipv4

/-! ### Eight groups -/

namespace Ipv6

variable {first octets : Bool} {group : UInt16} {groups : List UInt16} {limit : Nat}

theorem takeGroup?_eq_some_iff : takeGroup? characters = some (group, rest) ↔
    ∃ front, SpellsGroup group front ∧ Ends 16 rest ∧ characters = front ++ rest := by
  refine (Numeral.map_take?_eq_some_iff Numeral.keeps_uInt16 (·.length ≤ 4)
    fun hdigits ↦ by rw [decide_eq_true_eq, hdigits.length_eq]).trans ?_
  simp only [spellsGroup_iff, and_assoc]

theorem behindColon?_eq_some_iff :
    behindColon? first characters = some rest ↔ characters = colon first ++ rest := by
  cases first with
  | false => exact takeChar?_eq_some_iff
  | true => exact Option.some_inj

theorem bind_takeGroup?_eq_some_iff :
    (behindColon? first characters).bind takeGroup? = some (group, rest) ↔
      ∃ front, SpellsGroup group front ∧ Ends 16 rest ∧
        characters = colon first ++ (front ++ rest) := by
  simp only [Option.bind_eq_some_iff, behindColon?_eq_some_iff, takeGroup?_eq_some_iff]
  exact exists_behind_iff

theorem takeOctets?_eq_some_iff {host : Ipv4} : takeOctets? first characters = some (host, rest) ↔
    ∃ front, host.Spells front ∧ Ends 10 rest ∧ characters = colon first ++ (front ++ rest) := by
  simp only [takeOctets?, Option.bind_eq_some_iff, behindColon?_eq_some_iff,
    Ipv4.take?_eq_some_iff]
  exact exists_behind_iff

/-- What stands behind groups: a gap, a scope, or the end of the host. -/
inductive EndsGroups : List Char → Prop
  | gap (rest : List Char) : EndsGroups (':' :: ':' :: rest)
  | scope (rest : List Char) : EndsGroups ('%' :: rest)
  | close (rest : List Char) : EndsGroups (']' :: rest)

/-- Groups taken from the front are spelled there. -/
theorem exists_of_takeGroups (h : takeGroups limit first characters = ⟨groups, octets, rest⟩) :
    ∃ front, SpellsGroups first octets groups front ∧ groups.length ≤ limit ∧
      characters = front ++ rest := by
  induction limit generalizing first characters groups with
  | zero =>
    cases h
    exact ⟨[], .nil, Nat.le_refl 0, rfl⟩
  | succ limit ih =>
    rw [takeGroups] at h
    split at h
    · next host behind htaken =>
      cases h
      split_ifs at htaken with hlimit
      obtain ⟨front, hhost, -, rfl⟩ := takeOctets?_eq_some_iff.mp htaken
      refine ⟨colon first ++ front, .octets hhost, ?_, by rw [List.append_assoc]⟩
      change 2 ≤ limit + 1
      omega
    · split at h
      · cases h
        exact ⟨[], .nil, Nat.zero_le _, rfl⟩
      · next group behind htaken =>
        obtain ⟨front, hgroup, -, rfl⟩ := bind_takeGroup?_eq_some_iff.mp htaken
        cases hothers : takeGroups limit false behind with
        | mk values flag left =>
          rw [hothers] at h
          cases h
          obtain ⟨others, hspells, hlength, rfl⟩ := ih hothers
          exact ⟨colon first ++ (front ++ others), .cons hgroup hspells,
            Nat.succ_le_succ hlength, by simp only [List.append_assoc]⟩

/-- What stands behind a group: a colon, or what stands behind all of them. -/
def EndsGroup (rest : List Char) : Prop :=
  ∃ mark others, rest = mark :: others ∧ mark ∈ [':', '%', ']']

theorem EndsGroup.ends (h : EndsGroup rest) : Ends 16 rest := by
  obtain ⟨mark, others, rfl, hmark⟩ := h
  simp only [List.mem_cons, List.not_mem_nil, or_false] at hmark
  rcases hmark with rfl | rfl | rfl <;> exact Numeral.ends_cons rfl others

theorem EndsGroups.endsGroup (hrest : EndsGroups rest)
    (h : SpellsGroups false octets groups front) : EndsGroup (front ++ rest) := by
  cases h with
  | nil => cases hrest <;> exact ⟨_, _, rfl, by decide⟩
  | octets => exact ⟨_, _, rfl, by decide⟩
  | cons => exact ⟨_, _, rfl, by decide⟩

/-- Octets are followed by a point and groups are not, so that no octets are taken for groups. -/
theorem takeOctets?_group (hgroup : SpellsGroup group front) (hrest : EndsGroup rest) :
    takeOctets? first (colon first ++ (front ++ rest)) = none := by
  rw [Option.eq_none_iff_forall_ne_some]
  rintro ⟨host, others⟩ htaken
  obtain ⟨place, hplace, -, hfront⟩ := takeOctets?_eq_some_iff.mp htaken
  obtain ⟨digits, hdigits, -⟩ := hgroup.number
  cases hplace with
  | @intro octet second third fourth hoctet =>
    obtain ⟨values, hvalues, -⟩ := hoctet.number
    -- Both spellings begin with the same digits, so that a point would stand behind the group.
    have hleft := Numeral.takeDigits_append hdigits hrest.ends
    rw [List.append_cancel_left hfront, List.append_assoc, List.cons_append,
      Numeral.takeDigits_append (hvalues.mono (by decide)) (Numeral.ends_cons rfl _)] at hleft
    obtain ⟨mark, behind, rfl, hmark⟩ := hrest
    rw [← (List.cons.inj (Prod.mk.inj hleft).2).1] at hmark
    exact absurd hmark (by decide)

section Endings

variable (hrest : EndsGroups rest)
include hrest

theorem EndsGroups.ends : Ends 10 rest := by
  cases hrest <;> exact Numeral.ends_cons rfl _

theorem EndsGroups.ends_cons {character : Char} {others : List Char}
    (h : rest = colon first ++ character :: others) : digit? 16 character = none := by
  cases hrest <;> cases first <;> cases h <;> rfl

theorem EndsGroups.bind_takeGroup? : (behindColon? first rest).bind takeGroup? = none := by
  rw [Option.eq_none_iff_forall_ne_some]
  rintro ⟨group, others⟩ htaken
  obtain ⟨front, hgroup, -, hfront⟩ := bind_takeGroup?_eq_some_iff.mp htaken
  obtain ⟨character, characters, digit, rfl, hdigit⟩ := hgroup.number.exists_eq_cons
  exact absurd (hdigit.symm.trans (hrest.ends_cons hfront)) nofun

theorem EndsGroups.takeOctets? : takeOctets? first rest = none := by
  rw [Option.eq_none_iff_forall_ne_some]
  rintro ⟨host, others⟩ htaken
  obtain ⟨front, hhost, -, hfront⟩ := takeOctets?_eq_some_iff.mp htaken
  cases hhost with
  | intro hoctet =>
    obtain ⟨character, characters, digit, rfl, hdigit⟩ := hoctet.number.exists_eq_cons
    have hhex := Numeral.digit?_mono (by decide : 10 ≤ 16) hdigit
    exact absurd (hhex.symm.trans (hrest.ends_cons hfront)) nofun

/-- Groups that are spelled are taken, up to what stands behind them. -/
theorem takeGroups_append (hgroups : SpellsGroups first octets groups front)
    (hlimit : groups.length ≤ limit) :
    takeGroups limit first (front ++ rest) = ⟨groups, octets, rest⟩ := by
  induction hgroups generalizing limit with
  | nil =>
    cases limit with
    | zero => rfl
    | succ limit =>
      rw [List.nil_append, takeGroups, hrest.takeOctets?, ite_self, hrest.bind_takeGroup?]
  | @octets first host characters hhost =>
    -- Octets are tried only where two groups are still missing.
    obtain ⟨limit, rfl⟩ : ∃ others, limit = others + 2 := Nat.exists_eq_add_of_le' hlimit
    have htaken : Ipv6.takeOctets? first (colon first ++ characters ++ rest) = some (host, rest) :=
      takeOctets?_eq_some_iff.mpr ⟨characters, hhost, hrest.ends, List.append_assoc ..⟩
    rw [takeGroups, if_neg (Nat.succ_ne_zero _), htaken]
  | @cons first octets group groups characters others hgroup hothers ih =>
    cases limit with
    | zero => exact absurd hlimit (Nat.not_succ_le_zero _)
    | succ limit =>
      have hends := hrest.endsGroup hothers
      have htaken : (behindColon? first (colon first ++ (characters ++ (others ++ rest)))).bind
          takeGroup? = some (group, others ++ rest) :=
        bind_takeGroup?_eq_some_iff.mpr ⟨characters, hgroup, hends.ends, rfl⟩
      rw [List.append_assoc, List.append_assoc, takeGroups, takeOctets?_group hgroup hends,
        ite_self, htaken]
      dsimp only
      rw [ih (Nat.le_of_succ_le_succ hlimit)]

end Endings

variable {host : Ipv6}

theorem ofGroups?_eq_some_iff : ofGroups? groups = some host ↔ host.groups = groups := by
  rw [ofGroups?]
  split
  · next hlength =>
    rw [Option.some.injEq]
    exact ⟨fun h ↦ h ▸ rfl, fun h ↦ by cases host; cases h; rfl⟩
  · next hlength =>
    exact ⟨nofun, fun h ↦ absurd (h ▸ host.length_groups) hlength⟩

section Gap

variable {back : List UInt16} {before behind : List Char}

theorem exists_of_takeBehindGap? (h : takeBehindGap? groups characters = some (host, rest))
    (hlength : groups.length < 8) :
    ∃ octets back behind length, host.groups = groups ++ (List.replicate (length + 1) 0 ++ back) ∧
      SpellsGroups true octets back behind ∧ characters = ':' :: ':' :: (behind ++ rest) := by
  simp only [takeBehindGap?, Option.bind_eq_bind, Option.bind_eq_some_iff, takeChar?_eq_some_iff,
    ofGroups?_eq_some_iff, Option.some.injEq, Prod.mk.injEq] at h
  obtain ⟨_, rfl, behindGap, rfl, _, hgroups, rfl, rfl⟩ := h
  cases htaken : takeGroups (8 - (groups.length + 1)) true behindGap with
  | mk back octets rest =>
    rw [htaken] at hgroups
    obtain ⟨behind, hbehind, hlimit, rfl⟩ := exists_of_takeGroups htaken
    refine ⟨octets, back, behind, 7 - groups.length - back.length, ?_, hbehind, rfl⟩
    rw [hgroups, List.append_assoc]
    congr 3
    dsimp only
    omega

theorem takeBehindGap?_append {length : Nat}
    (hgroups : host.groups = groups ++ (List.replicate (length + 1) 0 ++ back))
    (hback : SpellsGroups true octets back behind) (hrest : EndsGroups rest) :
    takeBehindGap? groups (':' :: ':' :: (behind ++ rest)) = some (host, rest) := by
  have hlength := host.length_groups
  rw [hgroups] at hlength
  simp only [List.length_append, List.length_replicate] at hlength
  have hgap : 8 - groups.length - back.length = length + 1 := by omega
  simp only [takeBehindGap?, takeChar?, if_true, Option.bind_eq_bind, Option.bind_some]
  rw [takeGroups_append hrest hback (by omega)]
  dsimp only
  rw [hgap, List.append_assoc, ofGroups?_eq_some_iff.mpr hgroups]
  rfl

end Gap

/-- A host that is taken from the front is spelled there. -/
theorem exists_of_take? (h : take? characters = some (host, rest)) :
    ∃ front, host.Spells front ∧ characters = front ++ rest := by
  cases htaken : takeGroups 8 true characters with
  | mk groups octets behind =>
    obtain ⟨before, hbefore, hlimit, rfl⟩ := exists_of_takeGroups htaken
    rw [take?, htaken] at h
    dsimp only at h
    split at h
    · next taken hgroups =>
      cases h
      rw [← ofGroups?_eq_some_iff.mp hgroups] at hbefore
      exact ⟨before, .full hbefore, rfl⟩
    · next hgroups =>
      split at h
      · cases h
      next hoctets =>
      rw [Bool.not_eq_true] at hoctets
      subst hoctets
      -- Fewer than eight groups were taken, so that there is room for a gap.
      have hlength : groups.length < 8 := by
        refine Nat.lt_of_le_of_ne hlimit fun hfull ↦ ?_
        rw [ofGroups?, dif_pos hfull] at hgroups
        cases hgroups
      obtain ⟨octets, back, behind, length, hall, hback, rfl⟩ := exists_of_takeBehindGap? h hlength
      exact ⟨_, .gap hall hbefore hback, by simp⟩

/-- A host that is spelled is taken, up to what stands behind it. -/
theorem take?_append (hhost : host.Spells front) (hrest : EndsGroups rest) :
    take? (front ++ rest) = some (host, rest) := by
  have hlength := host.length_groups
  cases hhost with
  | full hgroups =>
    rw [take?, takeGroups_append hrest hgroups (Nat.le_of_eq hlength)]
    dsimp only
    rw [ofGroups?_eq_some_iff.mpr rfl]
  | @gap octets groups back before behind length hgroups hfront hback =>
    rw [hgroups] at hlength
    simp only [List.length_append, List.length_replicate] at hlength
    rw [List.append_assoc, List.cons_append, List.cons_append, take?,
      takeGroups_append (.gap _) hfront (by omega)]
    dsimp only
    rw [ofGroups?, dif_neg (by omega), if_neg Bool.false_ne_true]
    exact takeBehindGap?_append hgroups hback hrest

end Ipv6

/-! ### Addresses -/

namespace Address

variable {port : UInt16} {scope : UInt32} {address : Address}

/-- A number behind a sign is taken exactly if it is spelled there and ended. -/
theorem takeBehind?_eq_some_iff {α : Type} {bound : Nat} {keep : Nat → α} {kept : α → Nat}
    (hkeeps : Numeral.Keeps bound keep kept) {sign : Char} {value : α} :
    ((takeChar? sign characters).bind fun others ↦
      (Numeral.take? 10 bound (fun _ ↦ true) others).bind fun (number, rest) ↦
        some (keep number, rest)) = some (value, rest) ↔
    ∃ front, Numeral.Spells 10 (kept value) front ∧ Ends 10 rest ∧
      characters = sign :: (front ++ rest) := by
  have hmap : ∀ others, ((Numeral.take? 10 bound (fun _ ↦ true) others).bind
      fun (number, rest) ↦ some (keep number, rest)) =
        (Numeral.take? 10 bound (fun _ ↦ true) others).map
          fun (number, rest) ↦ (keep number, rest) :=
    fun _ ↦ Option.map_eq_bind.symm
  have htake : ∀ others, ((Numeral.take? 10 bound (fun _ ↦ true) others).map
      fun (number, rest) ↦ (keep number, rest)) = some (value, rest) ↔ _ :=
    fun _ ↦ Numeral.map_take?_eq_some_iff hkeeps (fun _ ↦ True) fun _ ↦ iff_of_true rfl trivial
  rw [Option.bind_eq_some_iff]
  simp only [takeChar?_eq_some_iff, hmap, htake, true_and]
  exact @exists_behind_iff characters rest [sign] _ _

theorem takePort?_eq_some_iff : takePort? characters = some (port, rest) ↔
    ∃ front, Numeral.Spells 10 port.toNat front ∧ Ends 10 rest ∧
      characters = ':' :: (front ++ rest) :=
  takeBehind?_eq_some_iff Numeral.keeps_uInt16

theorem takeScope?_eq_some_iff : takeScope? characters = some (scope, rest) ↔
    ∃ front, Numeral.Spells 10 scope.toNat front ∧ Ends 10 rest ∧
      characters = '%' :: (front ++ rest) :=
  takeBehind?_eq_some_iff Numeral.keeps_uInt32

theorem exists_of_takeV4? (h : takeV4? characters = some (address, rest)) :
    ∃ front, address.Spells front ∧ characters = front ++ rest := by
  simp only [takeV4?, Option.bind_eq_bind, Option.bind_eq_some_iff, Ipv4.take?_eq_some_iff,
    takePort?_eq_some_iff, Prod.exists, Option.some.injEq, Prod.mk.injEq] at h
  obtain ⟨host, _, ⟨place, hplace, -, rfl⟩, port, _, ⟨door, hdoor, -, rfl⟩, rfl, rfl⟩ := h
  exact ⟨_, .v4 hplace hdoor, by simp⟩

/-- A scope may be left out. -/
theorem exists_of_takeScope? (characters : List Char) :
    ∃ link, SpellsScope ((takeScope? characters).getD (0, characters)).1 link ∧
      characters = link ++ ((takeScope? characters).getD (0, characters)).2 := by
  cases htaken : takeScope? characters with
  | none => exact ⟨[], .none, rfl⟩
  | some taken =>
    obtain ⟨front, hfront, -, hcharacters⟩ := takeScope?_eq_some_iff.mp htaken
    exact ⟨'%' :: front, .named hfront, hcharacters⟩

theorem exists_of_takeV6? (h : takeV6? characters = some (address, rest)) :
    ∃ front, address.Spells front ∧ characters = front ++ rest := by
  simp only [takeV6?, Option.bind_eq_bind, Option.bind_eq_some_iff, takeChar?_eq_some_iff,
    takePort?_eq_some_iff, Prod.exists, Option.some.injEq, Prod.mk.injEq] at h
  obtain ⟨_, rfl, host, behind, hhost, _, hclose, port, _, ⟨door, hdoor, -, rfl⟩, rfl, rfl⟩ := h
  obtain ⟨place, hplace, rfl⟩ := Ipv6.exists_of_take? hhost
  obtain ⟨link, hlink, hbehind⟩ := exists_of_takeScope? behind
  rw [hclose] at hbehind
  exact ⟨_, .v6 hplace hlink hdoor, by simp [hbehind]⟩

/-- A scope or none is taken in front of a bracket. -/
theorem getD_takeScope?_append {link : List Char} (hscope : SpellsScope scope link)
    (rest : List Char) :
    (takeScope? (link ++ ']' :: rest)).getD (0, link ++ ']' :: rest) = (scope, ']' :: rest) := by
  cases hscope with
  | none => rfl
  | named hscope =>
    rw [List.cons_append, takeScope?_eq_some_iff.mpr ⟨_, hscope, Numeral.ends_cons rfl rest, rfl⟩,
      Option.getD_some]

theorem takePort?_cons {door : List Char} (hport : Numeral.Spells 10 port.toNat door) :
    takePort? (':' :: door) = some (port, []) :=
  takePort?_eq_some_iff.mpr ⟨door, hport, Numeral.ends_nil 10, by rw [List.append_nil]⟩

/-- An address that is spelled is taken. One with eight groups begins with a bracket, so that no
octets are taken from it. -/
theorem take?_of_spells (h : address.Spells characters) :
    (takeV4? characters).or (takeV6? characters) = some (address, []) := by
  cases h with
  | @v4 host port place door hhost hport =>
    have hplace : Ipv4.take? (place ++ ':' :: door) = some (host, ':' :: door) :=
      Ipv4.take?_eq_some_iff.mpr ⟨place, hhost, Numeral.ends_cons rfl door, rfl⟩
    have htaken : takeV4? (place ++ ':' :: door) = some (.v4 host port, []) := by
      simp only [takeV4?, hplace, takePort?_cons hport, Option.bind_eq_bind, Option.bind_some]
    rw [htaken, Option.some_or]
  | @v6 host scope port place link door hhost hscope hport =>
    have hends : Ipv6.EndsGroups (link ++ ']' :: ':' :: door) := by
      cases hscope with
      | none => exact .close _
      | named => exact .scope _
    have htaken : takeV6? ('[' :: (place ++ (link ++ ']' :: ':' :: door))) =
        some (.v6 host scope port, []) := by
      simp only [takeV6?, takeChar?, if_true, Ipv6.take?_append hhost hends,
        getD_takeScope?_append hscope, takePort?_cons hport, Option.bind_eq_bind,
        Option.bind_some]
    have hnone : takeV4? ('[' :: (place ++ (link ++ ']' :: ':' :: door))) = none := rfl
    rw [hnone, htaken, Option.none_or]

/-- A text is read as an address exactly if it spells it. -/
theorem parse?_eq_some_iff {text : String} :
    parse? text = some address ↔ address.Spells text.toList := by
  constructor
  · intro h
    rw [parse?] at h
    split at h
    · next taken htaken =>
      rw [← Option.some.inj h]
      have hspelled : ∃ front, taken.Spells front ∧ text.toList = front ++ [] :=
        (Option.or_eq_some_iff.mp htaken).elim exists_of_takeV4? fun h ↦ exists_of_takeV6? h.2
      obtain ⟨front, hfront, hcharacters⟩ := hspelled
      rwa [hcharacters, List.append_nil]
    · cases h
  · intro h
    rw [parse?, take?_of_spells h]

/-- No text spells two addresses. -/
theorem Spells.unique {other : Address} (h : address.Spells characters)
    (hother : other.Spells characters) : address = other := by
  have htaken := (take?_of_spells h).symm.trans (take?_of_spells hother)
  rw [Option.some.injEq, Prod.mk.injEq] at htaken
  exact htaken.1

end Address

end TokenService
