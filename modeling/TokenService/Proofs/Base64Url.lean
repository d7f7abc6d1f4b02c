import Mathlib.Data.List.TakeWhile
import Mathlib.Tactic.IntervalCases
import TokenService.Base64Url
import TokenService.Proofs.Text.Utf8

/-!
# Base64 for URLs, both ways

Reading what was written gives the bytes back (`decode_encode`), and a text that can be read is the
one written form of what it reads as (`encode_of_decode`): padding, stray bytes, lone symbols and
spare bits would each give a second spelling, and each is refused. The written form consists of
letters, digits, `-` and `_` (`IsSymbol`).
-/

set_option autoImplicit false
set_option relaxedAutoImplicit false

namespace TokenService.Base64Url

open Text.Utf8 (toNat_ofNat_of_lt)

/-- The characters of the alphabet: letters, digits, the hyphen and the underscore. -/
def IsSymbol (byte : UInt8) : Prop :=
  ∃ character : Char, byte = ascii character ∧
    (character.isAlphanum = true ∨ character = '-' ∨ character = '_')

theorem toNat_lt_of_isAlphanum {character : Char}
    (h : character.isAlphanum = true ∨ character = '-' ∨ character = '_') :
    character.toNat < 0x80 := by
  rcases h with halphanum | rfl | rfl
  · have hsmall : ∀ bound : Char, bound.toNat < 0x80 → character.val ≤ bound.val →
        character.toNat < 0x80 := fun bound hbound hle ↦ Nat.lt_of_le_of_lt hle hbound
    rcases (Bool.or_eq_true _ _).mp halphanum with halpha | hdigit
    · rcases (Bool.or_eq_true _ _).mp halpha with hupper | hlower
      · exact hsmall 'Z' (by decide) (of_decide_eq_true hupper).2
      · exact hsmall 'z' (by decide) (of_decide_eq_true ((Bool.and_eq_true _ _).mp hlower).2)
    · exact hsmall '9' (by decide) (of_decide_eq_true ((Bool.and_eq_true _ _).mp hdigit).2)
  · decide
  · decide

theorem toNat_lt_of_isSymbol {byte : UInt8} (hbyte : IsSymbol byte) : byte.toNat < 0x80 := by
  obtain ⟨character, rfl, hcharacter⟩ := hbyte
  have hsmall := toNat_lt_of_isAlphanum hcharacter
  rw [ascii, toNat_ofNat_of_lt (by omega)]
  exact hsmall

/-- Which ASCII characters are in the alphabet. -/
theorem isSymbol_ascii_iff {character : Char} (hascii : character.toNat < 0x80) :
    IsSymbol (ascii character) ↔
      character.isAlphanum = true ∨ character = '-' ∨ character = '_' := by
  constructor
  · rintro ⟨other, hsame, hother⟩
    have hsmall := toNat_lt_of_isAlphanum hother
    have hcode := congrArg UInt8.toNat hsame
    rw [ascii, ascii, toNat_ofNat_of_lt (by omega), toNat_ofNat_of_lt (by omega)] at hcode
    rw [← Char.ofNat_toNat other, ← hcode, Char.ofNat_toNat] at hother
    exact hother
  · intro h
    exact ⟨character, rfl, h⟩

theorem not_isSymbol_dot : ¬IsSymbol (ascii '.') := by
  rw [isSymbol_ascii_iff (by decide)]
  decide

/-! ### One symbol -/

theorem value?_symbol : ∀ value < 64, value? (symbol value) = some value := by
  decide

theorem symbol_ne_pad : ∀ value < 64, symbol value ≠ pad := by
  decide

theorem isSymbol_symbol {value : Nat} (hvalue : value < 64) : IsSymbol (symbol value) := by
  refine ⟨Char.ofNat (symbol value).toNat, ?_, ?_⟩
  · interval_cases value <;> rfl
  · interval_cases value <;> decide

/-- A byte with a value is the symbol of this value. -/
theorem symbol_of_value? {byte : UInt8} {value : Nat} (h : value? byte = some value) :
    value < 64 ∧ symbol value = byte := by
  have hbyte : byte = UInt8.ofNat byte.toNat := UInt8.ofNat_toNat.symm
  have hdash : (ascii '-').toNat = 0x2D := rfl
  unfold value? at h
  dsimp only at h
  split at h
  · have hvalue := Option.some.inj h
    refine ⟨by omega, ?_⟩
    rw [symbol, if_pos (by omega), hbyte]
    congr 1
    omega
  split at h
  · have hvalue := Option.some.inj h
    refine ⟨by omega, ?_⟩
    rw [symbol, if_neg (by omega), if_pos (by omega), hbyte]
    congr 1
    omega
  split at h
  · have hvalue := Option.some.inj h
    refine ⟨by omega, ?_⟩
    rw [symbol, if_neg (by omega), if_neg (by omega), if_pos (by omega), hbyte]
    congr 1
    omega
  split at h
  · next hminus =>
    rw [← Option.some.inj h, hminus]
    exact ⟨by decide, rfl⟩
  split at h
  · next hline =>
    rw [← Option.some.inj h, hline]
    exact ⟨by decide, rfl⟩
  · cases h

/-! ### Runs of symbols -/

theorem values_map_symbol (offset : Nat) {sixes : List Nat} (hsixes : ∀ six ∈ sixes, six < 64) :
    values offset (sixes.map symbol) = .ok sixes := by
  induction sixes generalizing offset with
  | nil => rfl
  | cons six sixes ih =>
    have hfirst := value?_symbol six (hsixes six List.mem_cons_self)
    have hrest := ih (offset + 1) fun other hother ↦ hsixes other (List.mem_cons_of_mem _ hother)
    rw [List.map_cons, values, hfirst]
    simp only [hrest, Except.map]

theorem map_symbol_of_values {offset : Nat} {bytes : Bytes} {sixes : List Nat}
    (h : values offset bytes = .ok sixes) :
    (∀ six ∈ sixes, six < 64) ∧ sixes.map symbol = bytes := by
  induction bytes generalizing offset sixes with
  | nil =>
    rw [values, Except.ok.injEq] at h
    rw [← h]
    exact ⟨fun _ hnone ↦ absurd hnone List.not_mem_nil, rfl⟩
  | cons byte bytes ih =>
    rw [values] at h
    split at h
    · cases h
    · next value hvalue =>
      cases hrest : values (offset + 1) bytes with
      | error fault =>
        rw [hrest] at h
        cases h
      | ok others =>
        rw [hrest, Except.map, Except.ok.injEq] at h
        obtain ⟨hsmall, hwritten⟩ := ih hrest
        obtain ⟨hlt, hbyte⟩ := symbol_of_value? hvalue
        rw [← h]
        refine ⟨fun six hsix ↦ ?_, by rw [List.map_cons, hbyte, hwritten]⟩
        rcases List.mem_cons.mp hsix with rfl | hsix
        · exact hlt
        · exact hsmall six hsix

/-! ### One group -/

/-- The sixes of a group of one, two or three bytes give these bytes. -/
theorem bytesOfValues_one (last : UInt8) (offset : Nat) (first : UInt8) :
    bytesOfValues last offset [first.toNat / 4, first.toNat % 4 * 16] = .ok [first] := by
  have hjoin : first.toNat / 4 * 4 + first.toNat % 4 * 16 / 16 = first.toNat := by omega
  rw [bytesOfValues, if_pos (by omega), hjoin, UInt8.ofNat_toNat]

theorem bytesOfValues_two (last : UInt8) (offset : Nat) (first second : UInt8) :
    bytesOfValues last offset [first.toNat / 4, first.toNat % 4 * 16 + second.toNat / 16,
      second.toNat % 16 * 4] = .ok [first, second] := by
  have hsecond := second.toNat_lt
  have hleft : first.toNat / 4 * 4 + (first.toNat % 4 * 16 + second.toNat / 16) / 16 =
      first.toNat := by omega
  have hright : (first.toNat % 4 * 16 + second.toNat / 16) % 16 * 16 +
      second.toNat % 16 * 4 / 4 = second.toNat := by omega
  rw [bytesOfValues, if_pos (by omega), hleft, hright, UInt8.ofNat_toNat, UInt8.ofNat_toNat]

theorem bytesOfValues_three (last : UInt8) (offset : Nat) (first second third : UInt8) :
    bytesOfValues last offset [first.toNat / 4, first.toNat % 4 * 16 + second.toNat / 16,
      second.toNat % 16 * 4 + third.toNat / 64, third.toNat % 64] = .ok [first, second, third] := by
  have hsecond := second.toNat_lt
  have hthird := third.toNat_lt
  have hleft : first.toNat / 4 * 4 + (first.toNat % 4 * 16 + second.toNat / 16) / 16 =
      first.toNat := by omega
  have hmiddle : (first.toNat % 4 * 16 + second.toNat / 16) % 16 * 16 +
      (second.toNat % 16 * 4 + third.toNat / 64) / 4 = second.toNat := by omega
  have hright : (second.toNat % 16 * 4 + third.toNat / 64) % 4 * 64 + third.toNat % 64 =
      third.toNat := by omega
  rw [bytesOfValues, hleft, hmiddle, hright]
  simp only [UInt8.ofNat_toNat]

/-- Values without spare bits that are joined to bytes are written as their own symbols. -/
theorem encode_joined_two {first second : Nat} (hfirst : first < 64) (hsecond : second < 64)
    (hspare : second % 16 = 0) :
    encode [.ofNat (first * 4 + second / 16)] = [first, second].map symbol := by
  have hleft : (first * 4 + second / 16) / 4 = first := by omega
  have hright : (first * 4 + second / 16) % 4 * 16 = second := by omega
  rw [encode, toNat_ofNat_of_lt (by omega), hleft, hright]
  rfl

theorem encode_joined_three {first second third : Nat} (hfirst : first < 64) (hsecond : second < 64)
    (hthird : third < 64) (hspare : third % 4 = 0) :
    encode [.ofNat (first * 4 + second / 16), .ofNat (second % 16 * 16 + third / 4)] =
      [first, second, third].map symbol := by
  have hleft : (first * 4 + second / 16) / 4 = first := by omega
  have hmiddle : (first * 4 + second / 16) % 4 * 16 + (second % 16 * 16 + third / 4) / 16 =
      second := by omega
  have hright : (second % 16 * 16 + third / 4) % 16 * 4 = third := by omega
  rw [encode, toNat_ofNat_of_lt (by omega), toNat_ofNat_of_lt (by omega), hleft, hmiddle, hright]
  rfl

theorem encode_joined_four {first second third fourth : Nat} (hfirst : first < 64)
    (hsecond : second < 64) (hthird : third < 64) (hfourth : fourth < 64) (others : Bytes) :
    encode (.ofNat (first * 4 + second / 16) :: .ofNat (second % 16 * 16 + third / 4) ::
      .ofNat (third % 4 * 64 + fourth) :: others) =
        [first, second, third, fourth].map symbol ++ encode others := by
  have hone : (first * 4 + second / 16) / 4 = first := by omega
  have htwo : (first * 4 + second / 16) % 4 * 16 + (second % 16 * 16 + third / 4) / 16 =
      second := by omega
  have hthree : (second % 16 * 16 + third / 4) % 16 * 4 + (third % 4 * 64 + fourth) / 64 =
      third := by omega
  have hfour : (third % 4 * 64 + fourth) % 64 = fourth := by omega
  rw [encode, toNat_ofNat_of_lt (by omega), toNat_ofNat_of_lt (by omega),
    toNat_ofNat_of_lt (by omega), hone, htwo, hthree, hfour]
  rfl

/-- A group that can be read is written back as the same symbols, and only a group of four can have
bytes behind it. -/
theorem encode_of_bytesOfValues {last : UInt8} {offset : Nat} {sixes : List Nat} {bytes : Bytes}
    (hsixes : ∀ six ∈ sixes, six < 64) (h : bytesOfValues last offset sixes = .ok bytes) :
    encode bytes = sixes.map symbol ∧ (sixes.length = 4 →
      ∀ others, encode (bytes ++ others) = sixes.map symbol ++ encode others) := by
  unfold bytesOfValues at h
  split at h
  · next first second =>
    split at h
    · next hspare =>
      rw [← Except.ok.inj h]
      refine ⟨encode_joined_two (hsixes _ (by simp)) (hsixes _ (by simp)) hspare, ?_⟩
      intro hlength
      cases hlength
    · cases h
  · next first second third =>
    split at h
    · next hspare =>
      rw [← Except.ok.inj h]
      refine ⟨encode_joined_three (hsixes _ (by simp)) (hsixes _ (by simp)) (hsixes _ (by simp))
        hspare, ?_⟩
      intro hlength
      cases hlength
    · cases h
  · next first second third fourth =>
    have hgroup := encode_joined_four (hsixes first (by simp)) (hsixes second (by simp))
      (hsixes third (by simp)) (hsixes fourth (by simp))
    rw [← Except.ok.inj h]
    refine ⟨?_, fun _ ↦ hgroup⟩
    have halone := hgroup []
    rwa [encode, List.append_nil] at halone
  · cases h

/-! ### Whole texts -/

/-- The values of the symbols of some bytes. -/
def sixes : Bytes → List Nat
  | [] => []
  | [first] => [first.toNat / 4, first.toNat % 4 * 16]
  | [first, second] =>
    [first.toNat / 4, first.toNat % 4 * 16 + second.toNat / 16, second.toNat % 16 * 4]
  | first :: second :: third :: rest =>
    first.toNat / 4 :: (first.toNat % 4 * 16 + second.toNat / 16) ::
      (second.toNat % 16 * 4 + third.toNat / 64) :: third.toNat % 64 :: sixes rest

theorem encode_eq_map_symbol (bytes : Bytes) : encode bytes = (sixes bytes).map symbol := by
  fun_induction sixes bytes with
  | case1 => rfl
  | case2 first => rfl
  | case3 first second => rfl
  | case4 first second third rest ih =>
    rw [encode, ih]
    rfl

theorem lt_of_mem_sixes {bytes : Bytes} : ∀ six ∈ sixes bytes, six < 64 := by
  have hbound : ∀ byte : UInt8, byte.toNat < 256 := UInt8.toNat_lt
  fun_induction sixes bytes with
  | case1 => exact fun _ hnone ↦ absurd hnone List.not_mem_nil
  | case2 first =>
    have hfirst := hbound first
    simp only [List.mem_cons, List.not_mem_nil, or_false]
    rintro six (rfl | rfl) <;> omega
  | case3 first second =>
    have hfirst := hbound first
    have hsecond := hbound second
    simp only [List.mem_cons, List.not_mem_nil, or_false]
    rintro six (rfl | rfl | rfl) <;> omega
  | case4 first second third rest ih =>
    have hfirst := hbound first
    have hsecond := hbound second
    have hthird := hbound third
    simp only [List.mem_cons]
    rintro six (rfl | rfl | rfl | rfl | hsix)
    · omega
    · omega
    · omega
    · omega
    · exact ih six hsix

/-- The written form consists of symbols. -/
theorem isSymbol_of_mem_encode {bytes : Bytes} {byte : UInt8} (hbyte : byte ∈ encode bytes) :
    IsSymbol byte := by
  rw [encode_eq_map_symbol] at hbyte
  obtain ⟨six, hsix, rfl⟩ := List.mem_map.mp hbyte
  exact isSymbol_symbol (lt_of_mem_sixes six hsix)

/-- Three bytes are written as four symbols, and a rest of one or two bytes as two or three. -/
theorem length_encode (bytes : Bytes) : (encode bytes).length = (bytes.length * 4 + 2) / 3 := by
  fun_induction encode bytes with
  | case1 => rfl
  | case2 first => simp
  | case3 first second => simp
  | case4 first second third rest ih =>
    simp only [List.length_cons, ih]
    omega

/-- The written form leaves no lone symbol behind the groups of four. -/
theorem length_encode_mod (bytes : Bytes) : (encode bytes).length % 4 ≠ 1 := by
  rw [length_encode]
  omega

theorem decodeLast_encode (offset : Nat) {bytes : Bytes} (hlength : 2 ≤ (sixes bytes).length) :
    decodeLast offset (encode bytes) =
      bytesOfValues ((encode bytes).getLastD pad) offset (sixes bytes) := by
  have hunpadded : ∀ byte ∈ encode bytes, decide (byte ≠ pad) = true := by
    intro byte hbyte
    rw [encode_eq_map_symbol] at hbyte
    obtain ⟨six, hsix, rfl⟩ := List.mem_map.mp hbyte
    exact decide_eq_true (symbol_ne_pad six (lt_of_mem_sixes six hsix))
  have htake := List.takeWhile_eq_self_iff.mpr hunpadded
  have hdrop := List.dropWhile_eq_nil_iff.mpr hunpadded
  have hvalues : values offset (encode bytes) = .ok (sixes bytes) := by
    rw [encode_eq_map_symbol]
    exact values_map_symbol offset lt_of_mem_sixes
  have hsymbols : (encode bytes).length = (sixes bytes).length := by
    rw [encode_eq_map_symbol, List.length_map]
  unfold decodeLast
  simp only [htake, hdrop, hvalues, hsymbols, bind, Except.bind, List.isEmpty_nil, Bool.not_true,
    Bool.false_and, Bool.false_eq_true, if_false]
  rw [if_neg (by omega)]

theorem decodeFrom_encode (offset : Nat) (bytes : Bytes) :
    decodeFrom offset (encode bytes) = .ok bytes := by
  fun_induction encode bytes generalizing offset with
  | case1 => rfl
  | case2 first =>
    exact (@decodeLast_encode offset [first] (Nat.le_refl 2)).trans (bytesOfValues_one _ _ _)
  | case3 first second =>
    exact (@decodeLast_encode offset [first, second] (Nat.le_succ 2)).trans
      (bytesOfValues_two _ _ _ _)
  | case4 first second third rest ih =>
    have hgroup := encode_eq_map_symbol [first, second, third]
    cases hothers : encode rest with
    | nil =>
      have hrest : rest = [] := by
        have hread := ih 0
        rw [hothers] at hread
        exact (Except.ok.inj hread).symm
      rw [hrest]
      exact (@decodeLast_encode offset [first, second, third] (Nat.le_add_left 2 2)).trans
        (bytesOfValues_three _ _ _ _ _)
    | cons fifth others =>
      have hvalues := values_map_symbol offset (@lt_of_mem_sixes [first, second, third])
      have hread := ih (offset + 4)
      rw [hothers] at hread
      simp only [sixes, List.map_cons, List.map_nil] at hvalues
      simp only [decodeFrom, hvalues, bytesOfValues_three, hread, bind, Except.bind]
      rfl

/-- Reading undoes writing. -/
theorem decode_encode (bytes : Bytes) : decode (encode bytes) = .ok bytes := by
  rw [decode, if_neg]
  · exact decodeFrom_encode 0 bytes
  · simp [length_encode_mod bytes]

theorem encode_injective {first second : Bytes} (h : encode first = encode second) :
    first = second := by
  have hread := decode_encode first
  rw [h, decode_encode] at hread
  exact (Except.ok.inj hread).symm

/-! ### One spelling -/

theorem encode_of_decodeLast {offset : Nat} {text bytes : Bytes}
    (h : decodeLast offset text = .ok bytes) : encode bytes = text := by
  unfold decodeLast at h
  dsimp only at h
  cases hvalues : values offset (text.takeWhile (· ≠ pad)) with
  | error fault =>
    rw [hvalues] at h
    cases h
  | ok found =>
    obtain ⟨hsmall, hwritten⟩ := map_symbol_of_values hvalues
    simp only [hvalues, bind, Except.bind] at h
    split at h
    · cases h
    split at h
    · cases h
    split at h
    · cases h
    · next hpadding =>
      have hdrop : text.dropWhile (· ≠ pad) = [] := by
        rw [Bool.not_eq_true', Bool.not_eq_false, List.isEmpty_iff] at hpadding
        exact hpadding
      have htake := List.takeWhile_append_dropWhile (p := (· ≠ pad)) (l := text)
      rw [hdrop, List.append_nil] at htake
      rw [(encode_of_bytesOfValues hsmall h).1, hwritten, htake]

theorem encode_of_decodeFrom {offset : Nat} {text bytes : Bytes}
    (h : decodeFrom offset text = .ok bytes) : encode bytes = text := by
  fun_induction decodeFrom offset text generalizing bytes with
  | case1 offset =>
    rw [← Except.ok.inj h]
    rfl
  | case2 offset first second third fourth fifth rest ih =>
    cases hvalues : values offset [first, second, third, fourth] with
    | error fault =>
      rw [hvalues] at h
      cases h
    | ok found =>
      obtain ⟨hsmall, hwritten⟩ := map_symbol_of_values hvalues
      have hlength : found.length = 4 := by
        rw [← List.length_map (f := symbol), hwritten]
        rfl
      cases hgroup : bytesOfValues fourth offset found with
      | error fault =>
        simp only [hvalues, hgroup, bind, Except.bind] at h
        cases h
      | ok group =>
        cases hothers : decodeFrom (offset + 4) (fifth :: rest) with
        | error fault =>
          simp only [hvalues, hgroup, hothers, bind, Except.bind] at h
          cases h
        | ok others =>
          simp only [hvalues, hgroup, hothers, bind, Except.bind, Except.ok.injEq] at h
          rw [← h, (encode_of_bytesOfValues hsmall hgroup).2 hlength, hwritten, ih hothers]
          rfl
  | case3 offset text hsome hlong => exact encode_of_decodeLast h

/-- A text that can be read is the written form of what it reads as. -/
theorem encode_of_decode {text bytes : Bytes} (h : decode text = .ok bytes) :
    encode bytes = text := by
  unfold decode at h
  dsimp only at h
  split at h
  · cases h
  · exact encode_of_decodeFrom h

end TokenService.Base64Url
