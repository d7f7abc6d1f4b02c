import TokenService.Digest.Sha256

/-!
# Digests word by word

The same digest over lists of words (`digestBytes`), in which every word of the state and of the
schedule has a name. Nothing has to be looked up in a vector then, so this form can be evaluated
where the other one takes long. Each stage has its counterpart, up to `toList_digest`.
-/

set_option autoImplicit false
set_option relaxedAutoImplicit false

namespace TokenService.Digest.Sha256

/-! ### Stages over lists -/

/-- Mixes the words of a schedule into those of a state, one round for each constant. -/
def mixWords : (constants state schedule : List UInt32) → List UInt32
  | constant :: constants, [a, b, c, d, e, f, g, h],
      [w0, w1, w2, w3, w4, w5, w6, w7, w8, w9, w10, w11, w12, w13, w14, w15] =>
    let first := h + bigSigma1 e + choose e f g + constant + w0
    let second := bigSigma0 a + majority a b c
    mixWords constants [first + second, a, b, c, d + first, e, f, g]
      [w1, w2, w3, w4, w5, w6, w7, w8, w9, w10, w11, w12, w13, w14, w15,
        smallSigma1 w14 + w9 + smallSigma0 w1 + w0]
  | _, state, _ => state

/-- Mixes the words of a block into those of a state. -/
def compressWords (state block : List UInt32) : List UInt32 :=
  List.zipWith (· + ·) state (mixWords roundConstants state block)

/-- The words of the first 64 bytes. -/
def blockWords (bytes : Bytes) : List UInt32 :=
  List.ofFn fun place : Fin 16 ↦ word (bytes.drop (4 * place.val))

/-- Mixes some blocks into the words of a state. -/
def absorbWords : Nat → List UInt32 → Bytes → List UInt32
  | 0, state, _ => state
  | blocks + 1, state, bytes =>
    absorbWords blocks (compressWords state (blockWords bytes)) (bytes.drop 64)

/-- The bytes of the words of a state. -/
def wordsBytes (state : List UInt32) : Bytes :=
  List.ofFn fun place : Fin 32 ↦
    (state.getD (place.val / 4) 0 >>> UInt32.ofNat (8 * (3 - place.val % 4))).toUInt8

/-- The bytes of the digest of a message. -/
def digestBytes (message : Bytes) : Bytes :=
  wordsBytes (absorbWords ((padded message).length / 64) initial.toList (padded message))

/-! ### One round -/

theorem toList_eq_ofFn {size : Nat} (words : Vector UInt32 size) :
    words.toList = List.ofFn words.get :=
  calc words.toList
    _ = (Vector.ofFn words.get).toList := congrArg Vector.toList Vector.ofFn_getElem.symm
    _ = List.ofFn words.get := Vector.toList_ofFn

theorem exists_eq_of_eight (words : Vector UInt32 8) :
    ∃ a b c d e f g h, words = #v[a, b, c, d, e, f, g, h] := by
  refine ⟨words[0], words[1], words[2], words[3], words[4], words[5], words[6], words[7], ?_⟩
  apply Vector.toList_inj.mp
  rw [toList_eq_ofFn]
  rfl

theorem exists_eq_of_sixteen (words : Vector UInt32 16) :
    ∃ w0 w1 w2 w3 w4 w5 w6 w7 w8 w9 w10 w11 w12 w13 w14 w15,
      words = #v[w0, w1, w2, w3, w4, w5, w6, w7, w8, w9, w10, w11, w12, w13, w14, w15] := by
  refine ⟨words[0], words[1], words[2], words[3], words[4], words[5], words[6], words[7],
    words[8], words[9], words[10], words[11], words[12], words[13], words[14], words[15], ?_⟩
  apply Vector.toList_inj.mp
  rw [toList_eq_ofFn]
  rfl

theorem toList_nextSchedule (w0 w1 w2 w3 w4 w5 w6 w7 w8 w9 w10 w11 w12 w13 w14 w15 : UInt32) :
    (nextSchedule
      #v[w0, w1, w2, w3, w4, w5, w6, w7, w8, w9, w10, w11, w12, w13, w14, w15]).toList =
      [w1, w2, w3, w4, w5, w6, w7, w8, w9, w10, w11, w12, w13, w14, w15,
        smallSigma1 w14 + w9 + smallSigma0 w1 + w0] := by
  rw [nextSchedule, Vector.toList_ofFn]
  rfl

/-! ### Blocks -/

theorem toList_foldl_mix (constants : List UInt32) (mixing : Mixing) :
    (constants.foldl mix mixing).state.toList =
      mixWords constants mixing.state.toList mixing.schedule.toList := by
  induction constants generalizing mixing with
  | nil => rfl
  | cons constant constants ih =>
    obtain ⟨state, schedule⟩ := mixing
    obtain ⟨a, b, c, d, e, f, g, h, rfl⟩ := exists_eq_of_eight state
    obtain ⟨w0, w1, w2, w3, w4, w5, w6, w7, w8, w9, w10, w11, w12, w13, w14, w15, rfl⟩ :=
      exists_eq_of_sixteen schedule
    rw [List.foldl_cons, ih, mix, toList_nextSchedule]
    rfl

theorem toList_compress (state : Vector UInt32 8) (block : Vector UInt32 16) :
    (compress state block).toList = compressWords state.toList block.toList := by
  rw [compress, compressWords, Vector.toList_zipWith, toList_foldl_mix]

theorem toList_block (bytes : Bytes) : (block bytes).toList = blockWords bytes := by
  rw [block, blockWords, Vector.toList_ofFn]

theorem toList_absorb (state : Vector UInt32 8) (bytes : Bytes) :
    (absorb state bytes).toList = absorbWords (bytes.length / 64) state.toList bytes := by
  fun_induction absorb state bytes with
  | case1 state bytes hlength => rw [Nat.div_eq_of_lt hlength, absorbWords]
  | case2 state bytes hlength ih =>
    have hblocks : bytes.length / 64 = (bytes.drop 64).length / 64 + 1 := by
      rw [List.length_drop]
      omega
    rw [ih, hblocks, absorbWords, toList_compress, toList_block]

/-! ### Digests -/

theorem toList_stateBytes (state : Vector UInt32 8) :
    (stateBytes state).toList = wordsBytes state.toList := by
  rw [stateBytes, wordsBytes, Vector.toList_ofFn]
  refine congrArg List.ofFn (funext fun place ↦ ?_)
  have hplace : place.val / 4 < state.toList.length := by
    rw [Vector.length_toList]
    omega
  rw [List.getD, List.getElem?_eq_getElem hplace, Option.getD_some, Vector.getElem_toList]

theorem toList_digest (message : Bytes) : (digest message).toList = digestBytes message := by
  rw [digest, digestBytes, toList_stateBytes, toList_absorb]

end TokenService.Digest.Sha256
