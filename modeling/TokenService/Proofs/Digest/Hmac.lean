import TokenService.Digest.Hmac
import TokenService.Proofs.Digest.Sha256

/-!
# Key blocks

Which secrets are the same key. A secret of up to 64 bytes stands in its key block as it is, with
zeros behind it, and a longer one is replaced by its digest (`IsKeyBlock`). A code depends on the
key block alone (`code_eq_of_isKeyBlock`), so zeros may be put behind a secret, and a digest in the
place of a long one. Of two secrets that fit a block nothing but zeros makes the same key
(`keyBlock_eq_iff`). The last section evaluates codes (`toList_code`).
-/

set_option autoImplicit false
set_option relaxedAutoImplicit false

namespace TokenService.Digest.Hmac

variable {secret other block : Bytes}

/-- What the key block of a secret is, depending on whether the secret fits a block. -/
inductive IsKeyBlock (secret : Bytes) : Bytes → Prop
  | short {zeros : Bytes} (hlength : secret.length ≤ 64) (hzeros : ∀ byte ∈ zeros, byte = 0)
      (htotal : (secret ++ zeros).length = 64) : IsKeyBlock secret (secret ++ zeros)
  | long (hlength : 64 < secret.length) :
      IsKeyBlock secret ((Sha256.digest secret).toList ++ List.replicate 32 0)

theorem keyBlock_of_le (hlength : secret.length ≤ 64) :
    keyBlock secret = secret ++ List.replicate (64 - secret.length) 0 := by
  rw [keyBlock, blockSize, if_neg (by omega)]

theorem keyBlock_of_lt (hlength : 64 < secret.length) :
    keyBlock secret = (Sha256.digest secret).toList ++ List.replicate 32 0 := by
  rw [keyBlock, blockSize, if_pos hlength, Vector.length_toList]

theorem isKeyBlock_iff : IsKeyBlock secret block ↔ keyBlock secret = block := by
  constructor
  · rintro (@⟨zeros, hlength, hzeros, htotal⟩ | hlength)
    · rw [List.length_append] at htotal
      have hrest : zeros = List.replicate (64 - secret.length) 0 :=
        List.eq_replicate_iff.mpr ⟨by omega, hzeros⟩
      rw [keyBlock_of_le hlength, hrest]
    · exact keyBlock_of_lt hlength
  · rintro rfl
    by_cases hlength : secret.length ≤ 64
    · rw [keyBlock_of_le hlength]
      refine .short hlength (fun byte ↦ List.eq_of_mem_replicate) ?_
      rw [List.length_append, List.length_replicate]
      omega
    · rw [Nat.not_le] at hlength
      rw [keyBlock_of_lt hlength]
      exact .long hlength

theorem code_eq_of_isKeyBlock (hsecret : IsKeyBlock secret block) (hother : IsKeyBlock other block)
    (message : Bytes) : code secret message = code other message := by
  rw [code, code, isKeyBlock_iff.mp hsecret, isKeyBlock_iff.mp hother]

/-! ### Interchangeable secrets -/

/-- Of two secrets that fit a block the longer one is the shorter one with zeros behind it, if they
are the same key. -/
theorem keyBlock_eq_iff (hshorter : secret.length ≤ other.length) (hlength : other.length ≤ 64) :
    keyBlock secret = keyBlock other ↔
      other = secret ++ List.replicate (other.length - secret.length) 0 := by
  have hzeros : List.replicate (64 - secret.length) (0 : UInt8) =
      List.replicate (other.length - secret.length) 0 ++ List.replicate (64 - other.length) 0 := by
    rw [List.replicate_append_replicate]
    congr 1
    omega
  rw [keyBlock_of_le (Nat.le_trans hshorter hlength), keyBlock_of_le hlength, hzeros,
    ← List.append_assoc, List.append_cancel_right_eq, eq_comm]

theorem IsKeyBlock.append_zeros (h : IsKeyBlock secret block) {zeros : Nat}
    (hlength : secret.length + zeros ≤ 64) :
    IsKeyBlock (secret ++ List.replicate zeros 0) block := by
  rw [isKeyBlock_iff] at h ⊢
  rw [← h, eq_comm, keyBlock_eq_iff (by simp) (by simpa using hlength), List.length_append,
    List.length_replicate, Nat.add_sub_cancel_left]

theorem IsKeyBlock.digest (h : IsKeyBlock secret block) (hlength : 64 < secret.length) :
    IsKeyBlock (Sha256.digest secret).toList block := by
  rw [isKeyBlock_iff] at h ⊢
  rw [← h, keyBlock_of_lt hlength, keyBlock_of_le, Vector.length_toList]
  rw [Vector.length_toList]
  decide

/-! ### Evaluation -/

/-- The bytes of a code under a key block. -/
def codeBytes (block message : Bytes) : Bytes :=
  Sha256.digestBytes (block.map (· ^^^ 0x5C) ++
    Sha256.digestBytes (block.map (· ^^^ 0x36) ++ message))

theorem toList_code (secret message : Bytes) :
    (code secret message).toList = codeBytes (keyBlock secret) message := by
  rw [code, codeOfBlock, codeBytes, Sha256.toList_digest, Sha256.toList_digest]

/-- A known answer of the standard. -/
example : (code (asciiBytes "Jefe") (asciiBytes "what do ya want for nothing?")).toList =
    [0x5B, 0xDC, 0xC1, 0x46, 0xBF, 0x60, 0x75, 0x4E, 0x6A, 0x04, 0x24, 0x26, 0x08, 0x95, 0x75, 0xC7,
      0x5A, 0x00, 0x3F, 0x08, 0x9D, 0x27, 0x39, 0x83, 0x9D, 0xEC, 0x58, 0xB9, 0x64, 0xEC, 0x38,
      0x43] := by
  rw [toList_code]
  decide +kernel

end TokenService.Digest.Hmac
