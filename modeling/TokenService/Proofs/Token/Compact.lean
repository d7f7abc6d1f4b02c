import TokenService.Proofs.Token.Segments

/-!
# The form of a token

A token is a text of three segments of letters, digits, `-` and `_`, with dots between them
(`IsCompact`). No phrase of several words has this form (`not_isCompact_of_space_mem`), and neither
has the empty text.
-/

set_option autoImplicit false
set_option relaxedAutoImplicit false

namespace TokenService.Token

open Text.Utf8

/-- The form of a token: segments in the alphabet, with dots between them. -/
def IsCompact (text : String) : Prop :=
  ∃ segments : Segments, encode text = segments.toBytes ∧ segments.InAlphabet

/-- The text of segments in the alphabet has this form. -/
theorem isCompact_asciiText {segments : Segments} (halphabet : segments.InAlphabet) :
    IsCompact (asciiText segments.toBytes) :=
  ⟨segments, encode_asciiText (Segments.toNat_lt_of_mem_toBytes halphabet), halphabet⟩

theorem not_isCompact_empty : ¬IsCompact "" := by
  rintro ⟨segments, hbytes, -⟩
  have hdot : dot ∈ segments.toBytes :=
    List.mem_append_right _ List.mem_cons_self
  rw [← hbytes] at hdot
  exact absurd hdot List.not_mem_nil

/-! ### Blanks -/

section Append

variable {character : Char} {front back : String}

theorem mem_toList_append_left (h : character ∈ front.toList) :
    character ∈ (front ++ back).toList := by
  rw [String.toList_append]
  exact List.mem_append_left _ h

theorem mem_toList_append_right (h : character ∈ back.toList) :
    character ∈ (front ++ back).toList := by
  rw [String.toList_append]
  exact List.mem_append_right _ h

end Append

theorem ascii_mem_encode {character : Char} {text : String} (hascii : character.toNat < 0x80)
    (h : character ∈ text.toList) : ascii character ∈ encode text := by
  rw [encode, List.mem_flatMap]
  refine ⟨character, h, ?_⟩
  rw [encodeChar_of_lt hascii]
  exact List.mem_singleton_self _

/-- There is no blank in a token. -/
theorem not_isCompact_of_space_mem {text : String} (h : ' ' ∈ text.toList) : ¬IsCompact text := by
  rintro ⟨segments, hbytes, halphabet⟩
  have hspace := ascii_mem_encode (by decide) h
  have hsymbol : ¬Base64Url.IsSymbol (ascii ' ') := by
    rw [Base64Url.isSymbol_ascii_iff (by decide)]
    decide
  have hdot : ascii ' ' ≠ dot := by decide
  rw [hbytes, Segments.toBytes, Segments.message] at hspace
  simp only [List.mem_append, List.mem_cons] at hspace
  rcases hspace with (hheader | hfirst | hpayload) | hlast | hsignature
  · exact hsymbol (halphabet _ (Or.inl hheader))
  · exact hdot hfirst
  · exact hsymbol (halphabet _ (Or.inr (Or.inl hpayload)))
  · exact hdot hlast
  · exact hsymbol (halphabet _ (Or.inr (Or.inr hsignature)))

end TokenService.Token
