import TokenService.Json.Reading

/-!
# Blanks

A byte that is no blank stays where it is, and what is left behind the blanks begins with such a
byte or is empty.
-/

set_option autoImplicit false
set_option relaxedAutoImplicit false

namespace TokenService.Json

theorem skipBlanks_cons {byte : UInt8} (hbyte : isBlank byte = false) (rest : Bytes) :
    skipBlanks (byte :: rest) = byte :: rest := by
  rw [skipBlanks, List.dropWhile_cons_of_neg (by simp [hbyte])]

theorem isBlank_of_skipBlanks {bytes rest : Bytes} {byte : UInt8}
    (h : skipBlanks bytes = byte :: rest) : isBlank byte = false := by
  induction bytes with
  | nil => cases h
  | cons first others ih =>
    by_cases hfirst : isBlank first = true
    · rw [skipBlanks, List.dropWhile_cons_of_pos hfirst] at h
      exact ih h
    · rw [skipBlanks_cons (by simpa using hfirst), List.cons.injEq] at h
      rw [← h.1]
      simpa using hfirst

theorem skipBlanks_skipBlanks (bytes : Bytes) :
    skipBlanks (skipBlanks bytes) = skipBlanks bytes := by
  cases h : skipBlanks bytes with
  | nil => rfl
  | cons byte rest => exact skipBlanks_cons (isBlank_of_skipBlanks h) rest

end TokenService.Json
