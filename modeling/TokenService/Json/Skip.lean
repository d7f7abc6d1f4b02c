import TokenService.Json.Walk

/-!
# Values that nobody wants

`skipValue` passes over any well-formed value, however deeply nested: the lists and objects still
open are kept in a list of frames, the innermost first. Strings need not be texts and numbers may be
of any size.
-/

set_option autoImplicit false
set_option relaxedAutoImplicit false

namespace TokenService.Json

/-- A list or an object that is still open. -/
inductive Frame
  | list
  | object
deriving DecidableEq, Repr

/-- Passes over a word, a number or a string. -/
def skipScalar : Bytes → Reading Unit
  | [] => .error (.facing .expectedValue [])
  | byte :: rest =>
    if byte = ascii 'n' then readLetters (asciiBytes "ull") rest
    else if byte = ascii 't' then readLetters (asciiBytes "rue") rest
    else if byte = ascii 'f' then readLetters (asciiBytes "alse") rest
    else if byte = ascii '-' then skipNumber rest
    else if isDigit byte then skipNumber (byte :: rest)
    else if byte = quoteMark then skipString rest
    else .error (.facing .expectedValue (byte :: rest))

/-- Passes over the key of a member and its colon. -/
def skipKey (bytes : Bytes) : Reading Unit :=
  match skipBlanks bytes with
  | [] => .error (.before .endInObject [])
  | byte :: rest =>
    if byte = quoteMark then
      match skipString rest with
      | .error fault => .error fault
      | .ok (_, others) => readColon others
    else .error (.facing .keyNotString (byte :: rest))

theorem skipScalar_consumes : Consumes skipScalar := by
  intro bytes value rest done
  have letters := @readLetters_shrinks
  have number := @skipNumber_consumes
  have string := @skipString_consumes
  simp only [Shrinks] at letters
  simp only [Consumes] at number string
  unfold skipScalar at done
  grind

theorem skipKey_consumes : Consumes skipKey := by
  intro bytes value rest done
  have blanks := skipBlanks_length_le bytes
  have string := @skipString_consumes
  have colon := @readColon_consumes
  simp only [Consumes] at string colon
  unfold skipKey at done
  grind

/-- What a reader inside nested values looks for next: a value, or what follows one. -/
inductive Stage
  | value
  | ending

/-- Passes over everything up to the end of the outermost of the given frames. -/
def skipWithin (stage : Stage) (frames : List Frame) (bytes : Bytes) : Reading Unit :=
  match stage, frames with
  | .value, _ =>
    match _start : skipBlanks bytes with
    | [] => .error (.before .endInValue [])
    | byte :: rest =>
      if byte = ascii '[' then
        match _inner : skipBlanks rest with
        | [] => .error (.before .endInList [])
        | other :: others =>
          if other = ascii ']' then skipWithin .ending frames others
          else skipWithin .value (.list :: frames) (other :: others)
      else if byte = ascii '\x7b' then
        match _inner : skipBlanks rest with
        | [] => .error (.before .endInObject [])
        | other :: others =>
          if other = ascii '\x7d' then skipWithin .ending frames others
          else
            match _key : skipKey (other :: others) with
            | .error fault => .error fault
            | .ok (_, left) => skipWithin .value (.object :: frames) left
      else
        match _scalar : skipScalar (byte :: rest) with
        | .error fault => .error fault
        | .ok (_, left) => skipWithin .ending frames left
  | .ending, [] => .ok ((), bytes)
  | .ending, .list :: outer =>
    match _start : skipBlanks bytes with
    | [] => .error (.before .endInList [])
    | byte :: rest =>
      if byte = ascii ',' then skipWithin .value (.list :: outer) rest
      else if byte = ascii ']' then skipWithin .ending outer rest
      else .error (.facing .expectedListEnd (byte :: rest))
  | .ending, .object :: outer =>
    match _start : skipBlanks bytes with
    | [] => .error (.before .endInObject [])
    | byte :: rest =>
      if byte = ascii ',' then
        match _key : skipKey rest with
        | .error fault => .error fault
        | .ok (_, left) => skipWithin .value (.object :: outer) left
      else if byte = ascii '\x7d' then skipWithin .ending outer rest
      else .error (.facing .expectedObjectEnd (byte :: rest))
termination_by bytes.length
decreasing_by
  all_goals
    have start := skipBlanks_length_le bytes
    try have inner := skipBlanks_length_le rest
    try have key := skipKey_consumes _key
    try have scalar := skipScalar_consumes _scalar
    simp_all only [List.length_cons]
    omega

theorem skipWithin_shrinks (stage : Stage) (frames : List Frame) :
    Shrinks (skipWithin stage frames) := by
  intro bytes
  have blanks := skipBlanks_length_le
  have key := @skipKey_consumes
  have scalar := @skipScalar_consumes
  simp only [Consumes] at key scalar
  fun_induction skipWithin stage frames bytes <;> grind

/-- Passes over a value. -/
def skipValue (bytes : Bytes) : Reading Unit :=
  skipWithin .value [] bytes

theorem skipValue_shrinks : Shrinks skipValue :=
  skipWithin_shrinks .value []

end TokenService.Json
