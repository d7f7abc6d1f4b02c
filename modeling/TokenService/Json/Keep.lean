import TokenService.Json.Skip

/-!
# Values that would have been kept

A member whose value is wanted only if it has the right shape is read to its end whatever its shape
is, and as strictly as if it were kept: strings must be texts, numbers must be in range, and lists
and objects may be nested `nestingLimit` deep. `passKept` gives the bytes behind the value. Where
the value breaks one of these rules it is given up, and with it, one after another, the lists and
objects around the offence.
-/

set_option autoImplicit false
set_option relaxedAutoImplicit false

namespace TokenService.Json

/-- The number of lists and objects that may be open inside one value. -/
def nestingLimit : Nat := 126

/-- A word, a number or a string. -/
inductive Scalar
  | null
  | boolean (value : Bool)
  | number (number : Number)
  | text (text : String)
deriving DecidableEq, Repr

/-- Reads a word, a number or a string. -/
def readScalar : Bytes → Reading Scalar
  | [] => .error (.facing .expectedValue [])
  | byte :: rest =>
    if byte = ascii 'n' then readWord "ull" .null rest
    else if byte = ascii 't' then readWord "rue" (.boolean true) rest
    else if byte = ascii 'f' then readWord "alse" (.boolean false) rest
    else if byte = ascii '-' then readAmount true rest
    else if isDigit byte then readAmount false (byte :: rest)
    else if byte = quoteMark then
      match readString rest with
      | .error fault => .error fault
      | .ok (text, others) => .ok (.text text, others)
    else .error (.facing .expectedValue (byte :: rest))
where
  readWord (letters : String) (word : Scalar) (bytes : Bytes) : Reading Scalar :=
    match readLetters (asciiBytes letters) bytes with
    | .error fault => .error fault
    | .ok (_, rest) => .ok (word, rest)
  readAmount (negative : Bool) (bytes : Bytes) : Reading Scalar :=
    match readNumber negative bytes with
    | .error fault => .error fault
    | .ok (number, rest) => .ok (.number number, rest)

theorem readScalar_consumes : Consumes readScalar := by
  intro bytes value rest done
  have letters := @readLetters_shrinks
  have number := @readNumber_consumes
  have string := @readString_consumes
  simp only [Shrinks] at letters
  simp only [Consumes] at number string
  unfold readScalar at done
  grind [readScalar.readWord, readScalar.readAmount]

theorem readScalar_faultsWithin : FaultsWithin readScalar := by
  intro bytes fault failed
  have letters := @readLetters_faultsWithin
  have number := @readNumber_faultsWithin
  have string := @readString_faultsWithin
  simp only [FaultsWithin] at letters number string
  unfold readScalar at failed
  grind [readScalar.readWord, readScalar.readAmount, Fault.facing]

/-- The bytes left when a value is given up inside some frames, the innermost first. -/
def giveUp : List Frame → Bytes → Bytes
  | [], bytes => bytes
  | .list :: outer, bytes => giveUp outer (afterList bytes)
  | .object :: outer, bytes => giveUp outer (afterObject bytes)

theorem giveUp_length_le (frames : List Frame) (bytes : Bytes) :
    (giveUp frames bytes).length ≤ bytes.length := by
  have list := afterList_length_le
  have object := afterObject_length_le
  fun_induction giveUp frames bytes <;> grind

/-- What comes next in the innermost frame: a value, or an element or member with the comma before
it, which the first does not have. -/
inductive Turn
  | value
  | next (first : Bool)

/-- How far a turn is from taking a byte. -/
def Turn.delay : Turn → Nat
  | .value => 0
  | .next _ => 1

/-- The bytes behind everything up to the end of the outermost of the given frames. -/
def passWithin (turn : Turn) (frames : List Frame) (bytes : Bytes) : Bytes :=
  match turn, frames with
  | .value, _ =>
    match _start : skipBlanks bytes with
    | [] => giveUp frames []
    | byte :: rest =>
      if byte = ascii '[' ∨ byte = ascii '\x7b' then
        if frames.length < nestingLimit then
          passWithin (.next true) ((if byte = ascii '[' then .list else .object) :: frames) rest
        else giveUp frames (byte :: rest)
      else
        match _scalar : readScalar (byte :: rest) with
        | .error fault => giveUp frames fault.unread
        | .ok (_, left) => passWithin (.next false) frames left
  | .next _, [] => bytes
  | .next first, .list :: outer =>
    match _next : nextElement first bytes with
    | .error fault => giveUp (.list :: outer) fault.unread
    | .ok (.last rest) => passWithin (.next false) outer rest
    | .ok (.more more) => passWithin .value (.list :: outer) more
  | .next first, .object :: outer =>
    match _next : nextMember first bytes with
    | .error fault => giveUp (.object :: outer) fault.unread
    | .ok (.last rest) => passWithin (.next false) outer rest
    | .ok (.key _ rest) =>
      match _colon : readColon rest with
      | .error fault => giveUp (.object :: outer) fault.unread
      | .ok (_, left) => passWithin .value (.object :: outer) left
termination_by 2 * bytes.length + turn.delay
decreasing_by
  all_goals
    have start := skipBlanks_length_le bytes
    try have scalar := readScalar_consumes _scalar
    try have last := nextElement_last_length_lt _next
    try have more := nextElement_more_length_le _next
    try have member := nextMember_last_length_lt _next
    try have key := nextMember_key_length_lt _next
    try have colon := readColon_consumes _colon
    simp_all only [List.length_cons, Turn.delay]
    omega

theorem passWithin_length_le (turn : Turn) (frames : List Frame) (bytes : Bytes) :
    (passWithin turn frames bytes).length ≤ bytes.length := by
  have blanks := skipBlanks_length_le
  have given := giveUp_length_le
  have scalar := @readScalar_consumes
  have scalarFault := @readScalar_faultsWithin
  have last := @nextElement_last_length_lt
  have more := @nextElement_more_length_le
  have nextFault := @nextElement_unread_length_le
  have member := @nextMember_last_length_lt
  have key := @nextMember_key_length_lt
  have keyFault := @nextMember_unread_length_le
  have colon := @readColon_consumes
  have colonFault := @readColon_faultsWithin
  simp only [Consumes] at scalar colon
  simp only [FaultsWithin] at scalarFault colonFault
  fun_induction passWithin turn frames bytes <;> grind

/-- The bytes behind a value that would have been kept. -/
def passKept (bytes : Bytes) : Bytes :=
  passWithin .value [] bytes

theorem passKept_length_le (bytes : Bytes) : (passKept bytes).length ≤ bytes.length :=
  passWithin_length_le .value [] bytes

end TokenService.Json
