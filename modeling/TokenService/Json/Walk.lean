import TokenService.Json.Number
import TokenService.Json.Text

/-!
# Values of a wanted kind

The readers of this module know what they want: a string, an integer, a list of strings, the next
member of an object. A value of another kind is a fault that names what was found (`misfit`), and so
the fault that a text gets is the first in reading order, whether it is one of shape or of kind.

Lists and objects are walked step by step with `nextElement` and `nextMember`. A reader that gives
one up halfway still takes its closing bracket if that comes next (`afterList`, `afterObject`).
-/

set_option autoImplicit false
set_option relaxedAutoImplicit false

namespace TokenService.Json

/-! ### Values of the wrong kind -/

/-- The fault of a word where something else was wanted. -/
def misfitWord (letters : String) (found : Found) (wanted : String) (bytes : Bytes) : Fault :=
  match readLetters (asciiBytes letters) bytes with
  | .error fault => fault
  | .ok (_, rest) => .before (.wrongType found wanted) rest

/-- The fault of a number where something else was wanted. -/
def misfitNumber (negative : Bool) (wanted : String) (bytes : Bytes) : Fault :=
  match readNumber negative bytes with
  | .error fault => fault
  | .ok (number, rest) => .before (.wrongType number.found wanted) rest

/-- The fault of a string where something else was wanted. -/
def misfitText (wanted : String) (bytes : Bytes) : Fault :=
  match readString bytes with
  | .error fault => fault
  | .ok (text, rest) => .before (.wrongType (.text text) wanted) rest

/-- The fault of a value where something else was wanted. A scalar is read to its end, a list or an
object is named from its bracket. -/
def misfit (wanted : String) : Bytes → Fault
  | [] => .facing .expectedValue []
  | byte :: rest =>
    if byte = ascii 'n' then misfitWord "ull" .null wanted rest
    else if byte = ascii 't' then misfitWord "rue" (.boolean true) wanted rest
    else if byte = ascii 'f' then misfitWord "alse" (.boolean false) wanted rest
    else if byte = ascii '-' then misfitNumber true wanted rest
    else if isDigit byte then misfitNumber false wanted (byte :: rest)
    else if byte = quoteMark then misfitText wanted rest
    else if byte = ascii '[' then .before (.wrongType .sequence wanted) (byte :: rest)
    else if byte = ascii '\x7b' then .before (.wrongType .map wanted) (byte :: rest)
    else .facing .expectedValue (byte :: rest)

/-! ### Scalars -/

/-- Reads a string. -/
def readText (bytes : Bytes) : Reading String :=
  match skipBlanks bytes with
  | [] => .error (.before .endInValue [])
  | byte :: rest =>
    if byte = quoteMark then readString rest else .error (misfit "a string" (byte :: rest))

/-- The name of an integer of 64 bits with a sign. -/
def integerName : String := "i64"

/-- The integer of a number that is one, within 64 bits with a sign. -/
def integerOf (number : Number) (rest : Bytes) : Reading Int :=
  match number with
  | .natural value =>
    if Decimal.Integer.Fits value then .ok (value, rest)
    else .error (.before (.integerOutOfRange value) rest)
  | .negative value => .ok (-value, rest)
  | .real .. => .error (.before (.wrongType number.found integerName) rest)

/-- Reads an integer. -/
def readInteger (bytes : Bytes) : Reading Int :=
  match skipBlanks bytes with
  | [] => .error (.before .endInValue [])
  | byte :: rest =>
    if byte = ascii '-' || isDigit byte then
      match readNumber (byte = ascii '-') (if byte = ascii '-' then rest else byte :: rest) with
      | .error fault => .error fault
      | .ok (number, others) => integerOf number others
    else .error (misfit integerName (byte :: rest))

theorem readText_consumes : Consumes readText := by
  intro bytes value rest done
  have string := @readString_consumes
  have blanks := skipBlanks_length_le bytes
  simp only [Consumes] at string
  unfold readText at done
  grind

theorem misfit_unread_length_le (wanted : String) (bytes : Bytes) :
    (misfit wanted bytes).unread.length ≤ bytes.length := by
  have letters := @readLetters_shrinks
  have lettersFault := @readLetters_faultsWithin
  have number := @readNumber_consumes
  have numberFault := @readNumber_faultsWithin
  have string := @readString_consumes
  have stringFault := @readString_faultsWithin
  simp only [Shrinks] at letters
  simp only [Consumes] at number string
  simp only [FaultsWithin] at lettersFault numberFault stringFault
  unfold misfit misfitWord misfitNumber misfitText
  grind [Fault.before, Fault.facing]

theorem readText_faultsWithin : FaultsWithin readText := by
  intro bytes fault failed
  have string := @readString_faultsWithin
  have other := misfit_unread_length_le
  have blanks := skipBlanks_length_le bytes
  simp only [FaultsWithin] at string
  unfold readText at failed
  grind [Fault.before]

theorem integerOf_shrinks (number : Number) : Shrinks (integerOf number) := by
  intro bytes value rest done
  unfold integerOf at done
  grind

theorem readInteger_consumes : Consumes readInteger := by
  intro bytes value rest done
  have number := @readNumber_consumes
  have integer := @integerOf_shrinks
  have blanks := skipBlanks_length_le bytes
  simp only [Consumes] at number
  simp only [Shrinks] at integer
  unfold readInteger at done
  grind

/-- Reads `null` or a value. -/
def readOptional {α : Type} (read : Bytes → Reading α) (bytes : Bytes) : Reading (Option α) :=
  if (skipBlanks bytes).head? = some (ascii 'n') then
    match readLetters (asciiBytes "ull") (skipBlanks bytes).tail with
    | .error fault => .error fault
    | .ok (_, rest) => .ok (none, rest)
  else
    match read bytes with
    | .error fault => .error fault
    | .ok (value, rest) => .ok (some value, rest)

theorem readOptional_shrinks {α : Type} {read : Bytes → Reading α} (shrinks : Shrinks read) :
    Shrinks (readOptional read) := by
  intro bytes value rest done
  have letters := @readLetters_shrinks
  have blanks := skipBlanks_length_le bytes
  have shorter : (skipBlanks bytes).tail.length ≤ (skipBlanks bytes).length := by simp
  simp only [Shrinks] at letters shrinks
  unfold readOptional at done
  grind

theorem readOptional_faultsWithin {α : Type} {read : Bytes → Reading α}
    (within : FaultsWithin read) : FaultsWithin (readOptional read) := by
  intro bytes fault failed
  have letters := @readLetters_faultsWithin
  have blanks := skipBlanks_length_le bytes
  have shorter : (skipBlanks bytes).tail.length ≤ (skipBlanks bytes).length := by simp
  simp only [FaultsWithin] at letters within
  unfold readOptional at failed
  grind

/-! ### Lists -/

/-- The end of a list, or the bytes from its next element. -/
inductive Element
  | last (rest : Bytes)
  | more (bytes : Bytes)

/-- Goes to the next element of a list. -/
def nextElement (first : Bool) (bytes : Bytes) : Except Fault Element :=
  match skipBlanks bytes with
  | [] => .error (.before .endInList [])
  | byte :: rest =>
    if byte = ascii ']' then .ok (.last rest)
    else if first then .ok (.more (byte :: rest))
    else if byte = ascii ',' then
      match skipBlanks rest with
      | [] => .error (.before .endInValue [])
      | other :: others =>
        if other = ascii ']' then .error (.facing .trailingComma (other :: others))
        else .ok (.more (other :: others))
    else .error (.facing .expectedListEnd (byte :: rest))

theorem nextElement_last_length_lt {first : Bool} {bytes rest : Bytes}
    (done : nextElement first bytes = .ok (.last rest)) : rest.length < bytes.length := by
  have blanks := skipBlanks_length_le bytes
  unfold nextElement at done
  grind

theorem nextElement_more_length_le {first : Bool} {bytes rest : Bytes}
    (done : nextElement first bytes = .ok (.more rest)) : rest.length ≤ bytes.length := by
  have blanks := skipBlanks_length_le
  unfold nextElement at done
  grind

theorem nextElement_unread_length_le {first : Bool} {bytes : Bytes} {fault : Fault}
    (failed : nextElement first bytes = .error fault) : fault.unread.length ≤ bytes.length := by
  have blanks := skipBlanks_length_le
  unfold nextElement at failed
  grind [Fault.before, Fault.facing]

/-- Reads the elements of a list from behind its bracket. -/
def readEach {α : Type} (element : Consumer α) (first : Bool) (bytes : Bytes) :
    Reading (List α) :=
  match _next : nextElement first bytes with
  | .error fault => .error fault
  | .ok (.last rest) => .ok ([], rest)
  | .ok (.more more) =>
    match _read : element.read more with
    | .error fault => .error fault
    | .ok (value, rest) =>
      match readEach element false rest with
      | .error fault => .error fault
      | .ok (values, left) => .ok (value :: values, left)
termination_by bytes.length
decreasing_by
  have next := nextElement_more_length_le _next
  have read := element.consumes _read
  omega

theorem readEach_consumes {α : Type} (element : Consumer α) (first : Bool) :
    Consumes (readEach element first) := by
  intro bytes
  have each := @element.consumes
  simp only [Consumes] at each
  have last := @nextElement_last_length_lt
  have more := @nextElement_more_length_le
  fun_induction readEach element first bytes <;> grind

/-- Reads a list of elements of one kind. -/
def readList {α : Type} (element : Consumer α) (bytes : Bytes) : Reading (List α) :=
  match skipBlanks bytes with
  | [] => .error (.before .endInValue [])
  | byte :: rest =>
    if byte = ascii '[' then readEach element true rest
    else .error (misfit "a sequence" (byte :: rest))

theorem readList_consumes {α : Type} (element : Consumer α) : Consumes (readList element) := by
  intro bytes value rest done
  have each := @readEach_consumes
  have blanks := skipBlanks_length_le bytes
  simp only [Consumes] at each
  unfold readList at done
  grind

/-- Reads a list of strings. -/
def readTextList : Bytes → Reading (List String) :=
  readList ⟨readText, readText_consumes⟩

theorem readTextList_consumes : Consumes readTextList :=
  readList_consumes _

/-- Reads the end of a list that has no place for more elements. -/
def readListEnd (bytes : Bytes) : Reading Unit :=
  match skipBlanks bytes with
  | [] => .error (.before .endInList [])
  | byte :: rest =>
    if byte = ascii ']' then .ok ((), rest)
    else if byte = ascii ',' then
      let others := skipBlanks rest
      .error (.facing (if others.head? = some (ascii ']') then .trailingComma
        else .trailingCharacters) others)
    else .error (.facing .trailingCharacters (byte :: rest))

/-- The bytes left when a list is given up: its end is taken if it comes next, and so is a comma. -/
def afterList (bytes : Bytes) : Bytes :=
  match skipBlanks bytes with
  | [] => []
  | byte :: rest =>
    if byte = ascii ']' then rest
    else if byte = ascii ',' then skipBlanks rest
    else byte :: rest

/-! ### Objects -/

/-- The end of an object, or its next key and the bytes behind it. -/
inductive Member
  | last (rest : Bytes)
  | key (name : String) (rest : Bytes)

/-- Reads the key of a member. -/
def readKey : Bytes → Except Fault Member
  | [] => .error (.before .endInValue [])
  | byte :: rest =>
    if byte = quoteMark then
      match readString rest with
      | .error fault => .error fault
      | .ok (name, others) => .ok (.key name others)
    else if byte = ascii '\x7d' then .error (.facing .trailingComma (byte :: rest))
    else .error (.facing .keyNotString (byte :: rest))

/-- Goes to the next member of an object. -/
def nextMember (first : Bool) (bytes : Bytes) : Except Fault Member :=
  match skipBlanks bytes with
  | [] => .error (.before .endInObject [])
  | byte :: rest =>
    if byte = ascii '\x7d' then .ok (.last rest)
    else if first then readKey (byte :: rest)
    else if byte = ascii ',' then readKey (skipBlanks rest)
    else .error (.facing .expectedObjectEnd (byte :: rest))

/-- Reads the colon behind a key. -/
def readColon (bytes : Bytes) : Reading Unit :=
  match skipBlanks bytes with
  | [] => .error (.before .endInObject [])
  | byte :: rest =>
    if byte = ascii ':' then .ok ((), rest)
    else .error (.facing .expectedColon (byte :: rest))

/-- The bytes left when an object is given up: its end is taken if it comes next. -/
def afterObject (bytes : Bytes) : Bytes :=
  match skipBlanks bytes with
  | [] => []
  | byte :: rest => if byte = ascii '\x7d' then rest else byte :: rest

theorem afterList_length_le (bytes : Bytes) : (afterList bytes).length ≤ bytes.length := by
  have blanks := skipBlanks_length_le
  unfold afterList
  grind

theorem afterObject_length_le (bytes : Bytes) : (afterObject bytes).length ≤ bytes.length := by
  have blanks := skipBlanks_length_le
  unfold afterObject
  grind

theorem nextMember_last_length_lt {first : Bool} {bytes rest : Bytes}
    (done : nextMember first bytes = .ok (.last rest)) : rest.length < bytes.length := by
  have blanks := skipBlanks_length_le bytes
  unfold nextMember readKey at done
  grind

theorem nextMember_key_length_lt {first : Bool} {bytes rest : Bytes} {name : String}
    (done : nextMember first bytes = .ok (.key name rest)) : rest.length < bytes.length := by
  have blanks := skipBlanks_length_le
  have string := @readString_consumes
  simp only [Consumes] at string
  unfold nextMember readKey at done
  grind

theorem readColon_consumes : Consumes readColon := by
  intro bytes value rest done
  have blanks := skipBlanks_length_le bytes
  unfold readColon at done
  grind

theorem nextMember_unread_length_le {first : Bool} {bytes : Bytes} {fault : Fault}
    (failed : nextMember first bytes = .error fault) : fault.unread.length ≤ bytes.length := by
  have blanks := skipBlanks_length_le
  have string := @readString_faultsWithin
  simp only [FaultsWithin] at string
  unfold nextMember readKey at failed
  grind [Fault.before, Fault.facing]

theorem readColon_faultsWithin : FaultsWithin readColon := by
  intro bytes fault failed
  have blanks := skipBlanks_length_le bytes
  unfold readColon at failed
  grind [Fault.before, Fault.facing]

/-- Reads the colon and the value of a member. -/
def readMember {α : Type} (read : Bytes → Reading α) (bytes : Bytes) : Reading α :=
  match readColon bytes with
  | .error fault => .error fault
  | .ok (_, rest) => read rest

theorem readMember_shrinks {α : Type} {read : Bytes → Reading α} (shrinks : Shrinks read) :
    Shrinks (readMember read) := by
  intro bytes value rest done
  have colon := @readColon_consumes
  simp only [Consumes] at colon
  simp only [Shrinks] at shrinks
  unfold readMember at done
  grind

/-! ### Whole texts -/

/-- Reads a text that holds one value and nothing behind it. -/
def readWhole {α : Type} (read : Bytes → Reading α) (text : Bytes) : Except Fault α :=
  match read text with
  | .error fault => .error fault
  | .ok (value, rest) =>
    match skipBlanks rest with
    | [] => .ok value
    | byte :: others => .error (.facing .trailingCharacters (byte :: others))

end TokenService.Json
