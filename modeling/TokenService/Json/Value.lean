import TokenService.Json.Keep

/-!
# Values that are kept

A value whose kind is asked for only later is kept as a whole: a scalar, a list, or an object with
its members in their order. Strings must be texts, numbers must be in range, and lists and objects
may be nested only so deep. A level of nesting reads what its brackets hold with the reader of the
level below (`readValue`), and the innermost level has no brackets (`valueReader`).
-/

set_option autoImplicit false
set_option relaxedAutoImplicit false

namespace TokenService.Json

/-- How a diagnostic names a scalar. -/
def Scalar.found : Scalar → Found
  | .null => .null
  | .boolean value => .boolean value
  | .number amount => amount.found
  | .text content => .text content

/-- A value of any kind. -/
inductive Value
  | scalar (scalar : Scalar)
  | list (values : List Value)
  | object (members : List (String × Value))

/-- How a diagnostic names a value. -/
def Value.found : Value → Found
  | .scalar held => held.found
  | .list _ => .sequence
  | .object _ => .map

/-- The values of the members of some name, in order. -/
def valuesOf {α : Type} (name : String) (members : List (String × α)) : List α :=
  (members.filter (·.1 = name)).map Prod.snd

/-! ### Objects -/

/-- Reads the members of an object from behind its bracket. -/
def readEntries {α : Type} (value : Consumer α) (first : Bool) (bytes : Bytes) :
    Reading (List (String × α)) :=
  match _next : nextMember first bytes with
  | .error fault => .error fault
  | .ok (.last rest) => .ok ([], rest)
  | .ok (.key name afterKey) =>
    match _read : readMember value.read afterKey with
    | .error fault => .error fault
    | .ok (held, rest) =>
      match readEntries value false rest with
      | .error fault => .error fault
      | .ok (members, left) => .ok ((name, held) :: members, left)
termination_by bytes.length
decreasing_by
  have next := nextMember_key_length_lt _next
  have read := readMember_shrinks (Consumes.shrinks value.consumes) _read
  omega

theorem readEntries_consumes {α : Type} (value : Consumer α) (first : Bool) :
    Consumes (readEntries value first) := by
  intro bytes
  have member := @readMember_shrinks _ _ (Consumes.shrinks value.consumes)
  have last := @nextMember_last_length_lt
  have key := @nextMember_key_length_lt
  simp only [Shrinks] at member
  fun_induction readEntries value first bytes <;> grind

/-! ### Values -/

/-- Reads a value whose brackets hold what the inner reader reads, if they may hold anything. -/
def readValue (inner : Option (Consumer Value)) (bytes : Bytes) : Reading Value :=
  match skipBlanks bytes with
  | [] => .error (.before .endInValue [])
  | byte :: rest =>
    if byte = ascii '[' then
      match inner with
      | none => .error (.facing .nestedTooDeep (byte :: rest))
      | some inner =>
        match readEach inner true rest with
        | .error fault => .error fault
        | .ok (values, others) => .ok (.list values, others)
    else if byte = ascii '\x7b' then
      match inner with
      | none => .error (.facing .nestedTooDeep (byte :: rest))
      | some inner =>
        match readEntries inner true rest with
        | .error fault => .error fault
        | .ok (members, others) => .ok (.object members, others)
    else
      match readScalar (byte :: rest) with
      | .error fault => .error fault
      | .ok (scalar, others) => .ok (.scalar scalar, others)

theorem readValue_consumes (inner : Option (Consumer Value)) : Consumes (readValue inner) := by
  intro bytes value rest done
  have blanks := skipBlanks_length_le bytes
  have scalar := @readScalar_consumes
  have each := @readEach_consumes
  have entries := @readEntries_consumes
  simp only [Consumes] at scalar each entries
  unfold readValue at done
  grind

/-- The reader of values with at most so many lists and objects inside each other. -/
def valueReader : (depth : Nat) → Consumer Value
  | 0 => ⟨readValue none, readValue_consumes none⟩
  | depth + 1 => ⟨readValue (some (valueReader depth)), readValue_consumes _⟩

end TokenService.Json
