import TokenService.Json.Fault

/-!
# Reading bytes in order

A reader takes bytes from the front and gives a value with the bytes left, or a fault. `Shrinks` and
`Consumes` say of a reader that what it leaves is no longer, or is shorter, than what it was given;
`FaultsWithin` says so of what its faults leave. Blanks between the parts of a JSON text are space,
tab, line feed and carriage return.
-/

set_option autoImplicit false
set_option relaxedAutoImplicit false

namespace TokenService.Json

/-- A value and the bytes left, or a fault. -/
abbrev Reading (α : Type) := Except Fault (α × Bytes)

/-- A reader that leaves no more than it was given. -/
def Shrinks {α : Type} (read : Bytes → Reading α) : Prop :=
  ∀ {bytes : Bytes} {value : α} {rest : Bytes},
    read bytes = .ok (value, rest) → rest.length ≤ bytes.length

/-- A reader that leaves less than it was given. -/
def Consumes {α : Type} (read : Bytes → Reading α) : Prop :=
  ∀ {bytes : Bytes} {value : α} {rest : Bytes},
    read bytes = .ok (value, rest) → rest.length < bytes.length

/-- A reader whose faults leave no more unread than it was given. -/
def FaultsWithin {α : Type} (read : Bytes → Reading α) : Prop :=
  ∀ {bytes : Bytes} {fault : Fault},
    read bytes = .error fault → fault.unread.length ≤ bytes.length

theorem Consumes.shrinks {α : Type} {read : Bytes → Reading α} (consumes : Consumes read) :
    Shrinks read :=
  fun done ↦ Nat.le_of_lt (consumes done)

/-- A reader that can be used again and again, since it leaves less each time. -/
structure Consumer (α : Type) where
  read : Bytes → Reading α
  consumes : Consumes read

/-! ### Blanks -/

/-- A byte that may stand between the parts of a text. -/
def isBlank (byte : UInt8) : Bool :=
  byte = ascii ' ' || byte = ascii '\n' || byte = ascii '\t' || byte = ascii '\r'

/-- The bytes from the first that is not blank. -/
def skipBlanks (bytes : Bytes) : Bytes :=
  bytes.dropWhile isBlank

theorem skipBlanks_length_le (bytes : Bytes) : (skipBlanks bytes).length ≤ bytes.length :=
  (List.dropWhile_suffix isBlank).length_le

/-! ### Words -/

/-- Reads the given letters. -/
def readLetters : (letters : List UInt8) → Bytes → Reading Unit
  | [], bytes => .ok ((), bytes)
  | _ :: _, [] => .error (.before .endInValue [])
  | letter :: letters, byte :: rest =>
    if byte = letter then readLetters letters rest
    else .error (.before .expectedIdentifier rest)

theorem readLetters_shrinks (letters : List UInt8) : Shrinks (readLetters letters) := by
  intro bytes value rest done
  induction letters generalizing bytes with
  | nil =>
    simp only [readLetters, Except.ok.injEq, Prod.mk.injEq] at done
    simp [done.2]
  | cons letter letters ih =>
    cases bytes with
    | nil => simp [readLetters] at done
    | cons byte others =>
      simp only [readLetters] at done
      split at done
      · exact Nat.le_succ_of_le (ih done)
      · simp at done

theorem readLetters_faultsWithin (letters : List UInt8) : FaultsWithin (readLetters letters) := by
  intro bytes
  fun_induction readLetters letters bytes <;> grind [Fault.before]

end TokenService.Json
