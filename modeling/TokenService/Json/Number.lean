import TokenService.Json.Reading

/-!
# Numbers in JSON texts

`readNumber` reads a number from behind its sign. Digits without a fraction or an exponent are an
integer as long as it fits 64 bits, with a sign if there is one; every other number is a magnitude
with a sign, minus zero among them. Digits that no longer fit 64 bits only count as places, so the
value of a magnitude rests on the first nineteen or twenty digits. A magnitude above the greatest
one is a fault. `skipNumber` passes over a number of any size.
-/

set_option autoImplicit false
set_option relaxedAutoImplicit false

namespace TokenService.Json

/-- A number as its text gives it: below `2 ^ 64`, between `-2 ^ 63` and `-1`, or neither. -/
inductive Number
  | natural (value : Nat)
  | negative (value : Nat)
  | real (isNegative : Bool) (magnitude : Decimal.Binary64)
deriving DecidableEq, Repr

/-- How a diagnostic names the number. -/
def Number.found : Number → Found
  | .natural value => .integer value
  | .negative value => .integer (-value)
  | .real isNegative magnitude => .float isNegative magnitude

/-! ### Digits -/

/-- A decimal digit. -/
def isDigit (byte : UInt8) : Bool :=
  0x30 ≤ byte.toNat && byte.toNat ≤ 0x39

/-- The value of a decimal digit. -/
def digitValue (byte : UInt8) : Nat :=
  byte.toNat - 0x30

/-- The bytes from the first that is no digit. -/
def skipDigits (bytes : Bytes) : Bytes :=
  bytes.dropWhile isDigit

/-- Whether the next byte is a digit. -/
def startsWithDigit (bytes : Bytes) : Bool :=
  bytes.head?.any isDigit

theorem skipDigits_length_le (bytes : Bytes) : (skipDigits bytes).length ≤ bytes.length :=
  (List.dropWhile_suffix isDigit).length_le

/-- The bound of a significand, which is `2 ^ 64`. -/
def significandLimit : Nat := 18446744073709551616

/-- Digits put behind a number: the number they make, how many there were, and the bytes after. -/
structure Digits where
  value : Nat
  count : Nat
  rest : Bytes

/-- Takes digits as long as the number stays below the limit. -/
def takeDigits (value : Nat) : Bytes → Digits
  | [] => ⟨value, 0, []⟩
  | byte :: rest =>
    let next := value * 10 + digitValue byte
    if isDigit byte && next < significandLimit then
      let digits := takeDigits next rest
      { digits with count := digits.count + 1 }
    else ⟨value, 0, byte :: rest⟩

theorem takeDigits_rest_length_le (value : Nat) (bytes : Bytes) :
    (takeDigits value bytes).rest.length ≤ bytes.length := by
  induction bytes generalizing value with
  | nil => simp [takeDigits]
  | cons byte rest ih =>
    simp only [takeDigits]
    split
    · exact Nat.le_succ_of_le (ih _)
    · simp

/-! ### Magnitudes -/

/-- The byte before a fraction. -/
def point : UInt8 := ascii '.'

/-- A byte before an exponent. -/
def isExponentMark (byte : UInt8) : Bool :=
  byte = ascii 'e' || byte = ascii 'E'

/-- The bound of an exponent, which is `2 ^ 31`. -/
def exponentLimit : Nat := 2147483648

/-- Takes the digits of an exponent. The first one to reach the limit is taken and ends them. -/
def takeExponent (value : Nat) : Bytes → Option Nat × Bytes
  | [] => (some value, [])
  | byte :: rest =>
    if isDigit byte then
      let next := value * 10 + digitValue byte
      if next < exponentLimit then takeExponent next rest else (none, rest)
    else (some value, byte :: rest)

theorem takeExponent_rest_length_le (value : Nat) (bytes : Bytes) :
    (takeExponent value bytes).2.length ≤ bytes.length := by
  induction bytes generalizing value with
  | nil => simp [takeExponent]
  | cons byte rest ih =>
    simp only [takeExponent]
    split
    · split
      · exact Nat.le_succ_of_le (ih _)
      · simp
    · simp

/-- The magnitude of a significand and an exponent. -/
def magnitude (significand : Nat) (exponent : Int) (rest : Bytes) : Reading Decimal.Binary64 :=
  match Decimal.Binary64.ofDecimal? significand exponent with
  | some value => .ok (value, rest)
  | none => .error (.before .numberOutOfRange rest)

/-- Whether an exponent is negative, and the bytes after its sign. -/
def exponentSign : Bytes → Bool × Bytes
  | [] => (false, [])
  | byte :: rest =>
    if byte = ascii '-' then (true, rest)
    else if byte = ascii '+' then (false, rest)
    else (false, byte :: rest)

/-- Reads an exponent from behind its mark. One beyond the limit makes the number zero or too
large. -/
def readExponent (significand : Nat) (exponent : Int) (bytes : Bytes) :
    Reading Decimal.Binary64 :=
  match exponentSign bytes with
  | (_, []) => .error (.before .endInValue [])
  | (negative, byte :: rest) =>
    if isDigit byte then
      match takeExponent (digitValue byte) rest with
      | (some value, others) =>
        magnitude significand (if negative then exponent - value else exponent + value) others
      | (none, others) =>
        if significand ≠ 0 && !negative then .error (.before .numberOutOfRange others)
        else .ok (.zero, skipDigits others)
    else .error (.before .invalidNumber rest)

/-- Reads what may follow the digits of a fraction. -/
def readEnding (significand : Nat) (exponent : Int) : Bytes → Reading Decimal.Binary64
  | [] => magnitude significand exponent []
  | byte :: rest =>
    if isExponentMark byte then readExponent significand exponent rest
    else magnitude significand exponent (byte :: rest)

/-- Reads a fraction from behind its point. -/
def readFraction (significand : Nat) (exponent : Int) (bytes : Bytes) :
    Reading Decimal.Binary64 :=
  let digits := takeDigits significand bytes
  if digits.count = 0 && !startsWithDigit digits.rest then
    .error (.facing (if digits.rest.isEmpty then .endInValue else .invalidNumber) digits.rest)
  else readEnding digits.value (exponent - digits.count) (skipDigits digits.rest)

/-- Reads what may follow the digits of an integer that is no integer value. -/
def readReal (significand : Nat) (exponent : Int) : Bytes → Reading Decimal.Binary64
  | [] => magnitude significand exponent []
  | byte :: rest =>
    if byte = point then readFraction significand exponent rest
    else readEnding significand exponent (byte :: rest)

theorem magnitude_shrinks (significand : Nat) (exponent : Int) :
    Shrinks (magnitude significand exponent) := by
  intro bytes value rest done
  unfold magnitude at done
  grind

theorem exponentSign_length_le (bytes : Bytes) :
    (exponentSign bytes).2.length ≤ bytes.length := by
  unfold exponentSign
  grind

theorem readExponent_shrinks (significand : Nat) (exponent : Int) :
    Shrinks (readExponent significand exponent) := by
  intro bytes value rest done
  have final := @magnitude_shrinks
  have sign := exponentSign_length_le bytes
  have taken := takeExponent_rest_length_le
  have skipped := skipDigits_length_le
  simp only [Shrinks] at final
  unfold readExponent at done
  grind

theorem readEnding_shrinks (significand : Nat) (exponent : Int) :
    Shrinks (readEnding significand exponent) := by
  intro bytes value rest done
  have final := @magnitude_shrinks
  have scaled := @readExponent_shrinks
  simp only [Shrinks] at final scaled
  unfold readEnding at done
  grind

theorem readFraction_shrinks (significand : Nat) (exponent : Int) :
    Shrinks (readFraction significand exponent) := by
  intro bytes value rest done
  have ending := @readEnding_shrinks
  have taken := takeDigits_rest_length_le significand bytes
  have skipped := skipDigits_length_le (takeDigits significand bytes).rest
  simp only [Shrinks] at ending
  unfold readFraction at done
  grind

theorem readReal_shrinks (significand : Nat) (exponent : Int) :
    Shrinks (readReal significand exponent) := by
  intro bytes value rest done
  have final := @magnitude_shrinks
  have fraction := @readFraction_shrinks
  have ending := @readEnding_shrinks
  simp only [Shrinks] at final fraction ending
  unfold readReal at done
  grind

theorem magnitude_faultsWithin (significand : Nat) (exponent : Int) :
    FaultsWithin (magnitude significand exponent) := by
  intro bytes fault failed
  unfold magnitude at failed
  grind [Fault.before]

theorem readExponent_faultsWithin (significand : Nat) (exponent : Int) :
    FaultsWithin (readExponent significand exponent) := by
  intro bytes fault failed
  have final := @magnitude_faultsWithin
  have sign := exponentSign_length_le bytes
  have taken := takeExponent_rest_length_le
  simp only [FaultsWithin] at final
  unfold readExponent at failed
  grind [Fault.before]

theorem readEnding_faultsWithin (significand : Nat) (exponent : Int) :
    FaultsWithin (readEnding significand exponent) := by
  intro bytes fault failed
  have final := @magnitude_faultsWithin
  have scaled := @readExponent_faultsWithin
  simp only [FaultsWithin] at final scaled
  unfold readEnding at failed
  grind

theorem readFraction_faultsWithin (significand : Nat) (exponent : Int) :
    FaultsWithin (readFraction significand exponent) := by
  intro bytes fault failed
  have ending := @readEnding_faultsWithin
  have taken := takeDigits_rest_length_le significand bytes
  have skipped := skipDigits_length_le (takeDigits significand bytes).rest
  simp only [FaultsWithin] at ending
  unfold readFraction at failed
  grind [Fault.facing]

theorem readReal_faultsWithin (significand : Nat) (exponent : Int) :
    FaultsWithin (readReal significand exponent) := by
  intro bytes fault failed
  have final := @magnitude_faultsWithin
  have fraction := @readFraction_faultsWithin
  have ending := @readEnding_faultsWithin
  simp only [FaultsWithin] at final fraction ending
  unfold readReal at failed
  grind

/-! ### Numbers -/

/-- Whether a fraction or an exponent follows. -/
def startsReal (bytes : Bytes) : Bool :=
  bytes.head?.any fun byte ↦ byte = point || isExponentMark byte

/-- The integer of a sign and digits, `none` for minus zero and below `-2 ^ 63`. -/
def integer? (negative : Bool) (value : Nat) : Option Number :=
  if !negative then some (.natural value)
  else if value = 0 ∨ ¬Decimal.Integer.Fits (-value) then none
  else some (.negative value)

/-- Settles what kind of number some digits begin, after which `places` more were left out. -/
def classify (negative : Bool) (value places : Nat) (bytes : Bytes) : Reading Number :=
  match (if places = 0 && !startsReal bytes then integer? negative value else none) with
  | some number => .ok (number, bytes)
  | none =>
    match readReal value places bytes with
    | .error fault => .error fault
    | .ok (magnitude, rest) => .ok (.real negative magnitude, rest)

/-- Reads a number from behind its sign. -/
def readNumber (negative : Bool) : Bytes → Reading Number
  | [] => .error (.before .endInValue [])
  | byte :: rest =>
    if byte = ascii '0' then
      if startsWithDigit rest then .error (.facing .invalidNumber rest)
      else classify negative 0 0 rest
    else if isDigit byte then
      let digits := takeDigits (digitValue byte) rest
      let others := skipDigits digits.rest
      classify negative digits.value (digits.rest.length - others.length) others
    else .error (.before .invalidNumber rest)

theorem classify_shrinks (negative : Bool) (value places : Nat) :
    Shrinks (classify negative value places) := by
  intro bytes number rest done
  have real := @readReal_shrinks
  simp only [Shrinks] at real
  unfold classify at done
  grind

theorem readNumber_consumes (negative : Bool) : Consumes (readNumber negative) := by
  intro bytes number rest done
  have settled := @classify_shrinks
  have taken := takeDigits_rest_length_le
  have skipped := skipDigits_length_le
  simp only [Shrinks] at settled
  unfold readNumber at done
  grind

theorem classify_faultsWithin (negative : Bool) (value places : Nat) :
    FaultsWithin (classify negative value places) := by
  intro bytes fault failed
  have real := @readReal_faultsWithin
  simp only [FaultsWithin] at real
  unfold classify at failed
  grind

theorem readNumber_faultsWithin (negative : Bool) : FaultsWithin (readNumber negative) := by
  intro bytes fault failed
  have settled := @classify_faultsWithin
  have taken := takeDigits_rest_length_le
  have skipped := skipDigits_length_le
  simp only [FaultsWithin] at settled
  unfold readNumber at failed
  grind [Fault.before, Fault.facing]

/-! ### Skipped numbers -/

/-- Passes over an exponent from behind its mark. -/
def skipExponent (bytes : Bytes) : Reading Unit :=
  match exponentSign bytes with
  | (_, []) => .error (.before .invalidNumber [])
  | (_, byte :: rest) =>
    if isDigit byte then .ok ((), skipDigits rest)
    else .error (.before .invalidNumber rest)

/-- Passes over what may follow the digits of a fraction. -/
def skipEnding : Bytes → Reading Unit
  | [] => .ok ((), [])
  | byte :: rest => if isExponentMark byte then skipExponent rest else .ok ((), byte :: rest)

/-- Passes over what may follow the digits of an integer. -/
def skipReal : Bytes → Reading Unit
  | [] => .ok ((), [])
  | byte :: rest =>
    if byte = point then
      if startsWithDigit rest then skipEnding (skipDigits rest)
      else .error (.facing .invalidNumber rest)
    else skipEnding (byte :: rest)

/-- Passes over a number from behind its sign. -/
def skipNumber : Bytes → Reading Unit
  | [] => .error (.before .invalidNumber [])
  | byte :: rest =>
    if byte = ascii '0' then
      if startsWithDigit rest then .error (.facing .invalidNumber rest) else skipReal rest
    else if isDigit byte then skipReal (skipDigits rest)
    else .error (.before .invalidNumber rest)

theorem skipExponent_shrinks : Shrinks skipExponent := by
  intro bytes value rest done
  have sign := exponentSign_length_le bytes
  have skipped := skipDigits_length_le
  unfold skipExponent at done
  grind

theorem skipEnding_shrinks : Shrinks skipEnding := by
  intro bytes value rest done
  have scaled := @skipExponent_shrinks
  simp only [Shrinks] at scaled
  unfold skipEnding at done
  grind

theorem skipReal_shrinks : Shrinks skipReal := by
  intro bytes value rest done
  have ending := @skipEnding_shrinks
  have skipped := skipDigits_length_le
  simp only [Shrinks] at ending
  unfold skipReal at done
  grind

theorem skipNumber_consumes : Consumes skipNumber := by
  intro bytes value rest done
  have real := @skipReal_shrinks
  have skipped := skipDigits_length_le
  simp only [Shrinks] at real
  unfold skipNumber at done
  grind

end TokenService.Json
