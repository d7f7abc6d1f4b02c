import TokenService.Json.Skip

/-!
# Records

A record is a value with named fields. Its text is an object that has each field at most once, in
any order and among members of other names, or a list of the values of all fields in their order.
`readRecord` reads either form. The value grows field by field from a start; which fields have been
read is kept beside it, so that a repeated or a missing field is found.
-/

set_option autoImplicit false
set_option relaxedAutoImplicit false

namespace TokenService.Json

/-- A kind of record: what diagnostics call it, its fields in order, those it cannot do without, and
how the value of a field is read into the record. -/
structure Record (σ : Type) where
  title : String
  names : List String
  required : List String
  start : σ
  read : σ → String → Bytes → Reading σ
  read_shrinks : ∀ (state : σ) (name : String), Shrinks (read state name)

/-- A record on its way, with the names of the fields that it has. -/
structure Draft (σ : Type) where
  seen : List String
  value : σ

namespace Record

variable {σ : Type} (record : Record σ)

/-- Reads a member from behind its key. -/
def readField (draft : Draft σ) (name : String) (bytes : Bytes) : Reading (Draft σ) :=
  if name ∈ record.names then
    if name ∈ draft.seen then
      .error (.before (.duplicateField name) (afterObject bytes))
    else
      match readMember (record.read draft.value name) bytes with
      | .error fault => .error fault
      | .ok (value, rest) => .ok (⟨name :: draft.seen, value⟩, rest)
  else
    match readMember skipValue bytes with
    | .error fault => .error fault
    | .ok (_, rest) => .ok (draft, rest)

theorem readField_shrinks (draft : Draft σ) (name : String) :
    Shrinks (record.readField draft name) := by
  intro bytes value rest done
  unfold readField at done
  split at done
  · split at done
    · simp at done
    · split at done
      · simp at done
      · next read =>
        simp only [Except.ok.injEq, Prod.mk.injEq] at done
        exact done.2 ▸ readMember_shrinks (record.read_shrinks _ _) read
  · split at done
    · simp at done
    · next read =>
      simp only [Except.ok.injEq, Prod.mk.injEq] at done
      exact done.2 ▸ readMember_shrinks skipValue_shrinks read

/-- Reads the members of an object from behind its bracket. -/
def readMembers (first : Bool) (draft : Draft σ) (bytes : Bytes) : Reading (Draft σ) :=
  match _next : nextMember first bytes with
  | .error fault => .error fault
  | .ok (.last rest) => .ok (draft, rest)
  | .ok (.key name rest) =>
    match _read : record.readField draft name rest with
    | .error fault => .error fault
    | .ok (longer, others) => readMembers false longer others
termination_by bytes.length
decreasing_by
  have next := nextMember_key_length_lt _next
  have read := record.readField_shrinks draft name _read
  omega

/-- Reads the values of the fields of some names from a list, and the end of the list. -/
def readElements : (names : List String) → (first : Bool) → σ → Bytes → Reading σ
  | [], _, value, bytes =>
    match readListEnd bytes with
    | .error fault => .error fault
    | .ok (_, rest) => .ok (value, rest)
  | name :: names, first, value, bytes =>
    match nextElement first bytes with
    | .error fault => .error fault
    | .ok (.last rest) =>
      let length := record.names.length - (names.length + 1)
      let wanted := record.title ++ " with " ++ Decimal.Integer.text record.names.length ++
        " elements"
      .error (.before (.wrongLength length wanted) rest)
    | .ok (.more more) =>
      match record.read value name more with
      | .error fault => .error fault
      | .ok (changed, rest) => readElements names false changed rest

/-- Reads a record in either form. -/
def readRecord (bytes : Bytes) : Reading σ :=
  match skipBlanks bytes with
  | [] => .error (.before .endInValue [])
  | byte :: rest =>
    if byte = ascii '[' then record.readElements record.names true record.start rest
    else if byte = ascii '\x7b' then
      match record.readMembers true ⟨[], record.start⟩ rest with
      | .error fault => .error fault
      | .ok (draft, others) =>
        match record.required.find? (· ∉ draft.seen) with
        | some name => .error (.before (.missingField name) others)
        | none => .ok (draft.value, others)
    else .error (misfit record.title (byte :: rest))

/-- The record that a text holds, or what is wrong with the text. -/
def parse (text : Bytes) : Except Diagnostic σ :=
  match readWhole record.readRecord text with
  | .error fault => .error (fault.locate text)
  | .ok value => .ok value

end Record

end TokenService.Json
