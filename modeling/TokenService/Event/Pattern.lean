import TokenService.Text.Alphanumeric

/-!
# Patterns for values

A directive of a filter may say what the value that it names has to be like: a truth value, a
number, or a regular expression. Whether an expression matches is never asked; but one that is not
well written makes the whole filter bad, and `isAcceptable` finds that out.

An expression is read one character at a time (`step`). What matters is which groups and sets of
characters are still open, and whether something stands in front that can be repeated. Counted
repetitions, references to groups, lookaround and word boundaries are not supported.
-/

set_option autoImplicit false
set_option relaxedAutoImplicit false

namespace TokenService.Event.Pattern

/-! ### Expressions -/

/-- Where the next character of an expression stands. -/
inductive Place
  | item (repeatable : Bool)
  | escape
  | code (digits : Nat)
  | property
  | group
  | special
  | capture
  | name (isEmpty : Bool)
  | flags (seen : List Char)
  | setStart (negatable : Bool)
deriving DecidableEq, Repr

/-- What is known of an expression read so far: how many groups and sets are open, and where the
next character stands. -/
structure Progress where
  groups : Nat
  sets : Nat
  place : Place
deriving DecidableEq, Repr

/-- Nothing of an expression. -/
def Progress.start : Progress := ⟨0, 0, .item false⟩

/-- Goes on at another place. -/
def Progress.movedTo (progress : Progress) (place : Place) : Progress :=
  { progress with place := place }

/-- Opens a set inside those that are open. -/
def Progress.openSet (progress : Progress) : Progress :=
  ⟨progress.groups, progress.sets + 1, .setStart true⟩

/-- Closes a group, if one is open. -/
def Progress.closeGroup (progress : Progress) (repeatable : Bool) : Option Progress :=
  if progress.groups = 0 then none else some ⟨progress.groups - 1, progress.sets, .item repeatable⟩

/-- A character outside sets. -/
def Progress.stepOutside (progress : Progress) (repeatable : Bool) (character : Char) :
    Option Progress :=
  if character = '\\' then some (progress.movedTo .escape)
  else if character = '[' then some progress.openSet
  else if character = '(' then some ⟨progress.groups + 1, progress.sets, .group⟩
  else if character = ')' then progress.closeGroup true
  else if character = '|' then some (progress.movedTo (.item false))
  else if character ∈ ['*', '+', '?'] then if repeatable then some progress else none
  else if character = '\x7b' then none
  else some (progress.movedTo (.item true))

/-- A character inside a set. -/
def Progress.stepInside (progress : Progress) (character : Char) : Progress :=
  if character = '\\' then progress.movedTo .escape
  else if character = '[' then progress.openSet
  else if character = ']' then ⟨progress.groups, progress.sets - 1, .item true⟩
  else progress.movedTo (.item true)

/-- Letters behind a backslash that stand for a class of characters or for one character. -/
def classLetters : List Char :=
  ['d', 's', 'w', 'D', 'S', 'W', 'a', 'f', 't', 'n', 'r', 'v']

/-- The first letters of the groups of categories. -/
def categories : List Char := ['c', 'l', 'm', 'n', 'p', 's', 'z']

/-- The character behind a backslash. -/
def Progress.stepEscape (progress : Progress) (character : Char) : Option Progress :=
  if character ∈ classLetters then some (progress.movedTo (.item true))
  else if character ∈ ['A', 'z'] then
    if progress.sets = 0 then some (progress.movedTo (.item true)) else none
  else if character = 'x' then some (progress.movedTo (.code 2))
  else if character = 'u' then some (progress.movedTo (.code 4))
  else if character = 'U' then some (progress.movedTo (.code 8))
  else if character ∈ ['p', 'P'] then some (progress.movedTo .property)
  else if character.isAlphanum || character ∈ ['<', '>'] || 0x80 ≤ character.toNat then none
  else some (progress.movedTo (.item true))

/-- A hexadecimal digit. -/
def isHexDigit (character : Char) : Bool :=
  character.isDigit || character.toLower ∈ ['a', 'b', 'c', 'd', 'e', 'f']

/-- A character of the name of a group. -/
def isNamePart (isFirst : Bool) (character : Char) : Bool :=
  character = '_' ||
    if isFirst then Text.Alphanumeric.isAlphanumeric character && !character.isDigit
    else Text.Alphanumeric.isAlphanumeric character || character ∈ ['.', '[', ']']

/-- The flags that a group can set, and the sign that unsets those behind it. -/
def flagLetters : List Char :=
  ['i', 'm', 's', 'U', 'u', 'x', 'R', '-']

/-- A character among the flags of a group, none of which may be given twice. -/
def Progress.stepFlags (progress : Progress) (seen : List Char) (character : Char) :
    Option Progress :=
  if character ∈ flagLetters then
    if character ∈ seen then none else some (progress.movedTo (.flags (character :: seen)))
  else if seen.head? = some '-' then none
  else if character = ':' then some (progress.movedTo (.item false))
  else if character = ')' && !seen.isEmpty then progress.closeGroup false
  else none

/-- What is known after one more character. -/
def Progress.step (progress : Progress) (character : Char) : Option Progress :=
  match progress.place with
  | .item repeatable =>
    if progress.sets = 0 then progress.stepOutside repeatable character
    else some (progress.stepInside character)
  | .escape => progress.stepEscape character
  | .code digits =>
    if isHexDigit character then
      some (progress.movedTo (if digits ≤ 1 then .item true else .code (digits - 1)))
    else none
  | .property =>
    if character.toLower ∈ categories then some (progress.movedTo (.item true)) else none
  | .group =>
    if character = '?' then some (progress.movedTo .special)
    else progress.stepOutside false character
  | .special =>
    if character = 'P' then some (progress.movedTo .capture)
    else if character = '<' then some (progress.movedTo (.name true))
    else progress.stepFlags [] character
  | .capture => if character = '<' then some (progress.movedTo (.name true)) else none
  | .name isEmpty =>
    if character = '>' && !isEmpty then some (progress.movedTo (.item false))
    else if isNamePart isEmpty character then some (progress.movedTo (.name false))
    else none
  | .flags seen => progress.stepFlags seen character
  | .setStart negatable =>
    if (character = '^' && negatable) || character = '-' then
      some (progress.movedTo (.setStart false))
    else if character = ']' then some (progress.movedTo (.item true))
    else some (progress.stepInside character)

/-- Whether an expression may end here. -/
def Progress.isComplete (progress : Progress) : Bool :=
  match progress.place with
  | .item _ => progress.groups = 0 && progress.sets = 0
  | _ => false

/-- Whether a text is a regular expression. -/
def isExpression (characters : List Char) : Bool :=
  (characters.foldlM Progress.step Progress.start).any Progress.isComplete

/-! ### Numbers -/

/-- Whether some characters are an exponent, or nothing. -/
def isExponent : List Char → Bool
  | [] => true
  | letter :: rest =>
    letter.toLower = 'e' &&
      match rest with
      | sign :: digits =>
        if sign ∈ ['+', '-'] then !digits.isEmpty && digits.all Char.isDigit
        else rest.all Char.isDigit
      | [] => false

/-- Whether some characters are a decimal without a sign. -/
def isDecimal (characters : List Char) : Bool :=
  let whole := characters.takeWhile Char.isDigit
  match characters.dropWhile Char.isDigit with
  | '.' :: rest =>
    !(whole.isEmpty && (rest.takeWhile Char.isDigit).isEmpty) &&
      isExponent (rest.dropWhile Char.isDigit)
  | rest => !whole.isEmpty && isExponent rest

/-- The names of numbers that are none, in lower case. -/
def unboundedNames : List String := ["inf", "infinity", "nan"]

/-- Whether some characters are a number with a plus sign. A number with a minus sign, or with none,
is an expression as well. -/
def isSigned : List Char → Bool
  | '+' :: rest => isDecimal rest || String.ofList (rest.map Char.toLower) ∈ unboundedNames
  | _ => false

/-- Whether some characters say what a value has to be like. -/
def isAcceptable (characters : List Char) : Bool :=
  isSigned characters || isExpression characters

end TokenService.Event.Pattern
