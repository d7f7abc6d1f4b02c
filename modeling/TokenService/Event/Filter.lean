import TokenService.Event
import TokenService.Event.Pattern
import TokenService.Text.Alphanumeric
import TokenService.Text.Space

/-!
# Which events are logged

A filter is a list of rules, each of which sets how little some events may matter to be logged:
those whose target begins with that of the rule and which name the value that the rule asks for, if
it asks for one. Of the rules that speak of an event the one with the longest target decides, then
one that asks for a value, and of equal ones the last; an event that no rule speaks of is not
logged.

A filter is written as directives with commas between them: a level for all events, or a target with
a level behind an equals sign. Without a level everything of the target is logged. Between target
and level brackets may describe what the directive is about: a span of work, the name of a value in
braces, or both. The service has no spans, so only the name of a value on its own makes a rule; what
the value has to be like could be told of spans alone.
-/

set_option autoImplicit false
set_option relaxedAutoImplicit false

namespace TokenService.Event

/-- The highest rank at which some events are logged. An empty target begins every target. -/
structure Rule where
  target : List Char
  field : Option String
  limit : Nat
deriving DecidableEq, Repr

/-- Rules, of equal ones the later stronger. -/
abbrev Filter := List Rule

namespace Filter

/-! ### Levels -/

/-- The ranks by name, from the one at which nothing is logged. -/
def limits : List (String × Nat) :=
  [("off", 0), ("error", 1), ("warn", 2), ("info", 3), ("debug", 4), ("trace", 5)]

/-- The rank at which everything is logged. -/
def everything : Nat := 5

/-- The number that some digits stand for, with a plus sign or without. -/
def number? : List Char → Option Nat
  | '+' :: digits => Decimal.Integer.natural? digits
  | digits => Decimal.Integer.natural? digits

/-- The rank that some characters stand for: its number, or its name in either case. -/
def limit? (characters : List Char) : Option Nat :=
  match number? characters with
  | some number => if number ≤ everything then some number else none
  | none => limits.lookup (.ofList (characters.map Char.toLower))

/-! ### Brackets -/

/-- What brackets describe: the span, and the value that it or an event has to name. -/
structure Description where
  span : Option (List Char)
  field : Option (List Char)

/-- The name of a value in braces, which ends at an equals sign. -/
def fieldName (field : List Char) : List Char :=
  field.takeWhile (· ≠ '=')

/-- What a value in braces has to be like, up to a second equals sign, if that is said. -/
def fieldPattern? (field : List Char) : Option (List Char) :=
  match field.dropWhile (· ≠ '=') with
  | [] => none
  | _ :: rest => some (rest.takeWhile (· ≠ '='))

/-- Reads braces, and the bracket that closes around them, from behind the brace that opens. -/
def readBraces (span : List Char) (characters : List Char) : Option (Description × List Char) :=
  let field := characters.takeWhile (· ≠ '\x7d')
  match characters.dropWhile (· ≠ '\x7d') with
  | _ :: ']' :: rest =>
    if !field.isEmpty && (fieldPattern? field).all Pattern.isAcceptable then
      some (⟨if span.isEmpty then none else some span, some field⟩, rest)
    else none
  | _ => none

/-- A character within brackets, in front of braces. -/
def isSpanPart (character : Char) : Bool :=
  character ≠ ']' && character ≠ '\x7b'

/-- Reads brackets, from behind the one that opens. -/
def readBrackets (characters : List Char) : Option (Description × List Char) :=
  let span := characters.takeWhile isSpanPart
  match characters.dropWhile isSpanPart with
  | ']' :: rest => some (⟨some span, none⟩, rest)
  | _ :: rest => readBraces span rest
  | [] => none

/-- The rule for the events of a target that fit a description, if it is one of events. -/
def Description.rules (description : Description) (target : List Char) (limit : Nat) :
    List Rule :=
  match description.span, description.field with
  | none, some field =>
    if (fieldPattern? field).isSome then [] else [⟨target, some (.ofList (fieldName field)), limit⟩]
  | _, _ => []

/-! ### Directives -/

/-- A directive in its parts: the target, which may be empty in front of brackets, and what stands
in brackets and behind the equals sign, if they are there. -/
structure Directive where
  target : List Char
  description : Option Description
  level : Option (List Char)

/-- Reads the level of a directive, with its equals sign. -/
def readLevel (target : List Char) (description : Option Description) :
    List Char → Option Directive
  | [] => some ⟨target, description, none⟩
  | '=' :: level => some ⟨target, description, some level⟩
  | _ => none

/-- Reads what follows the target of a directive. -/
def readTail (target : List Char) : List Char → Option Directive
  | '[' :: rest =>
    (readBrackets rest).bind fun (description, tail) ↦ readLevel target (some description) tail
  | rest => readLevel target none rest

/-- A character that may begin a target. -/
def isTargetStart (character : Char) : Bool :=
  Text.Alphanumeric.isAlphanumeric character || character ∈ ['-', ':', '_']

/-- A character of a target. -/
def isTargetPart (character : Char) : Bool :=
  character ≠ '=' && character ≠ '['

/-- Reads a directive. -/
def readDirective (characters : List Char) : Option Directive :=
  if characters.head?.any isTargetStart then
    readTail (characters.takeWhile isTargetPart) (characters.dropWhile isTargetPart)
  else if characters.head? = some '[' then readTail [] characters
  else none

/-- The rules of a target on its own, which may be a level instead. -/
def loneRules (target : List Char) : List Rule :=
  match limit? target with
  | some limit => [⟨[], none, limit⟩]
  | none => [⟨target, none, everything⟩]

/-- The rules of a target with a description, if there is one, up to a rank. -/
def describedRules (target : List Char) (description : Option Description) (limit : Nat) :
    List Rule :=
  match description with
  | some described => described.rules target limit
  | none => [⟨target, none, limit⟩]

/-- The rank behind an equals sign. Nothing there is everything. -/
def rankOf? (level : List Char) : Option Nat :=
  if level.isEmpty then some everything else limit? level

/-- The rules that a directive makes, unless its level is none. -/
def Directive.rules? (directive : Directive) : Option (List Rule) :=
  match directive.level, directive.description with
  | some level, description => (rankOf? level).map (describedRules directive.target description)
  | none, some description => some (description.rules directive.target everything)
  | none, none => some (loneRules directive.target)

/-- The rules that some characters make. Blank space around a directive does not count for its form,
but does for its words: a level is then none, and no event has such a target. -/
def rules? (characters : List Char) : Option (List Rule) :=
  let form := Text.Space.trim characters
  match readDirective form with
  | none => none
  | some directive =>
    if form = characters then directive.rules?
    else if directive.level.isSome then none
    else some []

/-! ### Written filters -/

/-- The parts of a text between commas. -/
def parts : List Char → List (List Char)
  | [] => [[]]
  | character :: rest =>
    if character = ',' then [] :: parts rest
    else
      match parts rest with
      | [] => [[character]]
      | part :: others => (character :: part) :: others

/-- The filter for all events that matter as much as those of a level. -/
def upTo (level : Level) : Filter := [⟨[], none, level.rank⟩]

/-- The filter that a text spells, empty parts left out. Without any part it is that of errors. -/
def parse? (text : String) : Option Filter :=
  match (parts text.toList).filter (!·.isEmpty) with
  | [] => some (upTo .error)
  | directives => (directives.mapM rules?).map List.flatten

/-- The filter when none is given, or one that is not well written. -/
def standard : Filter := upTo .info

/-- The filter that a variable asks for. -/
def ofVariable (value : Option String) : Filter :=
  (value.bind parse?).getD standard

/-! ### Decisions -/

/-- The names of the values of an event, its message among them. -/
def valueNames (event : Event) : List String :=
  "message" :: event.fields.map Prod.fst

/-- Whether a rule speaks of an event. -/
def Rule.covers (rule : Rule) (event : Event) : Bool :=
  rule.target.isPrefixOf event.target.toList && rule.field.all (· ∈ valueNames event)

/-- Whether a rule is no stronger than another. -/
def Rule.yields (first second : Rule) : Bool :=
  if first.target.length = second.target.length then
    match first.field, second.field with
    | none, _ => true
    | some _, none => false
    | some one, some other => one ≤ other
  else first.target.length < second.target.length

/-- Of two rules the one that decides, the second of equal ones. -/
def stronger (first second : Rule) : Rule :=
  if Rule.yields first second then second else first

/-- The rule that decides about an event, if there is one. -/
def ruleFor? (filter : Filter) (event : Event) : Option Rule :=
  match filter.filter (Rule.covers · event) with
  | [] => none
  | rule :: rules => some (rules.foldl stronger rule)

/-- Whether an event is logged. -/
def passes (filter : Filter) (event : Event) : Bool :=
  match filter.ruleFor? event with
  | some rule => event.level.rank ≤ rule.limit
  | none => false

end Filter

end TokenService.Event
