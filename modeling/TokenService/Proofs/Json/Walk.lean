import TokenService.Json.Walk

/-!
# Steps through lists and objects

What has to stand at the front of the bytes for a list or an object to end there or to go on. Each
step is described by the first byte that is no blank.
-/

set_option autoImplicit false
set_option relaxedAutoImplicit false

namespace TokenService.Json

variable {first : Bool} {bytes rest more : Bytes} {name : String}

/-! ### Lists -/

theorem nextElement_last_iff :
    nextElement first bytes = .ok (.last rest) ↔ skipBlanks bytes = ascii ']' :: rest := by
  unfold nextElement
  grind

theorem nextElement_first_iff : nextElement true bytes = .ok (.more more) ↔
    ∃ byte others, skipBlanks bytes = byte :: others ∧ byte ≠ ascii ']' ∧
      more = byte :: others := by
  unfold nextElement
  grind

theorem nextElement_later_iff : nextElement false bytes = .ok (.more more) ↔
    ∃ others byte behind, skipBlanks bytes = ascii ',' :: others ∧
      skipBlanks others = byte :: behind ∧ byte ≠ ascii ']' ∧ more = byte :: behind := by
  unfold nextElement
  grind

/-! ### Objects -/

theorem nextMember_last_iff :
    nextMember first bytes = .ok (.last rest) ↔ skipBlanks bytes = ascii '\x7d' :: rest := by
  unfold nextMember readKey
  grind

theorem nextMember_first_iff : nextMember true bytes = .ok (.key name rest) ↔
    ∃ others, skipBlanks bytes = quoteMark :: others ∧ readString others = .ok (name, rest) := by
  have hquote : quoteMark ≠ ascii '\x7d' := by decide
  unfold nextMember readKey
  grind

theorem nextMember_later_iff : nextMember false bytes = .ok (.key name rest) ↔
    ∃ others behind, skipBlanks bytes = ascii ',' :: others ∧
      skipBlanks others = quoteMark :: behind ∧ readString behind = .ok (name, rest) := by
  unfold nextMember readKey
  grind

theorem readColon_iff :
    readColon bytes = .ok ((), rest) ↔ skipBlanks bytes = ascii ':' :: rest := by
  unfold readColon
  grind

theorem readMember_iff {α : Type} {read : Bytes → Reading α} {value : α} :
    readMember read bytes = .ok (value, rest) ↔
      ∃ others, skipBlanks bytes = ascii ':' :: others ∧ read others = .ok (value, rest) := by
  have hcolon := @readColon_iff bytes
  unfold readMember
  grind

end TokenService.Json
