import TokenService.Proofs.Json.Grammar.Record
import TokenService.Proofs.Token.Registered

/-!
# Registered claims and their spellings

The values that registered claims are meant to have: moments are integers, the subject and the
issuer are strings, and an audience is a string or a list of strings (`SpellsClaim`). The lenient
readers take all of these for what they are (`readsAll_readClaim`), so an object whose registered
claims have such values is read to its end, whatever other members it has. It is meant for an
audience exactly if there is a member for one (`exists_of_members`).
-/

set_option autoImplicit false
set_option relaxedAutoImplicit false

namespace TokenService.Token.Registered

open Json

variable {state changed : Registered} {name : String} {token : Bytes}

/-! ### The grammar -/

/-- The spellings of an audience: a string, or a list of strings, which may be empty. -/
inductive SpellsAudience : Bytes → Prop
  | one {name : String} {token : Bytes} (hname : SpellsText name token) : SpellsAudience token
  | several {names : List String} {token : Bytes} (hnames : SpellsList SpellsText names token) :
      SpellsAudience token

/-- What the value of a registered claim makes of the registered claims. A start of validity and an
issuer leave no trace. -/
inductive SpellsClaim (state : Registered) (name : String) : Registered → Bytes → Prop
  | expiry {moment : Int} {token : Bytes} (hname : name = "exp")
      (hmoment : SpellsInteger moment token) :
      SpellsClaim state name { state with expiry := momentOf moment } token
  | validity {moment : Int} {token : Bytes} (hname : name = "nbf")
      (hmoment : SpellsInteger moment token) : SpellsClaim state name state token
  | subject {subject : String} {token : Bytes} (hname : name = "sub")
      (hsubject : SpellsText subject token) :
      SpellsClaim state name { state with hasSubject := true } token
  | issuer {issuer : String} {token : Bytes} (hname : name = "iss")
      (hissuer : SpellsText issuer token) : SpellsClaim state name state token
  | audience {token : Bytes} (hname : name = "aud") (haudience : SpellsAudience token) :
      SpellsClaim state name { state with hasAudience := true } token

theorem SpellsAudience.begins (h : SpellsAudience token) : Begins token := by
  cases h with
  | one hname => exact hname.begins
  | several hnames => exact hnames.begins

theorem SpellsAudience.isValue (h : SpellsAudience token) : IsValue token := by
  cases h with
  | one hname => exact hname.isValue
  | several hnames => exact hnames.isValue

theorem SpellsClaim.begins (h : SpellsClaim state name changed token) : Begins token := by
  cases h with
  | expiry _ hmoment => exact hmoment.begins
  | validity _ hmoment => exact hmoment.begins
  | subject _ hsubject => exact hsubject.begins
  | issuer _ hissuer => exact hissuer.begins
  | audience _ haudience => exact haudience.begins

theorem SpellsClaim.isValue (h : SpellsClaim state name changed token) : IsValue token := by
  cases h with
  | expiry _ hmoment => exact hmoment.isValue
  | validity _ hmoment => exact hmoment.isValue
  | subject _ hsubject => exact hsubject.isValue
  | issuer _ hissuer => exact hissuer.isValue
  | audience _ haudience => exact haudience.isValue

/-! ### One claim -/

theorem readAudience_append {blanks rest : Bytes} (hblanks : Blanks blanks)
    (htoken : SpellsAudience token) (hrest : EndsNumber rest) :
    readAudience (blanks ++ (token ++ rest)) = (true, rest) := by
  cases htoken with
  | one hname => exact readAudience_of_readText (readsAll_readText hblanks hname hrest)
  | several hnames =>
    exact readAudience_of_readTextList (readsAll_readTextList hblanks hnames hrest)

theorem readsAll_readClaim (state : Registered) (name : String) :
    ReadsAll (state.readClaim name) (SpellsClaim state name) := by
  intro blanks token rest changed hblanks htoken hrest
  cases htoken with
  | expiry hname hmoment =>
    subst hname
    rw [readClaim_exp, readMoment_of_readInteger (readsAll_readInteger hblanks hmoment hrest)]
  | validity hname hmoment =>
    subst hname
    rw [readClaim_nbf, readMoment_of_readInteger (readsAll_readInteger hblanks hmoment hrest)]
  | subject hname hsubject =>
    subst hname
    rw [readClaim_sub, readSubject_of_readText (readsAll_readText hblanks hsubject hrest)]
  | issuer hname hissuer =>
    subst hname
    rw [readClaim_iss, passKept_of_readText (readsAll_readText hblanks hissuer hrest)]
  | audience hname haudience =>
    subst hname
    rw [readClaim_aud, readAudience_append hblanks haudience hrest]

/-- An audience that has been read stays, and only a member for one brings it about. -/
theorem isField_hasAudience : Record.IsField record SpellsClaim "aud" Registered.hasAudience
    fun given _ ↦ given = true where
  mem := by simp [record, names]
  spells h := by
    cases h with
    | expiry hname => exact absurd hname (by decide)
    | validity hname => exact absurd hname (by decide)
    | subject hname => exact absurd hname (by decide)
    | issuer hname => exact absurd hname (by decide)
    | audience => rfl
  keeps hother _ h := by
    cases h with
    | expiry => rfl
    | validity => rfl
    | subject => rfl
    | issuer => rfl
    | audience hname => exact absurd hname hother

/-! ### Registered claims as a record -/

section Members

variable {members : List (String × Bytes)}

theorem hasAudience_of_adds {whole : Draft Registered}
    (h : Record.Adds record SpellsClaim ⟨[], record.start⟩ members whole) :
    whole.value.hasAudience = true ↔ valuesOf "aud" members ≠ [] := by
  constructor
  · intro haudience hnone
    rw [h.field_eq_of_valuesOf_eq_nil isField_hasAudience hnone] at haudience
    cases haudience
  · intro hsome
    have hseen := h.mem_seen isField_hasAudience.mem (Or.inr hsome)
    obtain ⟨-, -, haudience⟩ :=
      h.exists_valuesOf isField_hasAudience List.not_mem_nil hseen
    exact haudience

/-- An object with registered claims of the values that they are meant to have, none of them twice,
is read to its end. -/
theorem exists_of_members {before after : Bytes} (hbefore : Blanks before) (hafter : Blanks after)
    (honce : ∀ name ∈ names, (valuesOf name members).length ≤ 1)
    (hfields : ∀ member ∈ members, member.1 ∈ names →
      ∀ state, ∃ changed, SpellsClaim state member.1 changed member.2)
    (hothers : ∀ member ∈ members, member.1 ∉ names → IsValue member.2)
    (hobject : SpellsObject members token) :
    ∃ registered, parse (before ++ (token ++ after)) = .ok registered ∧
      (registered.hasAudience = true ↔ valuesOf "aud" members ≠ []) := by
  obtain ⟨whole, hadds⟩ := @Record.exists_adds _ record SpellsClaim ⟨[], record.start⟩ members
    ⟨fun _ _ ↦ nofun, honce⟩ hfields hothers
  have htoken : Record.SpellsRecord record SpellsClaim whole.value token :=
    .object hadds (List.forall_mem_nil _) hobject
  exact ⟨whole.value, Record.parse_append readsAll_readClaim SpellsClaim.begins hbefore hafter
    htoken, hasAudience_of_adds hadds⟩

end Members

end TokenService.Token.Registered
