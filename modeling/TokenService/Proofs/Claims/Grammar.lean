import TokenService.Proofs.Claims
import TokenService.Proofs.Json.Grammar.Record

/-!
# The texts that hold claims

Claims are spelled by an object that has each of the three members once, among other members of any
well-formed values, or by a list of the three values (`SpellsClaims`). A text holds claims exactly
if it spells them between blanks (`parse_iff_spells`).

The three claims are the fields of a record, so the members of an object are matched with the claims
field by field (`isField_subject`, `isField_expiry`, `isField_channels`), whatever their order.
-/

set_option autoImplicit false
set_option relaxedAutoImplicit false

namespace TokenService.Claims

open Json

variable {claims changed state : Claims} {name : String} {token text : Bytes}

/-! ### The grammar -/

/-- The spellings of the three values: a string, an integer and a list of strings. -/
structure SpellsValues (claims : Claims) (subject expiry channels : Bytes) : Prop where
  subject : SpellsText claims.subject subject
  expiry : SpellsInteger claims.expiry expiry
  channels : SpellsList SpellsText claims.channels channels

/-- Each claim has one member, with the given value. -/
structure HasMembers (members : List (String × Bytes)) (subject expiry channels : Bytes) :
    Prop where
  subject : valuesOf "sub" members = [subject]
  expiry : valuesOf "exp" members = [expiry]
  channels : valuesOf "channels" members = [channels]

/-- The spellings of claims. The members of an object may be in any order, and those of other names
may be repeated. -/
inductive SpellsClaims (claims : Claims) : Bytes → Prop
  | object {members : List (String × Bytes)} {subject expiry channels token : Bytes}
      (hvalues : SpellsValues claims subject expiry channels)
      (hmembers : HasMembers members subject expiry channels)
      (hothers : ∀ member ∈ members, member.1 ∉ names → IsValue member.2)
      (hobject : SpellsObject members token) : SpellsClaims claims token
  | list {subject expiry channels inner : Bytes}
      (hvalues : SpellsValues claims subject expiry channels)
      (hinner : Separated true [subject, expiry, channels] inner) :
      SpellsClaims claims (ascii '[' :: (inner ++ [ascii ']']))

/-- The text spells the claims and holds nothing else but blanks around them. -/
def Spells (claims : Claims) (text : Bytes) : Prop :=
  ∃ before token after, Blanks before ∧ Blanks after ∧ SpellsClaims claims token ∧
    text = before ++ (token ++ after)

/-! ### One claim -/

/-- What the value of a claim makes of claims. -/
inductive SpellsClaim (state : Claims) (name : String) : Claims → Bytes → Prop
  | subject {subject : String} {token : Bytes} (hname : name = "sub")
      (hsubject : SpellsText subject token) : SpellsClaim state name { state with subject } token
  | expiry {expiry : Int} {token : Bytes} (hname : name = "exp")
      (hexpiry : SpellsInteger expiry token) : SpellsClaim state name { state with expiry } token
  | channels {channels : List String} {token : Bytes} (hsub : name ≠ "sub") (hexp : name ≠ "exp")
      (hchannels : SpellsList SpellsText channels token) :
      SpellsClaim state name { state with channels } token

theorem SpellsClaim.begins (h : SpellsClaim state name changed token) : Begins token := by
  cases h with
  | subject _ hsubject => exact hsubject.begins
  | expiry _ hexpiry => exact hexpiry.begins
  | channels _ _ hchannels => exact hchannels.begins

theorem readsAll_readClaim (state : Claims) (name : String) :
    ReadsAll (state.readClaim name) (SpellsClaim state name) := by
  intro blanks token rest changed hblanks htoken hrest
  cases htoken with
  | subject hname hsubject =>
    rw [readClaim, if_pos hname, readsAll_readText hblanks hsubject hrest]
  | expiry hname hexpiry =>
    rw [readClaim, if_neg (by simp [hname]), if_pos hname,
      readsAll_readInteger hblanks hexpiry hrest]
  | channels hsub hexp hchannels =>
    rw [readClaim, if_neg hsub, if_neg hexp, readsAll_readTextList hblanks hchannels hrest]

theorem readsOnly_readClaim (state : Claims) (name : String) :
    ReadsOnly (state.readClaim name) (SpellsClaim state name) := by
  intro bytes rest changed h
  by_cases hsub : name = "sub"
  · rw [hsub, readClaim_sub_iff] at h
    obtain ⟨subject, hread, rfl⟩ := h
    obtain ⟨blanks, token, hblanks, htoken, hbytes⟩ := readsOnly_readText hread
    exact ⟨blanks, token, hblanks, .subject hsub htoken, hbytes⟩
  by_cases hexp : name = "exp"
  · rw [hexp, readClaim_exp_iff] at h
    obtain ⟨expiry, hread, rfl⟩ := h
    obtain ⟨blanks, token, hblanks, htoken, hbytes⟩ := readsOnly_readInteger hread
    exact ⟨blanks, token, hblanks, .expiry hexp htoken, hbytes⟩
  · rw [readClaim, if_neg hsub, if_neg hexp] at h
    split at h
    · cases h
    next channels left hread =>
    rw [Except.ok.injEq, Prod.mk.injEq] at h
    obtain ⟨blanks, token, hblanks, htoken, hbytes⟩ := readsOnly_readTextList hread
    exact ⟨blanks, token, hblanks, h.1 ▸ .channels hsub hexp htoken, h.2 ▸ hbytes⟩

/-! ### The three fields -/

theorem isField_subject :
    Record.IsField record SpellsClaim "sub" Claims.subject SpellsText where
  mem := by simp [record, names]
  spells h := by
    cases h with
    | subject _ hsubject => exact hsubject
    | expiry hname => exact absurd hname (by decide)
    | channels hsub => exact absurd rfl hsub
  keeps hother _ h := by
    cases h with
    | subject hname => exact absurd hname hother
    | expiry => rfl
    | channels => rfl

theorem isField_expiry :
    Record.IsField record SpellsClaim "exp" Claims.expiry SpellsInteger where
  mem := by simp [record, names]
  spells h := by
    cases h with
    | subject hname => exact absurd hname (by decide)
    | expiry _ hexpiry => exact hexpiry
    | channels _ hexp => exact absurd rfl hexp
  keeps hother _ h := by
    cases h with
    | subject => rfl
    | expiry hname => exact absurd hname hother
    | channels => rfl

theorem isField_channels :
    Record.IsField record SpellsClaim "channels" Claims.channels (SpellsList SpellsText) where
  mem := by simp [record, names]
  spells h := by
    cases h with
    | subject hname => exact absurd hname (by decide)
    | expiry hname => exact absurd hname (by decide)
    | channels _ _ hchannels => exact hchannels
  keeps hother hmem h := by
    cases h with
    | subject => rfl
    | expiry => rfl
    | channels hsub hexp => simp [record, names, hsub, hexp, hother] at hmem

/-- Values that spell claims spell no others. -/
theorem SpellsValues.unique {other : Claims} {subject expiry channels : Bytes}
    (hclaims : SpellsValues claims subject expiry channels)
    (hother : SpellsValues other subject expiry channels) : claims = other := by
  have hsubject : claims.subject = other.subject :=
    readsAll_readText.unique hclaims.subject hother.subject
  have hexpiry : claims.expiry = other.expiry :=
    readsAll_readInteger.unique hclaims.expiry hother.expiry
  have hchannels : claims.channels = other.channels :=
    readsAll_readTextList.unique hclaims.channels hother.channels
  cases claims
  cases other
  simp only [Claims.mk.injEq]
  exact ⟨hsubject, hexpiry, hchannels⟩

/-! ### Claims as a record -/

section Members

variable {members : List (String × Bytes)} {draft : Draft Claims}

theorem exists_of_adds (hadds : Record.Adds record SpellsClaim ⟨[], record.start⟩ members draft)
    (hseen : ∀ name ∈ names, name ∈ draft.seen) :
    ∃ subject expiry channels, SpellsValues draft.value subject expiry channels ∧
      HasMembers members subject expiry channels := by
  have hnew : ∀ {name : String}, name ∉ ([] : List String) := List.not_mem_nil
  obtain ⟨subject, hsubject, hsub⟩ :=
    hadds.exists_valuesOf isField_subject hnew (hseen _ isField_subject.mem)
  obtain ⟨expiry, hexpiry, hexp⟩ :=
    hadds.exists_valuesOf isField_expiry hnew (hseen _ isField_expiry.mem)
  obtain ⟨channels, hchannels, hchan⟩ :=
    hadds.exists_valuesOf isField_channels hnew (hseen _ isField_channels.mem)
  exact ⟨subject, expiry, channels, ⟨hsub, hexp, hchan⟩, ⟨hsubject, hexpiry, hchannels⟩⟩

variable {subject expiry channels : Bytes} (hmembers : HasMembers members subject expiry channels)
include hmembers

theorem HasMembers.exists_valuesOf (hname : name ∈ names) :
    ∃ token, valuesOf name members = [token] := by
  simp only [names, List.mem_cons, List.not_mem_nil, or_false] at hname
  rcases hname with rfl | rfl | rfl
  · exact ⟨subject, hmembers.subject⟩
  · exact ⟨expiry, hmembers.expiry⟩
  · exact ⟨channels, hmembers.channels⟩

theorem HasMembers.exists_spellsClaim (hvalues : SpellsValues claims subject expiry channels)
    (hname : name ∈ names) (hmember : (name, token) ∈ members) (state : Claims) :
    ∃ changed, SpellsClaim state name changed token := by
  rw [← mem_valuesOf_iff] at hmember
  simp only [names, List.mem_cons, List.not_mem_nil, or_false] at hname
  rcases hname with rfl | rfl | rfl
  · rw [hmembers.subject, List.mem_singleton] at hmember
    exact ⟨_, .subject rfl (hmember ▸ hvalues.subject)⟩
  · rw [hmembers.expiry, List.mem_singleton] at hmember
    exact ⟨_, .expiry rfl (hmember ▸ hvalues.expiry)⟩
  · rw [hmembers.channels, List.mem_singleton] at hmember
    exact ⟨_, .channels (by decide) (by decide) (hmember ▸ hvalues.channels)⟩

/-- The members make the claims that their values spell, in whatever order they are. -/
theorem HasMembers.exists_adds (hvalues : SpellsValues claims subject expiry channels)
    (hothers : ∀ member ∈ members, member.1 ∉ names → IsValue member.2) :
    ∃ whole : Draft Claims, Record.Adds record SpellsClaim ⟨[], record.start⟩ members whole ∧
      (∀ name ∈ names, name ∈ whole.seen) ∧ whole.value = claims := by
  have hunrepeated : Record.Unrepeated names [] members := by
    refine ⟨fun _ _ ↦ nofun, fun name hname ↦ ?_⟩
    obtain ⟨token, htoken⟩ := hmembers.exists_valuesOf hname
    rw [htoken, List.length_singleton]
  obtain ⟨whole, hadds⟩ := @Record.exists_adds _ record SpellsClaim ⟨[], record.start⟩ members
    hunrepeated (fun member hmember hname ↦ hmembers.exists_spellsClaim hvalues hname hmember)
    hothers
  have hseen : ∀ name ∈ names, name ∈ whole.seen := by
    intro name hname
    obtain ⟨token, htoken⟩ := hmembers.exists_valuesOf hname
    exact hadds.mem_seen hname (Or.inr (by simp [htoken]))
  obtain ⟨subject', expiry', channels', hwhole, hsame⟩ := exists_of_adds hadds hseen
  have hsubject := hsame.subject
  have hexpiry := hsame.expiry
  have hchannels := hsame.channels
  rw [hmembers.subject, List.cons.injEq, and_iff_left rfl] at hsubject
  rw [hmembers.expiry, List.cons.injEq, and_iff_left rfl] at hexpiry
  rw [hmembers.channels, List.cons.injEq, and_iff_left rfl] at hchannels
  rw [← hsubject, ← hexpiry, ← hchannels] at hwhole
  exact ⟨whole, hadds, hseen, hwhole.unique hvalues⟩

end Members

theorem spellsClaims_of_spellsRecord
    (h : Record.SpellsRecord record SpellsClaim claims token) : SpellsClaims claims token := by
  cases h with
  | object hadds hrequired hobject =>
    obtain ⟨subject, expiry, channels, hvalues, hmembers⟩ := exists_of_adds hadds hrequired
    exact .object hvalues hmembers hadds.isValue hobject
  | list hparts hinner =>
    have hnames : record.names = ["sub", "exp", "channels"] := rfl
    rw [hnames] at hparts
    cases hparts with
    | cons hsubject hparts =>
    cases hparts with
    | cons hexpiry hparts =>
    cases hparts with
    | cons hchannels hparts =>
    cases hparts
    refine .list ⟨?_, ?_, isField_channels.spells hchannels⟩ hinner
    · rw [isField_subject.keeps (by decide) isField_channels.mem hchannels,
        isField_subject.keeps (by decide) isField_expiry.mem hexpiry]
      exact isField_subject.spells hsubject
    · rw [isField_expiry.keeps (by decide) isField_channels.mem hchannels]
      exact isField_expiry.spells hexpiry

theorem spellsRecord_of_spellsClaims (h : SpellsClaims claims token) :
    Record.SpellsRecord record SpellsClaim claims token := by
  cases h with
  | object hvalues hmembers hothers hobject =>
    obtain ⟨whole, hadds, hseen, rfl⟩ := hmembers.exists_adds hvalues hothers
    exact .object hadds hseen hobject
  | list hvalues hinner =>
    exact .list (.cons (.subject rfl hvalues.subject) (.cons (.expiry rfl hvalues.expiry)
      (.cons (.channels (by decide) (by decide) hvalues.channels) .nil))) hinner

theorem spells_of_parse (h : parse text = .ok claims) : claims.Spells text := by
  obtain ⟨before, token, after, hbefore, hafter, htoken, htext⟩ :=
    Record.exists_of_parse readsOnly_readClaim h
  exact ⟨before, token, after, hbefore, hafter, spellsClaims_of_spellsRecord htoken, htext⟩

/-- A text holds claims exactly if it spells them. -/
theorem parse_iff_spells : parse text = .ok claims ↔ claims.Spells text := by
  constructor
  · exact spells_of_parse
  · rintro ⟨before, token, after, hbefore, hafter, htoken, rfl⟩
    exact Record.parse_append readsAll_readClaim SpellsClaim.begins hbefore hafter
      (spellsRecord_of_spellsClaims htoken)

end TokenService.Claims
