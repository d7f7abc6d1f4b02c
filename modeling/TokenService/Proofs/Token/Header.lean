import TokenService.Proofs.Token.WebKey
import TokenService.Token.Header

/-!
# The texts that hold a header

A header is spelled by an object that names an algorithm and has every other field at most once,
among members of any well-formed values, or by a list of the values of all fields (`SpellsHeader`).
A field holds `null` or a value of its kind (`SpellsField`). A text holds a header with an algorithm
exactly if it spells one between blanks (`parse_eq_ok_iff_spells`), and then it spells no other
(`Spells.unique`).
-/

set_option autoImplicit false
set_option relaxedAutoImplicit false

namespace TokenService.Token

open Json

variable {algorithm other : Algorithm} {bytes rest token : Bytes}

/-! ### Algorithms -/

theorem ofName?_eq_some_iff {name : String} :
    Algorithm.ofName? name = some algorithm ↔ name = algorithm.name := by
  constructor
  · intro h
    have hname := List.find?_some h
    rw [decide_eq_true_eq] at hname
    exact hname.symm
  · rintro rfl
    cases algorithm <;> rfl

theorem algorithmOf_iff {name : String} {left : Bytes} :
    algorithmOf name bytes = .ok (algorithm, left) ↔ name = algorithm.name ∧ bytes = left := by
  rw [← ofName?_eq_some_iff]
  unfold algorithmOf
  grind

/-- The spellings of an algorithm: its name, or an object whose one key is the name and whose value
is `null`. -/
inductive SpellsAlgorithm (algorithm : Algorithm) : Bytes → Prop
  | text {token : Bytes} (htoken : SpellsText algorithm.name token) :
      SpellsAlgorithm algorithm token
  | tagged {token : Bytes} (htoken : SpellsObject [(algorithm.name, asciiBytes "null")] token) :
      SpellsAlgorithm algorithm token

theorem readAlgorithmKey_iff : readAlgorithmKey bytes = .ok (algorithm, rest) ↔
    nextMember true bytes = .ok (.key algorithm.name rest) := by
  rw [nextMember_first_iff]
  have hname := @algorithmOf_iff algorithm
  unfold readAlgorithmKey
  grind

theorem readNothing_iff : readNothing bytes = .ok ((), rest) ↔
    ∃ blanks, Blanks blanks ∧ bytes = blanks ++ (asciiBytes "null" ++ rest) := by
  have hstart : readNothing bytes = .ok ((), rest) ↔
      skipBlanks bytes = ascii 'n' :: (asciiBytes "ull" ++ rest) := by
    have hletters := @readLetters_iff
    unfold readNothing
    grind
  rw [hstart, skipBlanks_eq_cons_iff, and_iff_right (by decide)]
  rfl

theorem readsAll_readNothing : ReadsAll readNothing fun _ token ↦ token = asciiBytes "null" := by
  rintro blanks _ rest _ hblanks rfl -
  exact readNothing_iff.mpr ⟨blanks, hblanks, rfl⟩

theorem readsOnly_readNothing : ReadsOnly readNothing fun _ token ↦ token = asciiBytes "null" := by
  intro bytes rest _ h
  obtain ⟨blanks, hblanks, hbytes⟩ := readNothing_iff.mp h
  exact ⟨blanks, _, hblanks, rfl, hbytes⟩

theorem readTaggedAlgorithm_iff : readTaggedAlgorithm bytes = .ok (algorithm, rest) ↔
    ∃ afterKey afterValue, nextMember true bytes = .ok (.key algorithm.name afterKey) ∧
      readMember readNothing afterKey = .ok ((), afterValue) ∧
        nextMember false afterValue = .ok (.last rest) := by
  simp only [← readAlgorithmKey_iff, nextMember_last_iff]
  unfold readTaggedAlgorithm
  grind

theorem readAlgorithm_iff : readAlgorithm bytes = .ok (algorithm, rest) ↔
    readText bytes = .ok (algorithm.name, rest) ∨
      ∃ others, skipBlanks bytes = ascii '\x7b' :: others ∧
        readTaggedAlgorithm others = .ok (algorithm, rest) := by
  have hname := @algorithmOf_iff
  have hquote : quoteMark ≠ ascii '\x7b' := by decide
  unfold readAlgorithm readText
  grind

theorem readsOnly_readAlgorithm : ReadsOnly readAlgorithm SpellsAlgorithm := by
  intro bytes rest algorithm h
  rcases readAlgorithm_iff.mp h with htext | ⟨others, hopen, htagged⟩
  · obtain ⟨blanks, token, hblanks, htoken, hbytes⟩ := readsOnly_readText htext
    exact ⟨blanks, token, hblanks, .text htoken, hbytes⟩
  · obtain ⟨-, blanks, hblanks, rfl⟩ := skipBlanks_eq_cons_iff.mp hopen
    obtain ⟨afterKey, afterValue, hkey, hvalue, hend⟩ := readTaggedAlgorithm_iff.mp htagged
    obtain ⟨front, key, hfront, hname, rfl⟩ := exists_of_nextMember hkey
    obtain ⟨before, after, _, hbefore, hafter, rfl, rfl⟩ :=
      exists_of_readMember readsOnly_readNothing hvalue
    obtain ⟨behind, hbehind, rfl⟩ := exists_of_nextMember_last hend
    exact ⟨blanks, _, hblanks, .tagged ⟨_, _,
      .cons ⟨⟨key, before, after, _, hbefore, hafter⟩, hname, rfl, rfl⟩ .nil,
      .cons hfront (.nil hbehind), rfl⟩, by simp [Entry.text]⟩

theorem readsAll_readAlgorithm : ReadsAll readAlgorithm SpellsAlgorithm := by
  intro blanks token rest algorithm hblanks htoken hrest
  cases htoken with
  | text htoken => exact readAlgorithm_iff.mpr (Or.inl (readsAll_readText hblanks htoken hrest))
  | tagged htoken =>
    obtain ⟨parts, inner, hparts, hinner, rfl⟩ := htoken
    cases hparts with
    | cons hpart hparts =>
    cases hparts
    obtain ⟨⟨key, before, after, value, hbefore, hafter⟩, hname, rfl, rfl⟩ := hpart
    cases hinner with
    | cons hfront hbehind =>
    cases hbehind with
    | nil hbehind =>
    have hends : EndsNumber (ascii '\x7d' :: rest) := ⟨rfl, rfl⟩
    simp only [Entry.text, List.append_assoc, List.cons_append, List.nil_append]
    refine readAlgorithm_iff.mpr (Or.inr ⟨_, skipBlanks_append_cons hblanks rfl _, ?_⟩)
    exact readTaggedAlgorithm_iff.mpr ⟨_, _, nextMember_append hfront hname _,
      readMember_append readsAll_readNothing hbefore hafter rfl (hends.of_blanks hbehind),
      nextMember_end false hbehind rest⟩

theorem SpellsAlgorithm.begins (h : SpellsAlgorithm algorithm token) : Begins token := by
  cases h with
  | text htoken => exact htoken.begins
  | tagged htoken =>
    obtain ⟨parts, inner, -, -, rfl⟩ := htoken
    exact ⟨_, _, rfl, rfl, by decide⟩

/-! ### Fields -/

namespace Header

/-- The spellings of the value of a field, where the one algorithm there can be is given. -/
inductive SpellsField (algorithm : Algorithm) (name : String) : Bytes → Prop
  | algorithm {token : Bytes} (hname : name = "alg") (htoken : SpellsAlgorithm algorithm token) :
      SpellsField algorithm name token
  | null (hname : name ≠ "alg") : SpellsField algorithm name (asciiBytes "null")
  | chain {texts : List String} {token : Bytes} (hname : name = "x5c")
      (htoken : SpellsList SpellsText texts token) : SpellsField algorithm name token
  | key {token : Bytes} (hname : name = "jwk") (htoken : SpellsWebKey token) :
      SpellsField algorithm name token
  | text {text : String} {token : Bytes} (hname : name ∉ ["alg", "x5c", "jwk"])
      (htoken : SpellsText text token) : SpellsField algorithm name token

variable {state changed : Header} {name : String}

theorem SpellsField.begins (h : SpellsField algorithm name token) : Begins token := by
  cases h with
  | algorithm _ htoken => exact htoken.begins
  | null => exact ⟨_, _, rfl, rfl, by decide⟩
  | chain _ htoken => exact htoken.begins
  | key _ htoken => exact htoken.opens.1
  | text _ htoken => exact htoken.begins

/-- The fields beside the algorithm do not depend on it. -/
theorem SpellsField.of_ne (hname : name ≠ "alg") (h : SpellsField algorithm name token) :
    SpellsField other name token := by
  cases h with
  | algorithm halgorithm => exact absurd halgorithm hname
  | null => exact .null hname
  | chain hchain htoken => exact .chain hchain htoken
  | key hkey htoken => exact .key hkey htoken
  | text htext htoken => exact .text htext htoken

theorem spellsField_algorithm_iff :
    SpellsField algorithm "alg" token ↔ SpellsAlgorithm algorithm token := by
  constructor
  · intro h
    cases h with
    | algorithm _ htoken => exact htoken
    | null hname => exact absurd rfl hname
    | chain hname => exact absurd hname (by decide)
    | key hname => exact absurd hname (by decide)
    | text hname => exact absurd hname (by decide)
  · exact .algorithm rfl

/-- What the value of a field makes of a header. -/
def SpellsChange (state : Header) (name : String) (changed : Header) (token : Bytes) : Prop :=
  ∃ algorithm, SpellsField algorithm name token ∧
    changed = if name = "alg" then ⟨some algorithm⟩ else state

theorem readHint_iff {α : Type} {read : Bytes → Reading α} :
    state.readHint read bytes = .ok (changed, rest) ↔
      changed = state ∧ ∃ value, readOptional read bytes = .ok (value, rest) := by
  unfold readHint
  grind

section Hints

variable {α : Type} {read : Bytes → Reading α} {Spells : α → Bytes → Prop}

theorem readsOnly_readHint (hname : name ≠ "alg") (honly : ReadsOnly read Spells)
    (hfield : ∀ {value token}, Spells value token → SpellsField .hs256 name token) :
    ReadsOnly (state.readHint read) (SpellsChange state name) := by
  intro bytes rest changed h
  obtain ⟨rfl, value, hread⟩ := readHint_iff.mp h
  obtain ⟨blanks, token, hblanks, htoken, hbytes⟩ := readsOnly_readOptional honly hread
  refine ⟨blanks, token, hblanks, ⟨.hs256, ?_, (if_neg hname).symm⟩, hbytes⟩
  cases htoken with
  | none => exact .null hname
  | some htoken => exact hfield htoken

theorem readHint_append (hall : ReadsAll read Spells)
    (hopens : ∀ {value token}, Spells value token → Opens token)
    {blanks : Bytes} (hblanks : Blanks blanks) {value : Option α}
    (htoken : SpellsOptional Spells value token) (hrest : EndsNumber rest) :
    state.readHint read (blanks ++ (token ++ rest)) = .ok (state, rest) :=
  readHint_iff.mpr ⟨rfl, value, readsAll_readOptional hall hopens hblanks htoken hrest⟩

end Hints

theorem readsOnly_readField (state : Header) (name : String) :
    ReadsOnly (state.readField name) (SpellsChange state name) := by
  intro bytes rest changed h
  unfold readField at h
  split_ifs at h with halgorithm hchain hkey
  · split at h
    · cases h
    next algorithm left hread =>
    rw [Except.ok.injEq, Prod.mk.injEq] at h
    rw [h.2] at hread
    obtain ⟨blanks, token, hblanks, htoken, hbytes⟩ := readsOnly_readAlgorithm hread
    exact ⟨blanks, token, hblanks,
      ⟨algorithm, .algorithm halgorithm htoken, by rw [if_pos halgorithm, h.1]⟩, hbytes⟩
  · exact readsOnly_readHint halgorithm readsOnly_readTextList (.chain hchain) h
  · exact readsOnly_readHint halgorithm readsOnly_readWebKey (.key hkey) h
  · exact readsOnly_readHint halgorithm readsOnly_readText
      (.text (by simp [halgorithm, hchain, hkey])) h

theorem readsAll_readField (state : Header) (name : String) :
    ReadsAll (state.readField name) (SpellsChange state name) := by
  rintro blanks token rest changed hblanks ⟨algorithm, htoken, rfl⟩ hrest
  have hchains : ∀ {texts part}, SpellsOptional (SpellsList SpellsText) texts part →
      state.readHint readTextList (blanks ++ (part ++ rest)) = .ok (state, rest) := fun hpart ↦
    readHint_append readsAll_readTextList SpellsList.opens hblanks hpart hrest
  have hkeys : ∀ {unit part}, SpellsOptional (fun (_ : Unit) token ↦ SpellsWebKey token) unit part →
      state.readHint readWebKey (blanks ++ (part ++ rest)) = .ok (state, rest) := fun hpart ↦
    readHint_append readsAll_readWebKey SpellsWebKey.opens hblanks hpart hrest
  have htexts : ∀ {text part}, SpellsOptional SpellsText text part →
      state.readHint readText (blanks ++ (part ++ rest)) = .ok (state, rest) := fun hpart ↦
    readHint_append readsAll_readText SpellsText.opens hblanks hpart hrest
  unfold readField
  cases htoken with
  | algorithm hname htoken =>
    rw [if_pos hname, if_pos hname, readsAll_readAlgorithm hblanks htoken hrest]
  | null hname =>
    rw [if_neg hname, if_neg hname]
    split_ifs
    · exact hchains .none
    · exact hkeys .none
    · exact htexts .none
  | chain hname htoken =>
    subst hname
    rw [if_neg (by decide), if_pos rfl, if_neg (by decide)]
    exact hchains (.some htoken)
  | key hname htoken =>
    subst hname
    rw [if_neg (by decide), if_neg (by decide), if_pos rfl, if_neg (by decide)]
    exact @hkeys (some ()) _ (.some htoken)
  | text hname htoken =>
    simp only [List.mem_cons, List.not_mem_nil, or_false, not_or] at hname
    obtain ⟨halgorithm, hchain, hkey⟩ := hname
    rw [if_neg halgorithm, if_neg hchain, if_neg hkey, if_neg halgorithm]
    exact htexts (.some htoken)

/-! ### Headers -/

/-- The spellings of a header that names an algorithm. The members of an object may be in any order,
and those of other names may be repeated. -/
inductive SpellsHeader (algorithm : Algorithm) : Bytes → Prop
  | object {members : List (String × Bytes)} {token : Bytes}
      (honce : ∀ name ∈ names, (valuesOf name members).length ≤ 1)
      (halgorithm : valuesOf "alg" members ≠ [])
      (hfields : ∀ member ∈ members, member.1 ∈ names → SpellsField algorithm member.1 member.2)
      (hothers : ∀ member ∈ members, member.1 ∉ names → IsValue member.2)
      (hobject : SpellsObject members token) : SpellsHeader algorithm token
  | list {parts : List Bytes} {inner : Bytes}
      (hparts : List.Forall₂ (SpellsField algorithm) names parts)
      (hinner : Separated true parts inner) :
      SpellsHeader algorithm (ascii '[' :: (inner ++ [ascii ']']))

/-- The text spells a header that names the algorithm, and holds nothing else but blanks around
it. -/
def Spells (algorithm : Algorithm) (text : Bytes) : Prop :=
  ∃ before token after, Blanks before ∧ Blanks after ∧ SpellsHeader algorithm token ∧
    text = before ++ (token ++ after)

theorem isField_algorithm : Record.IsField record SpellsChange "alg" Header.algorithm
    fun named token ↦ ∃ algorithm, named = some algorithm ∧ SpellsAlgorithm algorithm token where
  mem := by simp [record, names]
  spells h := by
    obtain ⟨algorithm, hfield, rfl⟩ := h
    exact ⟨algorithm, rfl, spellsField_algorithm_iff.mp hfield⟩
  keeps hother _ h := by
    obtain ⟨algorithm, -, rfl⟩ := h
    rw [if_neg hother]

section Members

variable {members : List (String × Bytes)} {whole : Draft Header}

/-- The one member that names an algorithm settles which one a header has. -/
theorem exists_of_adds (hadds : Record.Adds record SpellsChange ⟨[], record.start⟩ members whole)
    (hseen : "alg" ∈ whole.seen) :
    ∃ algorithm token, whole.value = ⟨some algorithm⟩ ∧ valuesOf "alg" members = [token] ∧
      SpellsAlgorithm algorithm token := by
  obtain ⟨token, hvalues, algorithm, hwhole, htoken⟩ :=
    hadds.exists_valuesOf isField_algorithm List.not_mem_nil hseen
  exact ⟨algorithm, token, congrArg Header.mk hwhole, hvalues, htoken⟩

theorem spellsHeader_of_adds
    (hadds : Record.Adds record SpellsChange ⟨[], record.start⟩ members whole)
    (hseen : "alg" ∈ whole.seen) (hobject : SpellsObject members token) :
    ∃ algorithm, whole.value = ⟨some algorithm⟩ ∧ SpellsHeader algorithm token := by
  obtain ⟨algorithm, part, hwhole, hvalues, hpart⟩ := exists_of_adds hadds hseen
  refine ⟨algorithm, hwhole, .object hadds.unrepeated.once (by simp [hvalues]) ?_ hadds.isValue
    hobject⟩
  rintro ⟨name, value⟩ hmember hname
  obtain ⟨state, changed, other, hfield, -⟩ := hadds.exists_spells _ hmember hname
  by_cases halgorithm : name = "alg"
  · subst halgorithm
    rw [← mem_valuesOf_iff, hvalues, List.mem_singleton] at hmember
    exact .algorithm rfl (hmember ▸ hpart)
  · exact hfield.of_ne halgorithm

theorem exists_adds_of_fields (honce : ∀ name ∈ names, (valuesOf name members).length ≤ 1)
    (halgorithm : valuesOf "alg" members ≠ [])
    (hfields : ∀ member ∈ members, member.1 ∈ names → SpellsField algorithm member.1 member.2)
    (hothers : ∀ member ∈ members, member.1 ∉ names → IsValue member.2) :
    ∃ whole : Draft Header, Record.Adds record SpellsChange ⟨[], record.start⟩ members whole ∧
      "alg" ∈ whole.seen ∧ whole.value = ⟨some algorithm⟩ := by
  obtain ⟨whole, hadds⟩ := @Record.exists_adds _ record SpellsChange ⟨[], record.start⟩ members
    ⟨fun _ _ ↦ nofun, honce⟩
    (fun member hmember hname state ↦ ⟨_, algorithm, hfields member hmember hname, rfl⟩) hothers
  have hseen : "alg" ∈ whole.seen := hadds.mem_seen isField_algorithm.mem (Or.inr halgorithm)
  obtain ⟨other, token, hwhole, hvalues, htoken⟩ := exists_of_adds hadds hseen
  have hmember : ("alg", token) ∈ members := by
    rw [← mem_valuesOf_iff, hvalues]
    exact List.mem_singleton_self token
  have hnamed := spellsField_algorithm_iff.mp (hfields _ hmember isField_algorithm.mem)
  rw [readsAll_readAlgorithm.unique htoken hnamed] at hwhole
  exact ⟨whole, hadds, hseen, hwhole⟩

end Members

section Elements

variable {fields : List String} {parts : List Bytes} {start value : Header}

theorem addsEach_of_forall₂ (h : List.Forall₂ (SpellsField algorithm) fields parts)
    (start : Header) :
    Record.AddsEach SpellsChange fields start parts
      (if "alg" ∈ fields then ⟨some algorithm⟩ else start) := by
  induction h generalizing start with
  | nil => exact .nil
  | @cons name part fields parts hpart _ ih =>
    refine .cons ⟨algorithm, hpart, rfl⟩ ?_
    have hmore := ih (if name = "alg" then ⟨some algorithm⟩ else start)
    by_cases hname : name = "alg"
    · simpa [hname] using hmore
    · simpa [hname, Ne.symm hname] using hmore

theorem exists_algorithm_of_addsEach (h : Record.AddsEach SpellsChange fields start parts value)
    (hset : "alg" ∈ fields ∨ ∃ algorithm, start = ⟨some algorithm⟩) :
    ∃ algorithm, value = ⟨some algorithm⟩ := by
  induction h with
  | nil => exact hset.resolve_left List.not_mem_nil
  | @cons fields name parts part start changed value hpart _ ih =>
    obtain ⟨algorithm, -, rfl⟩ := hpart
    by_cases hname : name = "alg"
    · exact ih (Or.inr ⟨algorithm, if_pos hname⟩)
    · rw [if_neg hname] at ih
      exact ih (hset.imp_left fun hmem ↦ (List.mem_cons.mp hmem).resolve_left (Ne.symm hname))

/-- A list of fields without the algorithm leaves a header as it is, and spells those of a header
with any algorithm. -/
theorem forall₂_of_addsEach (h : Record.AddsEach SpellsChange fields start parts value)
    (hfields : fields.Nodup) (halgorithm : "alg" ∈ fields → value = ⟨some algorithm⟩) :
    List.Forall₂ (SpellsField algorithm) fields parts ∧ ("alg" ∉ fields → value = start) := by
  induction h with
  | nil => exact ⟨.nil, fun _ ↦ rfl⟩
  | @cons fields name parts part start changed value hpart hmore ih =>
    obtain ⟨hname, hfields⟩ := List.nodup_cons.mp hfields
    obtain ⟨hparts, hkept⟩ := ih hfields fun hmem ↦ halgorithm (List.mem_cons_of_mem name hmem)
    obtain ⟨other, hfield, rfl⟩ := hpart
    by_cases hsame : name = "alg"
    · subst hsame
      rw [halgorithm List.mem_cons_self, if_pos rfl] at hkept
      have hother := hkept hname
      rw [Header.mk.injEq, Option.some.injEq] at hother
      exact ⟨.cons (hother ▸ hfield) hparts, fun hnone ↦ absurd List.mem_cons_self hnone⟩
    · refine ⟨.cons (hfield.of_ne hsame) hparts, fun hnone ↦ ?_⟩
      rw [hkept fun hmem ↦ hnone (List.mem_cons_of_mem name hmem), if_neg hsame]

end Elements

theorem spellsHeader_of_spellsRecord {header : Header}
    (h : Record.SpellsRecord record SpellsChange header token) :
    ∃ algorithm, header = ⟨some algorithm⟩ ∧ SpellsHeader algorithm token := by
  cases h with
  | object hadds hrequired hobject =>
    exact spellsHeader_of_adds hadds (hrequired "alg" (by simp [record])) hobject
  | list hparts hinner =>
    obtain ⟨algorithm, rfl⟩ := exists_algorithm_of_addsEach hparts (Or.inl isField_algorithm.mem)
    exact ⟨algorithm, rfl,
      .list (forall₂_of_addsEach hparts (by decide) fun _ ↦ rfl).1 hinner⟩

theorem spellsRecord_of_spellsHeader (h : SpellsHeader algorithm token) :
    Record.SpellsRecord record SpellsChange ⟨some algorithm⟩ token := by
  cases h with
  | object honce halgorithm hfields hothers hobject =>
    obtain ⟨whole, hadds, hseen, hwhole⟩ := exists_adds_of_fields honce halgorithm hfields hothers
    rw [← hwhole]
    exact .object hadds (List.forall_mem_singleton.mpr hseen) hobject
  | list hparts hinner => exact .list (addsEach_of_forall₂ hparts record.start) hinner

theorem exists_spells_of_parse {text : Bytes} {header : Header} (h : parse text = .ok header) :
    ∃ algorithm, header = ⟨some algorithm⟩ ∧ Spells algorithm text := by
  obtain ⟨before, token, after, hbefore, hafter, htoken, htext⟩ :=
    Record.exists_of_parse readsOnly_readField h
  obtain ⟨algorithm, hheader, htoken⟩ := spellsHeader_of_spellsRecord htoken
  exact ⟨algorithm, hheader, before, token, after, hbefore, hafter, htoken, htext⟩

theorem parse_of_spells {text : Bytes} (h : Spells algorithm text) :
    parse text = .ok ⟨some algorithm⟩ := by
  obtain ⟨before, token, after, hbefore, hafter, htoken, rfl⟩ := h
  refine Record.parse_append readsAll_readField ?_ hbefore hafter
    (spellsRecord_of_spellsHeader htoken)
  rintro state name changed token ⟨algorithm, hfield, -⟩
  exact hfield.begins

/-- A text holds a header that names an algorithm exactly if it spells one. -/
theorem parse_eq_ok_iff_spells {text : Bytes} :
    parse text = .ok ⟨some algorithm⟩ ↔ Spells algorithm text := by
  refine ⟨fun h ↦ ?_, parse_of_spells⟩
  obtain ⟨named, hnamed, hspells⟩ := exists_spells_of_parse h
  rw [Header.mk.injEq, Option.some.injEq] at hnamed
  rwa [hnamed]

/-- A text spells no two algorithms. -/
theorem Spells.unique {text : Bytes} (h : Spells algorithm text) (hother : Spells other text) :
    algorithm = other := by
  have hparse := parse_of_spells h
  rw [parse_of_spells hother, Except.ok.injEq, Header.mk.injEq, Option.some.injEq] at hparse
  exact hparse.symm

/-- A text of which nothing can be read spells no algorithm. -/
theorem parse_error_iff {text : Bytes} :
    (∃ diagnostic, parse text = .error diagnostic) ↔ ∀ algorithm, ¬Spells algorithm text := by
  constructor
  · rintro ⟨diagnostic, hnone⟩ algorithm h
    rw [parse_of_spells h] at hnone
    cases hnone
  · intro h
    cases hparse : parse text with
    | error diagnostic => exact ⟨diagnostic, rfl⟩
    | ok header =>
      obtain ⟨algorithm, -, hspells⟩ := exists_spells_of_parse hparse
      exact absurd hspells (h algorithm)

end Header

end TokenService.Token
