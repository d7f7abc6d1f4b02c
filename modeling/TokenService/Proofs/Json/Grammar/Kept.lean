import TokenService.Proofs.Json.Grammar.Scalar

/-!
# Values that are kept

The grammar of kept values follows the value: a scalar is spelled as one, and a list or an object by
what it holds, one level of nesting less deep (`SpellsValue`). The reader of a level reads the
spellings of that level and nothing else, if the one of the level below does so
(`readsAll_readValue`, `readsOnly_readValue`), and so for all levels (`readsAll_valueReader`,
`readsOnly_valueReader`). Objects are put together from `SpellsObject`, which keeps the bytes of
each value.
-/

set_option autoImplicit false
set_option relaxedAutoImplicit false

namespace TokenService.Json

variable {bytes rest token : Bytes}

/-! ### Objects -/

section Entries

variable {α : Type} {reader : Consumer α} {Spells : α → Bytes → Prop} {first : Bool}
  {members : List (String × α)} {value : α} {name : String}

/-- The spellings of a member by those of its value. -/
def SpellsEntry (Spells : α → Bytes → Prop) (member : String × α) (entry : String × Bytes) : Prop :=
  member.1 = entry.1 ∧ Spells member.2 entry.2

/-- The spellings of an object by those of its values. -/
def SpellsEntries (Spells : α → Bytes → Prop) (members : List (String × α)) (token : Bytes) :
    Prop :=
  ∃ entries, List.Forall₂ (SpellsEntry Spells) members entries ∧ SpellsObject entries token

theorem readEntries_of_last (hnext : nextMember first bytes = .ok (.last rest)) :
    readEntries reader first bytes = .ok ([], rest) := by
  rw [readEntries]
  grind

theorem readEntries_of_key {afterKey left : Bytes}
    (hnext : nextMember first bytes = .ok (.key name afterKey))
    (hvalue : readMember reader.read afterKey = .ok (value, rest))
    (hmembers : readEntries reader false rest = .ok (members, left)) :
    readEntries reader first bytes = .ok ((name, value) :: members, left) := by
  rw [readEntries]
  grind

theorem exists_of_readEntries (honly : ReadsOnly reader.read Spells)
    (h : readEntries reader first bytes = .ok (members, rest)) :
    ∃ entries parts inner, List.Forall₂ (SpellsEntry Spells) members entries ∧
      List.Forall₂ SpellsMember entries parts ∧ Separated first parts inner ∧
        bytes = inner ++ ascii '\x7d' :: rest := by
  fun_induction readEntries reader first bytes generalizing members with
  | case2 first bytes left hnext =>
    rw [Except.ok.injEq, Prod.mk.injEq] at h
    obtain ⟨blanks, hblanks, rfl⟩ := exists_of_nextMember_last hnext
    exact ⟨[], [], blanks, h.1 ▸ .nil, .nil, .nil hblanks, by rw [h.2]⟩
  | case5 first bytes name afterKey hnext value behind hread others left hmembers ih =>
    rw [Except.ok.injEq, Prod.mk.injEq] at h
    obtain ⟨front, key, hfront, hkey, rfl⟩ := exists_of_nextMember hnext
    obtain ⟨before, after, token, hbefore, hafter, hvalue, rfl⟩ := exists_of_readMember honly hread
    obtain ⟨entries, parts, inner, hentries, hparts, hinner, rfl⟩ := ih (h.2 ▸ hmembers)
    exact ⟨(name, token) :: entries, _, _, h.1 ▸ .cons ⟨rfl, hvalue⟩ hentries,
      .cons ⟨⟨key, before, after, token, hbefore, hafter⟩, hkey, rfl, rfl⟩ hparts,
      .cons hfront hinner, by simp [Entry.text]⟩
  | _ => cases h

theorem readEntries_append (hall : ReadsAll reader.read Spells) {entries : List (String × Bytes)}
    {parts : List Bytes} {inner : Bytes}
    (hentries : List.Forall₂ (SpellsEntry Spells) members entries)
    (hparts : List.Forall₂ SpellsMember entries parts) (hinner : Separated first parts inner)
    (rest : Bytes) :
    readEntries reader first (inner ++ ascii '\x7d' :: rest) = .ok (members, rest) := by
  induction hentries generalizing first parts inner with
  | nil =>
    cases hparts
    cases hinner with
    | nil hblanks => exact readEntries_of_last (nextMember_end first hblanks rest)
  | @cons member entry members entries hentry _ ih =>
    cases hparts with
    | cons hpart hparts =>
      obtain ⟨⟨key, before, after, token, hbefore, hafter⟩, hkey, htoken, rfl⟩ := hpart
      obtain ⟨hname, hvalue⟩ := hentry
      cases hinner with
      | cons hfront hothers =>
        simp only [Entry.text, List.append_assoc, List.cons_append]
        rw [← hname] at hkey
        rw [← htoken] at hvalue
        exact readEntries_of_key (nextMember_append hfront hkey _)
          (readMember_append hall hbefore hafter hvalue (hothers.endsNumber ⟨rfl, rfl⟩))
          (ih hparts hothers)

end Entries

/-! ### Values -/

/-- The spellings of a value with at most so many lists and objects inside each other. -/
def SpellsValue : (depth : Nat) → Value → Bytes → Prop
  | _, .scalar scalar, token => SpellsScalar scalar token
  | 0, _, _ => False
  | depth + 1, .list values, token => SpellsList (SpellsValue depth) values token
  | depth + 1, .object members, token => SpellsEntries (SpellsValue depth) members token

theorem SpellsValue.begins {depth : Nat} {value : Value} (h : SpellsValue depth value token) :
    Begins token := by
  cases value with
  | scalar scalar =>
    rw [SpellsValue] at h
    exact h.isValue.begins
  | list values =>
    cases depth with
    | zero => cases h
    | succ depth => exact SpellsList.begins h
  | object members =>
    cases depth with
    | zero => cases h
    | succ depth =>
      obtain ⟨entries, -, parts, inner, -, -, rfl⟩ := h
      exact ⟨_, _, rfl, rfl, by decide⟩

/-- What a level of nesting reads is a list, an object or a scalar. -/
theorem readValue_cases {inner : Option (Consumer Value)} {value : Value}
    (h : readValue inner bytes = .ok (value, rest)) :
    (∃ reader others values, inner = some reader ∧ skipBlanks bytes = ascii '[' :: others ∧
      readEach reader true others = .ok (values, rest) ∧ value = .list values) ∨
    (∃ reader others members, inner = some reader ∧ skipBlanks bytes = ascii '\x7b' :: others ∧
      readEntries reader true others = .ok (members, rest) ∧ value = .object members) ∨
    ∃ byte others scalar, skipBlanks bytes = byte :: others ∧
      readScalar (byte :: others) = .ok (scalar, rest) ∧ value = .scalar scalar := by
  unfold readValue at h
  grind

/-- A level of nesting reads only its spellings, if the one below does so. -/
theorem readsOnly_readValue {inner : Option (Consumer Value)} {depth : Nat}
    (hinner : ∀ reader ∈ inner, ∃ below, depth = below + 1 ∧
      ReadsOnly reader.read (SpellsValue below)) :
    ReadsOnly (readValue inner) (SpellsValue depth) := by
  intro bytes rest value h
  rcases readValue_cases h with ⟨reader, others, values, rfl, hstart, hread, rfl⟩ |
    ⟨reader, others, members, rfl, hstart, hread, rfl⟩ | ⟨byte, others, scalar, hstart, hread, rfl⟩
  · obtain ⟨below, rfl, honly⟩ := hinner reader rfl
    obtain ⟨-, blanks, hblanks, rfl⟩ := skipBlanks_eq_cons_iff.mp hstart
    obtain ⟨parts, inside, hparts, hinside, rfl⟩ := exists_of_readEach honly hread
    exact ⟨blanks, ascii '[' :: (inside ++ [ascii ']']), hblanks,
      ⟨parts, inside, hparts, hinside, rfl⟩, by simp⟩
  · obtain ⟨below, rfl, honly⟩ := hinner reader rfl
    obtain ⟨-, blanks, hblanks, rfl⟩ := skipBlanks_eq_cons_iff.mp hstart
    obtain ⟨entries, parts, inside, hentries, hparts, hinside, rfl⟩ :=
      exists_of_readEntries honly hread
    exact ⟨blanks, ascii '\x7b' :: (inside ++ [ascii '\x7d']), hblanks,
      ⟨entries, hentries, parts, inside, hparts, hinside, rfl⟩, by simp⟩
  · obtain ⟨-, blanks, hblanks, rfl⟩ := skipBlanks_eq_cons_iff.mp hstart
    obtain ⟨token, htoken, hbytes⟩ := exists_of_readScalar hread
    refine ⟨blanks, token, hblanks, ?_, by rw [hbytes]⟩
    rw [SpellsValue]
    exact htoken

/-- A level of nesting reads all of its spellings, if the one below does so. -/
theorem readsAll_readValue {inner : Option (Consumer Value)} {depth : Nat}
    (hinner : ∀ below, depth = below + 1 → ∃ reader ∈ inner,
      ReadsAll reader.read (SpellsValue below)) :
    ReadsAll (readValue inner) (SpellsValue depth) := by
  intro blanks token rest value hblanks htoken hrest
  cases value with
  | scalar scalar =>
    rw [SpellsValue] at htoken
    have hread := readScalar_append htoken hrest
    have halike := alike_scalar (token ++ rest)
    rw [hread] at halike
    obtain ⟨byte, others, hstart, hblank, hlist, hobject, -⟩ :=
      exists_start_of_skipScalar halike.skipped
    rw [hstart] at hread ⊢
    rw [readValue, skipBlanks_append_cons hblanks hblank]
    dsimp only
    rw [if_neg hlist, if_neg hobject, hread]
  | list values =>
    cases depth with
    | zero => cases htoken
    | succ below =>
      obtain ⟨reader, rfl, hall⟩ := hinner below rfl
      obtain ⟨parts, inside, hparts, hinside, rfl⟩ := htoken
      simp only [List.append_assoc, List.cons_append, List.nil_append]
      rw [readValue, skipBlanks_append_cons hblanks rfl]
      dsimp only
      rw [if_pos rfl, readEach_append hall SpellsValue.begins hparts hinside]
  | object members =>
    cases depth with
    | zero => cases htoken
    | succ below =>
      obtain ⟨reader, rfl, hall⟩ := hinner below rfl
      obtain ⟨entries, hentries, parts, inside, hparts, hinside, rfl⟩ := htoken
      simp only [List.append_assoc, List.cons_append, List.nil_append]
      rw [readValue, skipBlanks_append_cons hblanks rfl]
      dsimp only
      rw [if_neg (by decide), if_pos rfl, readEntries_append hall hentries hparts hinside]

theorem readsOnly_valueReader (depth : Nat) :
    ReadsOnly (valueReader depth).read (SpellsValue depth) := by
  induction depth with
  | zero => exact @readsOnly_readValue none 0 (by simp)
  | succ depth ih =>
    refine @readsOnly_readValue (some (valueReader depth)) (depth + 1) fun reader hreader ↦ ?_
    rw [← Option.mem_some.mp hreader]
    exact ⟨depth, rfl, ih⟩

theorem readsAll_valueReader (depth : Nat) :
    ReadsAll (valueReader depth).read (SpellsValue depth) := by
  induction depth with
  | zero => exact @readsAll_readValue none 0 (by simp)
  | succ depth ih =>
    refine @readsAll_readValue (some (valueReader depth)) (depth + 1) fun below hbelow ↦ ?_
    rw [← Nat.succ.inj hbelow]
    exact ⟨_, rfl, ih⟩

/-! ### Values that may be left open -/

/-- The spellings of `null` or a value. -/
inductive SpellsOptional {α : Type} (Spells : α → Bytes → Prop) : Option α → Bytes → Prop
  | none : SpellsOptional Spells none (asciiBytes "null")
  | some {value : α} {token : Bytes} (htoken : Spells value token) :
      SpellsOptional Spells (some value) token

/-- What a part begins with tells it from `null` as well. -/
def Opens (part : Bytes) : Prop :=
  Begins part ∧ part.head? ≠ some (ascii 'n')

theorem opens_cons {byte : UInt8} (others : Bytes) (hblank : isBlank byte = false)
    (hend : byte ≠ ascii ']') (hnull : byte ≠ ascii 'n') : Opens (byte :: others) :=
  ⟨⟨byte, others, rfl, hblank, hend⟩, fun h ↦ hnull (Option.some.inj h)⟩

theorem SpellsText.opens {text : String} {token : Bytes} (h : SpellsText text token) :
    Opens token := by
  obtain ⟨parts, -, rfl⟩ := h
  exact opens_cons _ rfl (by decide) (by decide)

section Optional

variable {α : Type} {read : Bytes → Reading α} {Spells : α → Bytes → Prop}

theorem SpellsList.opens {values : List α} {token : Bytes} (h : SpellsList Spells values token) :
    Opens token := by
  obtain ⟨parts, inner, -, -, rfl⟩ := h
  exact opens_cons _ rfl (by decide) (by decide)

theorem readsOnly_readOptional (honly : ReadsOnly read Spells) :
    ReadsOnly (readOptional read) (SpellsOptional Spells) := by
  intro bytes rest value h
  unfold readOptional at h
  split at h
  · next hnull =>
    obtain ⟨others, hstart⟩ := List.head?_eq_some_iff.mp hnull
    obtain ⟨-, blanks, hblanks, rfl⟩ := skipBlanks_eq_cons_iff.mp hstart
    rw [hstart, List.tail_cons] at h
    split at h
    · cases h
    next hletters =>
    rw [Except.ok.injEq, Prod.mk.injEq] at h
    refine ⟨blanks, asciiBytes "null", hblanks, h.1 ▸ .none, ?_⟩
    rw [readLetters_iff.mp hletters, h.2]
    rfl
  · split at h
    · cases h
    next hread =>
    rw [Except.ok.injEq, Prod.mk.injEq] at h
    rw [h.2] at hread
    obtain ⟨blanks, token, hblanks, htoken, hbytes⟩ := honly hread
    exact ⟨blanks, token, hblanks, h.1 ▸ .some htoken, hbytes⟩

theorem readsAll_readOptional (hall : ReadsAll read Spells)
    (hopens : ∀ {value token}, Spells value token → Opens token) :
    ReadsAll (readOptional read) (SpellsOptional Spells) := by
  intro blanks token rest value hblanks htoken hrest
  cases htoken with
  | none =>
    have hnull : skipBlanks (blanks ++ (asciiBytes "null" ++ rest)) =
        ascii 'n' :: (asciiBytes "ull" ++ rest) :=
      skipBlanks_append_cons hblanks rfl _
    rw [readOptional, hnull, List.head?_cons, if_pos rfl, List.tail_cons, readLetters_iff.mpr rfl]
  | some htoken =>
    obtain ⟨⟨byte, others, htoken', hblank, -⟩, hfirst⟩ := hopens htoken
    have hskip : skipBlanks (blanks ++ (token ++ rest)) = token ++ rest := by
      rw [htoken', List.cons_append, skipBlanks_append_cons hblanks hblank]
    rw [readOptional, hskip, if_neg, hall hblanks htoken hrest]
    rwa [htoken', List.cons_append, List.head?_cons, ← List.head?_cons, ← htoken']

end Optional

end TokenService.Json
