import TokenService.Http.Target

/-!
# Spellings of a target

A path and a query are written one after the other, behind nothing or behind a scheme and an
authority (`IsFront`), and before nothing or before a fragment (`IsTail`). `parse` gives back the
two of every such target that is not too long (`parse_append`): each part ends where the next one
begins, since the byte there cannot continue it (`Stops`).
-/

set_option autoImplicit false
set_option relaxedAutoImplicit false

namespace TokenService.Http.Target

/-- What may stand before a path: nothing, or a scheme, its sign and an authority. -/
inductive IsFront : Bytes → Prop
  | nothing : IsFront []
  | authority {scheme authority : Bytes} (hscheme : ∀ byte ∈ scheme, isSchemeByte byte = true)
      (hlength : scheme.length ≤ longestScheme)
      (hauthority : ∀ byte ∈ authority, continuesAuthority byte = true) (hne : authority ≠ [])
      (hcheck : checkAuthority authority = .ok ()) :
      IsFront (scheme ++ (asciiBytes "://" ++ authority))

/-- What may stand behind a query: nothing, or a fragment, which is not looked at. -/
inductive IsFragment : Bytes → Prop
  | nothing : IsFragment []
  | marked (rest : Bytes) : IsFragment (fragmentMark :: rest)

/-- What may stand behind a path, by the query that it holds. A query that is empty may be left out
with its mark. -/
inductive IsTail : (query tail : Bytes) → Prop
  | unmarked {fragment : Bytes} (hfragment : IsFragment fragment) : IsTail [] fragment
  | marked (query : Bytes) {fragment : Bytes} (hfragment : IsFragment fragment) :
      IsTail query (queryMark :: (query ++ fragment))

/-! ### Where a part ends -/

/-- Bytes that do not go on with what keeps others together. -/
def Stops (keeps : UInt8 → Bool) (rest : Bytes) : Prop :=
  ∀ byte, rest.head? = some byte → keeps byte = false

section Parts

variable {keeps : UInt8 → Bool} {front rest : Bytes}

theorem stops_cons {byte : UInt8} (h : keeps byte = false) (rest : Bytes) :
    Stops keeps (byte :: rest) := by
  intro other hother
  rwa [← Option.some.inj hother]

variable (hfront : ∀ byte ∈ front, keeps byte = true) (hrest : Stops keeps rest)
include hfront hrest

theorem takeWhile_append_of_stops : (front ++ rest).takeWhile keeps = front := by
  rw [List.takeWhile_append_of_pos hfront]
  cases rest with
  | nil => exact List.append_nil front
  | cons byte rest =>
    rw [List.takeWhile_cons_of_neg (Bool.not_eq_true _ ▸ hrest byte rfl), List.append_nil]

theorem dropWhile_append_of_stops : (front ++ rest).dropWhile keeps = rest := by
  rw [List.dropWhile_append_of_pos hfront]
  cases rest with
  | nil => rfl
  | cons byte rest => rw [List.dropWhile_cons_of_neg (Bool.not_eq_true _ ▸ hrest byte rfl)]

end Parts

/-! ### Paths and queries -/

/-- A byte that is kept is none that is not. -/
theorem ne_of_keeps {keeps : UInt8 → Bool} {byte other : UInt8} (h : keeps byte = true)
    (hother : keeps other = false) : byte ≠ other := by
  rintro rfl
  rw [h] at hother
  cases hother

theorem continuesPath_of_isPathByte {byte : UInt8} (h : isPathByte byte = true) :
    continuesPath byte = true := by
  rw [continuesPath, Bool.and_eq_true, decide_eq_true_eq, decide_eq_true_eq]
  exact ⟨ne_of_keeps h (by decide), ne_of_keeps h (by decide)⟩

theorem stops_of_isFragment {keeps : UInt8 → Bool} (h : keeps fragmentMark = false)
    {fragment : Bytes} (hfragment : IsFragment fragment) : Stops keeps fragment := by
  cases hfragment with
  | nothing => exact nofun
  | marked rest => exact stops_cons h rest

section Queries

variable {query tail : Bytes}

theorem stops_of_isTail (htail : IsTail query tail) : Stops continuesPath tail := by
  cases htail with
  | unmarked hfragment => exact stops_of_isFragment (by decide) hfragment
  | marked _ _ => exact stops_cons (by decide) _

variable (hquery : ∀ byte ∈ query, isQueryByte byte = true) (htail : IsTail query tail)
include hquery htail

theorem query?_of_isTail : query? tail = some query := by
  cases htail with
  | unmarked hfragment =>
    cases hfragment with
    | nothing => rfl
    | marked rest => rw [query?, if_neg (by decide)]
  | @marked _ fragment hfragment =>
    have hkeep : ∀ byte ∈ query, decide (byte ≠ fragmentMark) = true :=
      fun byte hbyte ↦ decide_eq_true (ne_of_keeps (hquery byte hbyte) (by decide))
    have hstop : Stops (fun byte ↦ decide (byte ≠ fragmentMark)) fragment :=
      stops_of_isFragment (by decide) hfragment
    rw [query?, if_pos rfl, takeWhile_append_of_stops hkeep hstop]
    dsimp only
    rw [if_pos (List.all_eq_true.mpr hquery)]

theorem ofPath_append {path : Bytes} (hpath : ∀ byte ∈ path, isPathByte byte = true) :
    ofPath (path ++ tail) = .ok ⟨path, query⟩ := by
  have hkeep : ∀ byte ∈ path, continuesPath byte = true :=
    fun byte hbyte ↦ continuesPath_of_isPathByte (hpath byte hbyte)
  rw [ofPath, takeWhile_append_of_stops hkeep (stops_of_isTail htail),
    dropWhile_append_of_stops hkeep (stops_of_isTail htail), if_pos (List.all_eq_true.mpr hpath),
    query?_of_isTail hquery htail]

end Queries

/-! ### Targets -/

/-- An authority is dropped from before a path. -/
theorem ofAuthority_append {authority rest : Bytes}
    (hauthority : ∀ byte ∈ authority, continuesAuthority byte = true) (hne : authority ≠ [])
    (hcheck : checkAuthority authority = .ok ()) {target : Target}
    (htarget : ofPath (slash :: rest) = .ok target) (hpath : target.path ≠ []) :
    ofAuthority (authority ++ slash :: rest) = .ok target := by
  have hstop : Stops continuesAuthority (slash :: rest) := stops_cons (by decide) rest
  have hbytes : (authority ++ slash :: rest).isEmpty = false :=
    List.isEmpty_eq_false_iff.mpr (List.append_ne_nil_of_left_ne_nil hne _)
  have hwhole : authority.isEmpty = false := List.isEmpty_eq_false_iff.mpr hne
  have hroot : target.path.isEmpty = false := List.isEmpty_eq_false_iff.mpr hpath
  rw [ofAuthority, takeWhile_append_of_stops hauthority hstop,
    dropWhile_append_of_stops hauthority hstop, hbytes]
  dsimp only
  rw [hcheck, hwhole, htarget]
  dsimp only
  rw [hroot]
  rfl

/-- A scheme is dropped with its sign. -/
theorem behindScheme?_append {scheme rest : Bytes}
    (hscheme : ∀ byte ∈ scheme, isSchemeByte byte = true) (hlength : scheme.length ≤ longestScheme)
    (hne : rest ≠ []) :
    behindScheme? (scheme ++ (asciiBytes "://" ++ rest)) = some (.ok rest) := by
  have hstop : Stops isSchemeByte (asciiBytes "://" ++ rest) := stops_cons (by decide) _
  have hsign : ((asciiBytes "://").length < (scheme ++ (asciiBytes "://" ++ rest)).length &&
      (asciiBytes "://").isPrefixOf (asciiBytes "://" ++ rest)) = true := by
    have hrest := List.length_pos_iff.mpr hne
    rw [Bool.and_eq_true, decide_eq_true_eq, List.isPrefixOf_iff_prefix, List.length_append,
      List.length_append]
    exact ⟨by omega, List.prefix_append _ _⟩
  rw [behindScheme?, takeWhile_append_of_stops hscheme hstop,
    dropWhile_append_of_stops hscheme hstop, if_pos hsign, if_neg (Nat.not_lt.mpr hlength),
    List.drop_left]

section Parsing

variable {bytes : Bytes} (hlength : bytes.length ≤ greatestLength)
include hlength

theorem parse_of_slash (hhead : bytes.head? = some slash) : parse bytes = ofPath bytes := by
  obtain ⟨rest, rfl⟩ := List.head?_eq_some_iff.mp hhead
  have hasterisk : slash :: rest ≠ asterisk := fun h ↦ absurd (List.cons.inj h).1 (by decide)
  rw [parse, if_neg (Nat.not_lt.mpr hlength), if_neg (by simp), if_neg hasterisk, if_pos hhead]

theorem parse_of_scheme {rest : Bytes} (hslash : slash ∈ bytes) (hhead : bytes.head? ≠ some slash)
    (hbehind : behindScheme? bytes = some (.ok rest)) : parse bytes = ofAuthority rest := by
  have hempty : ¬bytes.isEmpty = true := by
    rw [List.isEmpty_iff]
    exact List.ne_nil_of_mem hslash
  have hasterisk : bytes ≠ asterisk := by
    rintro rfl
    exact absurd hslash (by decide)
  rw [parse, if_neg (Nat.not_lt.mpr hlength), if_neg hempty, if_neg hasterisk, if_neg hhead,
    hbehind]

end Parsing

/-- A path and a query that may be written are what their target is parsed as. -/
theorem parse_append {front rest query tail : Bytes} (hfront : IsFront front)
    (hpath : ∀ byte ∈ slash :: rest, isPathByte byte = true)
    (hquery : ∀ byte ∈ query, isQueryByte byte = true) (htail : IsTail query tail)
    (hlength : (front ++ (slash :: rest ++ tail)).length ≤ greatestLength) :
    parse (front ++ (slash :: rest ++ tail)) = .ok ⟨slash :: rest, query⟩ := by
  have htarget := ofPath_append hquery htail hpath
  cases hfront with
  | nothing =>
    rw [List.nil_append] at hlength ⊢
    rw [parse_of_slash hlength rfl, htarget]
  | @authority scheme authority hscheme hlong hauthority hne hcheck =>
    rw [List.append_assoc, List.append_assoc] at hlength ⊢
    have hbehind := behindScheme?_append hscheme hlong
      (List.append_ne_nil_of_left_ne_nil hne (slash :: rest ++ tail))
    have hhead : (scheme ++ (asciiBytes "://" ++ (authority ++ (slash :: rest ++ tail)))).head? ≠
        some slash := by
      cases scheme with
      | nil => exact fun h ↦ absurd (Option.some.inj h) (by decide)
      | cons byte scheme =>
        exact fun h ↦ ne_of_keeps (hscheme byte List.mem_cons_self) (by decide) (Option.some.inj h)
    have hslash : slash ∈ scheme ++ (asciiBytes "://" ++ (authority ++ (slash :: rest ++ tail))) :=
      List.mem_append_right _ (List.mem_append_left _ (by decide))
    rw [parse_of_scheme hlength hslash hhead hbehind]
    exact ofAuthority_append hauthority hne hcheck htarget (List.cons_ne_nil _ _)

end TokenService.Http.Target
