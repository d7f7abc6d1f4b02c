import TokenService.Proofs.Json.Grammar.Number
import TokenService.Proofs.Json.Grammar.Text
import TokenService.Proofs.Json.Passes

/-!
# Values of the grammar are those that are passed over

What a run over nested values passes over is described from its end: `Closes` gives the bytes of the
lists and objects that are still open, from behind one of their values, and every run is a value
followed by them (`Passes.shape`). Conversely a value of the grammar is passed over part by part,
whatever is open around it (`IsValue.isPassed`). So `skipValue` passes over the values of the
grammar and over nothing else (`exists_of_skipValue`, `skipValue_append`).
-/

set_option autoImplicit false
set_option relaxedAutoImplicit false

namespace TokenService.Json

variable {bytes rest behind token blanks : Bytes} {frames outer : List Frame} {byte : UInt8}

/-! ### Scalars -/

theorem readLetters_iff {letters : List UInt8} :
    readLetters letters bytes = .ok ((), rest) ↔ bytes = letters ++ rest := by
  induction letters generalizing bytes with
  | nil => simp [readLetters]
  | cons letter letters ih =>
    cases bytes with
    | nil => simp [readLetters]
    | cons byte others =>
      rw [readLetters, List.cons_append, List.cons.injEq]
      split
      · next hletter => rw [ih, and_iff_right hletter]
      · next hletter => simp [hletter]

theorem exists_of_skipWord (word letters : String) (hword : word ∈ ["null", "true", "false"])
    (hletters : asciiBytes word = byte :: asciiBytes letters)
    (h : readLetters (asciiBytes letters) bytes = .ok ((), rest)) :
    ∃ token, IsValue token ∧ byte :: bytes = token ++ rest :=
  ⟨asciiBytes word, .word hword, by rw [hletters, readLetters_iff.mp h, List.cons_append]⟩

theorem exists_of_skipSign (sign : Bytes) (hsign : IsSign ['-'] sign)
    (h : skipNumber bytes = .ok ((), rest)) :
    ∃ token, IsValue token ∧ sign ++ bytes = token ++ rest := by
  obtain ⟨digits, fraction, exponent, hdigits, hfraction, hexponent, rfl⟩ := exists_of_skipNumber h
  exact ⟨_, .number (.parts hsign hdigits hfraction hexponent), by simp⟩

theorem exists_of_skipScalar (h : skipScalar bytes = .ok ((), rest)) :
    ∃ token, IsValue token ∧ bytes = token ++ rest := by
  cases bytes with
  | nil => cases h
  | cons byte others =>
    rw [skipScalar] at h
    split_ifs at h with hnull htrue hfalse hminus hdigit hquote
    · exact exists_of_skipWord "null" "ull" (by simp) (by rw [hnull]; rfl) h
    · exact exists_of_skipWord "true" "rue" (by simp) (by rw [htrue]; rfl) h
    · exact exists_of_skipWord "false" "alse" (by simp) (by rw [hfalse]; rfl) h
    · rw [hminus]
      exact exists_of_skipSign [ascii '-'] (Or.inr ⟨'-', by simp, rfl⟩) h
    · exact exists_of_skipSign [] (Or.inl rfl) h
    · obtain ⟨token, htoken, hbytes⟩ := exists_of_skipString h
      exact ⟨token, .string htoken, by rw [hquote, hbytes]⟩

theorem skipScalar_word {word : String} (hword : word ∈ ["null", "true", "false"])
    (rest : Bytes) : skipScalar (asciiBytes word ++ rest) = .ok ((), rest) := by
  simp only [List.mem_cons, List.not_mem_nil, or_false] at hword
  rcases hword with rfl | rfl | rfl
  · exact readLetters_iff.mpr (rfl : _ = asciiBytes "ull" ++ rest)
  · exact readLetters_iff.mpr (rfl : _ = asciiBytes "rue" ++ rest)
  · exact readLetters_iff.mpr (rfl : _ = asciiBytes "alse" ++ rest)

theorem skipScalar_digit (hdigit : isDigit byte = true) (rest : Bytes) :
    skipScalar (byte :: rest) = skipNumber (byte :: rest) := by
  rw [skipScalar, if_neg (ne_ascii_of_isDigit hdigit (by decide)),
    if_neg (ne_ascii_of_isDigit hdigit (by decide)),
    if_neg (ne_ascii_of_isDigit hdigit (by decide)),
    if_neg (ne_ascii_of_isDigit hdigit (by decide)), if_pos hdigit]

theorem skipScalar_number (htoken : IsNumber token) (hrest : EndsNumber rest) :
    skipScalar (token ++ rest) = .ok ((), rest) := by
  cases htoken with
  | @parts sign digits fraction exponent hsign hdigits hfraction hexponent =>
    have hskip := skipNumber_append hrest hdigits hfraction hexponent
    simp only [List.append_assoc]
    rcases hsign with rfl | ⟨mark, hmark, rfl⟩
    · obtain ⟨byte, others, rfl, hbyte, -⟩ := hdigits.exists_eq_cons
      rw [List.nil_append, List.cons_append, skipScalar_digit hbyte]
      exact hskip
    · rw [List.mem_singleton.mp hmark]
      exact hskip

theorem skipScalar_string (htoken : IsString token) (rest : Bytes) :
    skipScalar (token ++ rest) = .ok ((), rest) := by
  obtain ⟨inner, htoken, hinner⟩ := htoken.cons_append rest
  rw [htoken, skipScalar_quoteMark, hinner]

/-- What a scalar begins with. -/
theorem exists_start_of_skipScalar (h : skipScalar bytes = .ok ((), rest)) :
    ∃ byte others, bytes = byte :: others ∧ isBlank byte = false ∧
      byte ≠ ascii '[' ∧ byte ≠ ascii '\x7b' ∧ byte ≠ ascii ']' := by
  cases bytes with
  | nil => cases h
  | cons byte others =>
    refine ⟨byte, others, rfl, ?_, ?_, ?_, ?_⟩
    · by_contra hblank
      simp only [isBlank, Bool.not_eq_false, Bool.or_eq_true, decide_eq_true_eq] at hblank
      rcases hblank with ((rfl | rfl) | rfl) | rfl <;> cases h
    all_goals
      rintro rfl
      cases h

/-! ### Keys -/

theorem skipKey_append {key before : Bytes} (hblanks : Blanks blanks) (hkey : IsString key)
    (hbefore : Blanks before) (rest : Bytes) :
    skipKey (blanks ++ (key ++ (before ++ ascii ':' :: rest))) = .ok ((), rest) := by
  obtain ⟨inner, hinner, hskip⟩ := hkey.cons_append (before ++ ascii ':' :: rest)
  refine skipKey_iff.mpr ⟨inner, before ++ ascii ':' :: rest, ?_, hskip, ?_⟩
  · rw [hinner]
    exact skipBlanks_append_cons hblanks rfl inner
  · exact readColon_iff.mpr (skipBlanks_append_cons hbefore rfl rest)

theorem exists_of_skipKey (h : skipKey bytes = .ok ((), rest)) :
    ∃ blanks key before, Blanks blanks ∧ IsString key ∧ Blanks before ∧
      bytes = blanks ++ (key ++ (before ++ ascii ':' :: rest)) := by
  obtain ⟨others, left, hstart, hstring, hcolon⟩ := skipKey_iff.mp h
  obtain ⟨-, blanks, hblanks, rfl⟩ := skipBlanks_eq_cons_iff.mp hstart
  obtain ⟨-, before, hbefore, rfl⟩ := skipBlanks_eq_cons_iff.mp (readColon_iff.mp hcolon)
  obtain ⟨key, hkey, hothers⟩ := exists_of_skipString hstring
  exact ⟨blanks, key, before, hblanks, hkey, hbefore, by rw [hothers]⟩

/-! ### What is passed over -/

/-- The bytes that close some lists and objects, from behind one of their values to those behind the
outermost. -/
inductive Closes : List Frame → Bytes → Bytes → Prop
  | done {bytes : Bytes} : Closes [] bytes bytes
  | list {outer : List Frame} {values : List Bytes} {inner rest behind : Bytes}
      (hinner : Separated false values inner) (hvalues : ∀ value ∈ values, IsValue value)
      (houter : Closes outer rest behind) :
      Closes (.list :: outer) (inner ++ ascii ']' :: rest) behind
  | object {outer : List Frame} {entries : List Entry} {inner rest behind : Bytes}
      (hinner : Separated false (entries.map Entry.text) inner)
      (hkeys : ∀ entry ∈ entries, IsString entry.key)
      (hvalues : ∀ entry ∈ entries, IsValue entry.value) (houter : Closes outer rest behind) :
      Closes (.object :: outer) (inner ++ ascii '\x7d' :: rest) behind

/-- What a run passes over: a value and what closes the frames, or only the latter. -/
def Shape : Stage → List Frame → Bytes → Bytes → Prop
  | .value, frames, bytes, behind =>
    ∃ blanks token rest, Blanks blanks ∧ IsValue token ∧ bytes = blanks ++ (token ++ rest) ∧
      Closes frames rest behind
  | .ending, frames, bytes, behind => Closes frames bytes behind

theorem Passes.shape {stage : Stage} (h : Passes stage frames bytes behind) :
    Shape stage frames bytes behind := by
  induction h with
  | @emptyList frames bytes inner others behind hopen hclose _ ih =>
    obtain ⟨-, blanks, hblanks, rfl⟩ := skipBlanks_eq_cons_iff.mp hopen
    obtain ⟨-, inside, hinside, rfl⟩ := skipBlanks_eq_cons_iff.mp hclose
    exact ⟨blanks, _, others, hblanks, .list (.nil hinside) (List.forall_mem_nil _), by simp, ih⟩
  | @list frames bytes inner others behind other hopen hfirst _ _ ih =>
    obtain ⟨-, blanks, hblanks, rfl⟩ := skipBlanks_eq_cons_iff.mp hopen
    obtain ⟨-, inside, hinside, rfl⟩ := skipBlanks_eq_cons_iff.mp hfirst
    obtain ⟨more, value, left, hmore, hvalue, hothers, hcloses⟩ := ih
    cases hcloses with
    | @list _ values inner rest _ hinner hvalues houter =>
      refine ⟨blanks, _, rest, hblanks, .list (.cons (.first (hinside.append hmore)) hinner)
        (List.forall_mem_cons.mpr ⟨hvalue, hvalues⟩), ?_, houter⟩
      rw [hothers]
      simp
  | @emptyObject frames bytes inner others behind hopen hclose _ ih =>
    obtain ⟨-, blanks, hblanks, rfl⟩ := skipBlanks_eq_cons_iff.mp hopen
    obtain ⟨-, inside, hinside, rfl⟩ := skipBlanks_eq_cons_iff.mp hclose
    exact ⟨blanks, _, others, hblanks,
      @IsValue.object [] inside (.nil hinside) (List.forall_mem_nil _) (List.forall_mem_nil _),
      by simp, ih⟩
  | @object frames bytes inner others left behind other hopen hfirst _ hskip _ ih =>
    obtain ⟨-, blanks, hblanks, rfl⟩ := skipBlanks_eq_cons_iff.mp hopen
    obtain ⟨-, inside, hinside, rfl⟩ := skipBlanks_eq_cons_iff.mp hfirst
    obtain ⟨more, key, before, hmore, hkey, hbefore, hothers⟩ := exists_of_skipKey hskip
    obtain ⟨after, value, left, hafter, hvalue, rfl, hcloses⟩ := ih
    cases hcloses with
    | @object _ entries inner rest _ hinner hkeys hvalues houter =>
      refine ⟨blanks, _, rest, hblanks,
        @IsValue.object (⟨key, before, after, value, hbefore, hafter⟩ :: entries) _
          (.cons (.first (hinside.append hmore)) hinner) (List.forall_mem_cons.mpr ⟨hkey, hkeys⟩)
          (List.forall_mem_cons.mpr ⟨hvalue, hvalues⟩), ?_, houter⟩
      rw [hothers]
      simp [Entry.text]
  | @scalar frames bytes others left behind byte hstart _ _ hscalar _ ih =>
    obtain ⟨-, blanks, hblanks, rfl⟩ := skipBlanks_eq_cons_iff.mp hstart
    obtain ⟨token, htoken, hothers⟩ := exists_of_skipScalar hscalar
    exact ⟨blanks, token, left, hblanks, htoken, by rw [hothers], ih⟩
  | done => exact .done
  | @nextElement outer bytes others behind hcomma _ ih =>
    obtain ⟨-, before, hbefore, rfl⟩ := skipBlanks_eq_cons_iff.mp hcomma
    obtain ⟨after, value, left, hafter, hvalue, rfl, hcloses⟩ := ih
    cases hcloses with
    | @list _ values inner rest _ hinner hvalues houter =>
      have hall := Closes.list (.cons (.later hbefore hafter) hinner)
        (List.forall_mem_cons.mpr ⟨hvalue, hvalues⟩) houter
      simpa [Shape] using hall
  | @endList outer bytes rest behind hclose _ ih =>
    obtain ⟨-, blanks, hblanks, rfl⟩ := skipBlanks_eq_cons_iff.mp hclose
    exact .list (.nil hblanks) (List.forall_mem_nil _) ih
  | @nextMember outer bytes others left behind hcomma hskip _ ih =>
    obtain ⟨-, front, hfront, rfl⟩ := skipBlanks_eq_cons_iff.mp hcomma
    obtain ⟨more, key, before, hmore, hkey, hbefore, rfl⟩ := exists_of_skipKey hskip
    obtain ⟨after, value, left, hafter, hvalue, rfl, hcloses⟩ := ih
    cases hcloses with
    | @object _ entries inner rest _ hinner hkeys hvalues houter =>
      have hall := @Closes.object _ (⟨key, before, after, value, hbefore, hafter⟩ :: entries) _ _ _
        (.cons (.later hfront hmore) hinner) (List.forall_mem_cons.mpr ⟨hkey, hkeys⟩)
        (List.forall_mem_cons.mpr ⟨hvalue, hvalues⟩) houter
      simpa [Shape, Entry.text] using hall
  | @endObject outer bytes rest behind hclose _ ih =>
    obtain ⟨-, blanks, hblanks, rfl⟩ := skipBlanks_eq_cons_iff.mp hclose
    exact @Closes.object _ [] _ _ _ (.nil hblanks) (List.forall_mem_nil _) (List.forall_mem_nil _)
      ih

/-- What is passed over is a value of the grammar. -/
theorem exists_of_skipValue (h : skipValue bytes = .ok ((), rest)) :
    ∃ blanks token, Blanks blanks ∧ IsValue token ∧ bytes = blanks ++ (token ++ rest) := by
  obtain ⟨blanks, token, left, hblanks, htoken, hbytes, hcloses⟩ := (passes_iff.mpr h).shape
  cases hcloses
  exact ⟨blanks, token, hblanks, htoken, hbytes⟩

/-! ### Values are passed over -/

/-- Bytes that every run passes over as a value. -/
def IsPassed (token : Bytes) : Prop :=
  ∀ {frames : List Frame} {blanks rest behind : Bytes}, Blanks blanks → EndsNumber rest →
    Passes .ending frames rest behind → Passes .value frames (blanks ++ (token ++ rest)) behind

theorem isPassed_of_skipScalar
    (h : ∀ {rest}, EndsNumber rest → skipScalar (token ++ rest) = .ok ((), rest)) :
    IsPassed token := by
  intro frames blanks rest behind hblanks hrest hbehind
  have hscalar := h hrest
  obtain ⟨byte, others, hstart, hblank, hlist, hobject, -⟩ := exists_start_of_skipScalar hscalar
  rw [hstart] at hscalar ⊢
  exact .scalar (by rw [skipBlanks_append hblanks, skipBlanks_cons hblank]) hlist hobject hscalar
    hbehind

theorem begins_of_skipScalar (h : skipScalar (token ++ []) = .ok ((), [])) : Begins token := by
  rw [List.append_nil] at h
  obtain ⟨byte, others, htoken, hblank, -, -, hend⟩ := exists_start_of_skipScalar h
  exact ⟨byte, others, htoken, hblank, hend⟩

theorem IsValue.begins (h : IsValue token) : Begins token := by
  cases h with
  | word hword => exact begins_of_skipScalar (skipScalar_word hword [])
  | number htoken => exact begins_of_skipScalar (skipScalar_number htoken ⟨rfl, rfl⟩)
  | string htoken => exact begins_of_skipScalar (skipScalar_string htoken [])
  | list => exact ⟨_, _, rfl, rfl, by decide⟩
  | object => exact ⟨_, _, rfl, rfl, by decide⟩

theorem passes_elements {values : List Bytes} {inner : Bytes}
    (hinner : Separated false values inner) (hvalues : ∀ value ∈ values, IsPassed value)
    (hbehind : Passes .ending outer rest behind) :
    Passes .ending (.list :: outer) (inner ++ ascii ']' :: rest) behind := by
  generalize hfirst : false = first at hinner
  induction hinner with
  | nil hblanks => exact .endList (skipBlanks_append_cons hblanks rfl rest) hbehind
  | cons hfront hothers ih =>
    cases hfront with
    | first => cases hfirst
    | later hbefore hafter =>
      obtain ⟨hvalue, hvalues⟩ := List.forall_mem_cons.mp hvalues
      have hmore := hvalue hafter (hothers.endsNumber ⟨rfl, rfl⟩) (ih hvalues rfl)
      simp only [List.append_assoc, List.cons_append]
      exact .nextElement (skipBlanks_append_cons hbefore rfl _) hmore

theorem passes_members {entries : List Entry} {inner : Bytes}
    (hinner : Separated false (entries.map Entry.text) inner)
    (hkeys : ∀ entry ∈ entries, IsString entry.key)
    (hvalues : ∀ entry ∈ entries, IsPassed entry.value)
    (hbehind : Passes .ending outer rest behind) :
    Passes .ending (.object :: outer) (inner ++ ascii '\x7d' :: rest) behind := by
  generalize hfirst : false = first at hinner
  generalize hparts : entries.map Entry.text = parts at hinner
  induction hinner generalizing entries with
  | nil hblanks => exact .endObject (skipBlanks_append_cons hblanks rfl rest) hbehind
  | cons hfront hothers ih =>
    obtain ⟨entry, entries, rfl, rfl, rfl⟩ := List.map_eq_cons_iff.mp hparts
    cases hfront with
    | first => cases hfirst
    | later hbefore hafter =>
      obtain ⟨hkey, hkeys⟩ := List.forall_mem_cons.mp hkeys
      obtain ⟨hvalue, hvalues⟩ := List.forall_mem_cons.mp hvalues
      have hmore := hvalue entry.after_blanks (hothers.endsNumber ⟨rfl, rfl⟩)
        (ih hkeys hvalues rfl rfl)
      simp only [Entry.text, List.append_assoc, List.cons_append]
      exact .nextMember (skipBlanks_append_cons hbefore rfl _)
        (skipKey_append hafter hkey entry.before_blanks _) hmore

theorem isPassed_list {values : List Bytes} {inner : Bytes} (hinner : Separated true values inner)
    (hstarts : ∀ value ∈ values, Begins value) (hvalues : ∀ value ∈ values, IsPassed value) :
    IsPassed (ascii '[' :: (inner ++ [ascii ']'])) := by
  intro frames blanks rest behind hblanks hrest hbehind
  cases hinner with
  | nil hinside =>
    simp only [List.cons_append, List.append_assoc, List.nil_append]
    exact .emptyList (skipBlanks_append_cons hblanks rfl _)
      (skipBlanks_append_cons hinside rfl rest) hbehind
  | @cons _ front value others values hfront hothers =>
    cases hfront with
    | first hfront =>
      obtain ⟨hvalue, hvalues⟩ := List.forall_mem_cons.mp hvalues
      have hmore := hvalue .nil (hothers.endsNumber ⟨rfl, rfl⟩)
        (passes_elements hothers hvalues hbehind)
      obtain ⟨byte, left, rfl, hblank, hend⟩ := hstarts value List.mem_cons_self
      simp only [List.append_assoc, List.cons_append, List.nil_append] at hmore ⊢
      exact .list (skipBlanks_append_cons hblanks rfl _)
        (skipBlanks_append_cons hfront hblank _) hend hmore

theorem isPassed_object {entries : List Entry} {inner : Bytes}
    (hinner : Separated true (entries.map Entry.text) inner)
    (hkeys : ∀ entry ∈ entries, IsString entry.key)
    (hvalues : ∀ entry ∈ entries, IsPassed entry.value) :
    IsPassed (ascii '\x7b' :: (inner ++ [ascii '\x7d'])) := by
  intro frames blanks rest behind hblanks hrest hbehind
  generalize hparts : entries.map Entry.text = parts at hinner
  cases hinner with
  | nil hinside =>
    simp only [List.cons_append, List.append_assoc, List.nil_append]
    exact .emptyObject (skipBlanks_append_cons hblanks rfl _)
      (skipBlanks_append_cons hinside rfl rest) hbehind
  | @cons _ front _ others _ hfront hothers =>
    obtain ⟨entry, entries, rfl, rfl, rfl⟩ := List.map_eq_cons_iff.mp hparts
    cases hfront with
    | first hfront =>
      obtain ⟨hkey, hkeys⟩ := List.forall_mem_cons.mp hkeys
      obtain ⟨hvalue, hvalues⟩ := List.forall_mem_cons.mp hvalues
      have hmore := hvalue entry.after_blanks (hothers.endsNumber ⟨rfl, rfl⟩)
        (passes_members hothers hkeys hvalues hbehind)
      generalize hleft : entry.after ++ (entry.value ++ (others ++ ascii '\x7d' :: rest)) = left
        at hmore
      have hskip := skipKey_append .nil hkey entry.before_blanks left
      obtain ⟨inner, hinner, -⟩ := hkey.cons_append (entry.before ++ ascii ':' :: left)
      simp only [Entry.text, List.append_assoc, List.cons_append, List.nil_append, hleft]
        at hskip ⊢
      rw [hinner] at hskip ⊢
      exact .object (skipBlanks_append_cons hblanks rfl _) (skipBlanks_append_cons hfront rfl _)
        (by decide) hskip hmore

/-- A value of the grammar is passed over, whatever is open around it. -/
theorem IsValue.isPassed (h : IsValue token) : IsPassed token := by
  induction h with
  | word hword => exact isPassed_of_skipScalar fun _ ↦ skipScalar_word hword _
  | number htoken => exact isPassed_of_skipScalar (skipScalar_number htoken)
  | string htoken => exact isPassed_of_skipScalar fun _ ↦ skipScalar_string htoken _
  | list hinner hvalues ih =>
    exact isPassed_list hinner (fun value hvalue ↦ (hvalues value hvalue).begins) ih
  | object hinner hkeys _ ih => exact isPassed_object hinner hkeys ih

/-- A value of the grammar is passed over to its end. -/
theorem skipValue_append (hblanks : Blanks blanks) (htoken : IsValue token)
    (hrest : EndsNumber rest) : skipValue (blanks ++ (token ++ rest)) = .ok ((), rest) :=
  passes_iff.mp (htoken.isPassed hblanks hrest .done)

end TokenService.Json
