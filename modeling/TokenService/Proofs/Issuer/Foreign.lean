import TokenService.Proofs.Claims.Grammar
import TokenService.Proofs.Issuer.Refinement
import TokenService.Proofs.Token.Registered.Grammar

/-!
# Tokens of other signers

Whoever holds the secret can make tokens, and need not write a payload as an issuer does. It may put
the claims in any order, spell them in any way and set other members beside them, of which some are
registered: from when the token is valid, who issued it, and for whom it is meant (`StatedBy`). Both
readings of such a payload succeed (`parse_of_statedIn`). So the claims are given out whatever
stands beside them, a start of validity in the future included, unless there is an audience
(`decode_foreign`).
-/

set_option autoImplicit false
set_option relaxedAutoImplicit false

namespace TokenService

open Json Token
open Token.Registered (SpellsAudience)
open Text.Utf8 (encode)

/-! ### Payloads -/

namespace Claims

/-- The members of a payload that states some claims: each of the three once, a start of validity
and an issuer at most once, an audience if one is given, and any others of other names. -/
structure StatedBy (claims : Claims) (audience : Option Bytes) (members : List (String × Bytes)) :
    Prop where
  values : ∃ subject expiry channels, claims.SpellsValues subject expiry channels ∧
    HasMembers members subject expiry channels
  validityOnce : (valuesOf "nbf" members).length ≤ 1
  validity : ∀ token ∈ valuesOf "nbf" members, ∃ moment, SpellsInteger moment token
  issuerOnce : (valuesOf "iss" members).length ≤ 1
  issuer : ∀ token ∈ valuesOf "iss" members, ∃ name, SpellsText name token
  audienceOnce : valuesOf "aud" members = audience.toList
  audience : ∀ token ∈ audience, SpellsAudience token
  others : ∀ member ∈ members,
    member.1 ∉ ["sub", "exp", "channels", "nbf", "iss", "aud"] → IsValue member.2

/-- The payload is an object that states the claims, with nothing but blanks around it. -/
def StatedIn (claims : Claims) (audience : Option Bytes) (payload : Bytes) : Prop :=
  ∃ members before token after, claims.StatedBy audience members ∧ SpellsObject members token ∧
    Blanks before ∧ Blanks after ∧ payload = before ++ (token ++ after)

variable {claims : Claims} {audience : Option Bytes} {members : List (String × Bytes)}
  {payload : Bytes}

section Members

variable (h : claims.StatedBy audience members)
include h

theorem StatedBy.length_valuesOf_le {name : String} (hname : name ∈ Registered.names) :
    (valuesOf name members).length ≤ 1 := by
  obtain ⟨subject, expiry, channels, -, hmembers⟩ := h.values
  simp only [Registered.names, List.mem_cons, List.not_mem_nil, or_false] at hname
  rcases hname with rfl | rfl | rfl | rfl | rfl
  · rw [hmembers.expiry, List.length_singleton]
  · exact h.validityOnce
  · rw [hmembers.subject, List.length_singleton]
  · exact h.issuerOnce
  · rw [h.audienceOnce]
    exact Option.length_toList_le

/-- The registered claims among the members have the values that they are meant to have. -/
theorem StatedBy.exists_spellsClaim {name : String} {token : Bytes}
    (hname : name ∈ Registered.names) (hmember : (name, token) ∈ members) (state : Registered) :
    ∃ changed, Registered.SpellsClaim state name changed token := by
  obtain ⟨subject, expiry, channels, hvalues, hmembers⟩ := h.values
  rw [← mem_valuesOf_iff] at hmember
  simp only [Registered.names, List.mem_cons, List.not_mem_nil, or_false] at hname
  rcases hname with rfl | rfl | rfl | rfl | rfl
  · rw [hmembers.expiry, List.mem_singleton] at hmember
    exact ⟨_, .expiry rfl (hmember ▸ hvalues.expiry)⟩
  · obtain ⟨moment, hmoment⟩ := h.validity token hmember
    exact ⟨_, .validity rfl hmoment⟩
  · rw [hmembers.subject, List.mem_singleton] at hmember
    exact ⟨_, .subject rfl (hmember ▸ hvalues.subject)⟩
  · obtain ⟨issuer, hissuer⟩ := h.issuer token hmember
    exact ⟨_, .issuer rfl hissuer⟩
  · rw [h.audienceOnce, Option.mem_toList] at hmember
    exact ⟨_, .audience rfl (h.audience token hmember)⟩

/-- Whatever is not wanted by one of the two readers is passed over by it. -/
theorem StatedBy.isValue {member : String × Bytes} (hmember : member ∈ members) :
    IsValue member.2 := by
  obtain ⟨name, token⟩ := member
  by_cases hregistered : name ∈ Registered.names
  · obtain ⟨changed, hclaim⟩ := h.exists_spellsClaim hregistered hmember Registered.record.start
    exact hclaim.isValue
  by_cases hchannels : name = "channels"
  · obtain ⟨subject, expiry, channels, hvalues, hmembers⟩ := h.values
    rw [hchannels, ← mem_valuesOf_iff, hmembers.channels, List.mem_singleton] at hmember
    rw [hmember]
    exact hvalues.channels.isValue
  · refine h.others _ hmember fun hknown ↦ ?_
    simp only [Registered.names, List.mem_cons, List.not_mem_nil, or_false, not_or] at hregistered
    simp [hregistered, hchannels] at hknown

end Members

/-- Both readers accept a payload that states claims. The strict one finds the claims, and the
lenient one an audience if it has one. -/
theorem parse_of_statedIn (h : claims.StatedIn audience payload) :
    parse payload = .ok claims ∧ ∃ registered, Registered.parse payload = .ok registered ∧
      registered.hasAudience = audience.isSome := by
  obtain ⟨members, before, token, after, hstated, hobject, hbefore, hafter, rfl⟩ := h
  obtain ⟨subject, expiry, channels, hvalues, hmembers⟩ := hstated.values
  constructor
  · refine parse_iff_spells.mpr ⟨before, token, after, hbefore, hafter, ?_, rfl⟩
    exact .object hvalues hmembers (fun _ hmember _ ↦ hstated.isValue hmember) hobject
  · obtain ⟨registered, hparse, haudience⟩ := Registered.exists_of_members hbefore hafter
      (fun _ hname ↦ hstated.length_valuesOf_le hname)
      (fun _ hmember hname ↦ hstated.exists_spellsClaim hname hmember)
      (fun _ hmember _ ↦ hstated.isValue hmember) hobject
    refine ⟨registered, hparse, ?_⟩
    rw [Bool.eq_iff_iff, haudience, hstated.audienceOnce]
    cases audience <;> simp

end Claims

/-! ### Tokens -/

namespace Issuer

section Stated

variable {issuer : Issuer} {claims : Claims} {audience : Option Bytes} {payload : Bytes}
  (h : claims.StatedIn audience payload)
include h

theorem decode_of_statedIn : issuer.decode (asciiText (issuer.sealed payload).toBytes) =
    if audience.isSome then .error (.malformed .invalidAudience) else .ok claims := by
  obtain ⟨hclaims, registered, hregistered, haudience⟩ := Claims.parse_of_statedIn h
  rw [decode_of_authenticate (authenticate_sealed hclaims hregistered), haudience]

theorem verify_of_statedIn (now : Int) :
    issuer.verify now (asciiText (issuer.sealed payload).toBytes) =
      if claims.expiry < 0 then .error (.malformed (.missingClaim "exp"))
      else if claims.expiry < now then .error .expired
      else if audience.isSome then .error (.malformed .invalidAudience) else .ok claims := by
  obtain ⟨hclaims, registered, hregistered, -⟩ := Claims.parse_of_statedIn h
  rw [verify_of_authenticate (authenticate_sealed hclaims hregistered), decode_of_statedIn h]

end Stated

/-- A payload that states claims without an audience, sealed by whoever holds the secret, is read as
these claims: at any time by `decode`, and by `verify` up to the second of their expiry. With an
audience beside them the claims are given out by neither, and `decode` says that this is why. -/
theorem decode_foreign (issuer : Issuer) (claims : Claims) :
    (∀ payload, claims.StatedIn none payload →
      issuer.decode (asciiText (issuer.sealed payload).toBytes) = .ok claims ∧
      ∀ now, 0 ≤ now → now ≤ claims.expiry →
        issuer.verify now (asciiText (issuer.sealed payload).toBytes) = .ok claims) ∧
    ∀ audience payload, claims.StatedIn (some audience) payload →
      issuer.decode (asciiText (issuer.sealed payload).toBytes) =
        .error (.malformed .invalidAudience) ∧
      ∀ now, issuer.verify now (asciiText (issuer.sealed payload).toBytes) = .error
        (if claims.expiry < 0 then .malformed (.missingClaim "exp")
        else if claims.expiry < now then .expired
        else .malformed .invalidAudience) := by
  refine ⟨fun payload h ↦ ⟨decode_of_statedIn h, fun now hnow hexpiry ↦ ?_⟩,
    fun audience payload h ↦ ⟨decode_of_statedIn h, fun now ↦ ?_⟩⟩
  · rw [verify_of_statedIn h, if_neg (by omega), if_neg (by omega)]
    rfl
  · rw [verify_of_statedIn h]
    split
    · rfl
    split
    · rfl
    · rfl

/-- Another order, an escape in a name, a start of validity in the future, an issuer, and a member
that nobody wants. With an audience the same claims are given out no more, be it an empty one. -/
theorem decode_foreign_respelled :
    let issuer : Issuer := ⟨asciiBytes "secret"⟩
    let claims : Claims := ⟨"ü", 1700000300, ["a"]⟩
    let plain := encode ("\x7b\"nbf\":2000000000,\"channels\":[\"a\"],\"\":[1e999]," ++
      "\"\\u0073ub\":\"ü\",\"iss\":\"\",\"exp\":1700000300\x7d")
    let meant := encode
      "\x7b\"aud\":[],\"channels\":[\"a\"],\"sub\":\"ü\",\"exp\":1700000300\x7d"
    claims.StatedIn none plain ∧
      issuer.decode (asciiText (issuer.sealed plain).toBytes) = .ok claims ∧
      issuer.verify 1700000000 (asciiText (issuer.sealed plain).toBytes) = .ok claims ∧
    claims.StatedIn (some (encode "[]")) meant ∧
      issuer.decode (asciiText (issuer.sealed meant).toBytes) =
        .error (.malformed .invalidAudience) ∧
      issuer.verify 1700000000 (asciiText (issuer.sealed meant).toBytes) =
        .error (.malformed .invalidAudience) := by
  intro issuer claims plain meant
  have hvalues : claims.SpellsValues (encode "\"ü\"") (encode "1700000300") (encode "[\"a\"]") :=
    { subject := readsOnly_readText.spells (by decide +kernel) (by decide +kernel)
      expiry := readsOnly_readInteger.spells (by decide +kernel) (by decide +kernel)
      channels := readsOnly_readTextList.spells (by decide +kernel) (by decide +kernel) }
  have hobject : ∀ (entries : List (String × Bytes × Bytes)) (token : Bytes),
      (∀ entry ∈ entries, skipBlanks entry.2.1 = entry.2.1 ∧
        readText entry.2.1 = .ok (entry.1, [])) →
      token = ascii '\x7b' :: ([ascii ','].intercalate
        (entries.map fun entry ↦ entry.2.1 ++ ascii ':' :: entry.2.2) ++ [ascii '\x7d']) →
      SpellsObject (entries.map fun entry ↦ (entry.1, entry.2.2)) token :=
    fun entries token hkeys ↦ spellsObject_intercalate fun entry hentry ↦
      readsOnly_readText.spells (hkeys entry hentry).1 (hkeys entry hentry).2
  have hplain : claims.StatedIn none plain := by
    refine ⟨_, [], plain, [], ?_, hobject
      [("nbf", encode "\"nbf\"", encode "2000000000"),
        ("channels", encode "\"channels\"", encode "[\"a\"]"),
        ("", encode "\"\"", encode "[1e999]"), ("sub", encode "\"\\u0073ub\"", encode "\"ü\""),
        ("iss", encode "\"iss\"", encode "\"\""), ("exp", encode "\"exp\"", encode "1700000300")]
      plain (by decide +kernel) (by decide +kernel), .nil, .nil, (List.append_nil plain).symm⟩
    exact
      { values := ⟨_, _, _, hvalues, by decide +kernel, by decide +kernel, by decide +kernel⟩
        validityOnce := by decide +kernel
        validity := fun token htoken ↦ ⟨2000000000, readsOnly_readInteger.spells
          (by revert token; decide +kernel) (by revert token; decide +kernel)⟩
        issuerOnce := by decide +kernel
        issuer := fun token htoken ↦ ⟨"", readsOnly_readText.spells
          (by revert token; decide +kernel) (by revert token; decide +kernel)⟩
        audienceOnce := by decide +kernel
        audience := nofun
        others := fun member hmember hname ↦ isValue_of_skipValue
          (by revert member; decide +kernel) (by revert member; decide +kernel) }
  have hmeant : claims.StatedIn (some (encode "[]")) meant := by
    refine ⟨_, [], meant, [], ?_, hobject
      [("aud", encode "\"aud\"", encode "[]"),
        ("channels", encode "\"channels\"", encode "[\"a\"]"),
        ("sub", encode "\"sub\"", encode "\"ü\""), ("exp", encode "\"exp\"", encode "1700000300")]
      meant (by decide +kernel) (by decide +kernel), .nil, .nil, (List.append_nil meant).symm⟩
    have hnames : SpellsList SpellsText [] (encode "[]") :=
      readsOnly_readTextList.spells (by decide +kernel) (by decide +kernel)
    exact
      { values := ⟨_, _, _, hvalues, by decide +kernel, by decide +kernel, by decide +kernel⟩
        validityOnce := by decide +kernel
        validity := fun _ hnone ↦ absurd hnone List.not_mem_nil
        issuerOnce := by decide +kernel
        issuer := fun _ hnone ↦ absurd hnone List.not_mem_nil
        audienceOnce := by decide +kernel
        audience := fun token htoken ↦ Option.some.inj htoken ▸ .several hnames
        others := fun member hmember hname ↦ isValue_of_skipValue
          (by revert member; decide +kernel) (by revert member; decide +kernel) }
  obtain ⟨hwithout, hwith⟩ := decode_foreign issuer claims
  obtain ⟨hplainDecode, hplainVerify⟩ := hwithout plain hplain
  obtain ⟨hmeantDecode, hmeantVerify⟩ := hwith _ meant hmeant
  exact ⟨hplain, hplainDecode, hplainVerify 1700000000 (by decide) (by decide), hmeant,
    hmeantDecode, hmeantVerify 1700000000⟩

end Issuer

end TokenService
