import Passage.Proofs.Scram.Interop

namespace Passage.Scram

/-- The message holds these bytes as its signature, in their written form and with nothing but blanks behind
it. -/
def Holds (signature : List UInt8) (message : List Char) : Prop :=
  ∃ blanks, (∀ c ∈ blanks, Text.isBlank c = true) ∧
    message = "v=".toList ++ Base64.encode signature ++ blanks

/-- What is wrong with the last message of a server that must have made this signature. -/
inductive Objection (signature : List UInt8) (message : List Char) : Failure → Prop where
  | refused {reason : List Char} (refusal : message = "e=".toList ++ reason) :
      Objection signature message (.refused (String.ofList reason))
  | noVerifier (unrefused : ¬ "e=".toList <+: message) (unsigned : ¬ "v=".toList <+: message) :
      Objection signature message .noVerifier
  | unreadable {encoded : List Char} (verifier : message = "v=".toList ++ encoded)
      (unwritten : ∀ data, ¬ Holds data message) : Objection signature message .unreadableSignature
  | wrong {data : List UInt8} (held : Holds data message) (other : data ≠ signature) :
      Objection signature message .wrongSignature

theorem holds_iff {data : List UInt8} {encoded : List Char} :
    Holds data ("v=".toList ++ encoded) ↔ Text.trimEnd encoded = Base64.encode data := by
  rw [Text.trimEnd_eq_iff (trimEnd_encode data), Holds]
  simp only [List.append_assoc, List.append_cancel_left_eq]

theorem read_verifier (encoded : List Char) :
    readServerFinal ("v=".toList ++ encoded) =
      match Base64.decode (Text.trimEnd encoded) with
      | some signature => .ok signature
      | none => .error .unreadableSignature := by
  have unrefused : Text.stripLead "e=".toList ("v=".toList ++ encoded) = none := rfl
  have signed : Text.stripLead "v=".toList ("v=".toList ++ encoded) = some encoded :=
    Text.stripLead_append "v=".toList encoded
  cases decoded : Base64.decode (Text.trimEnd encoded) with
  | none => simp only [readServerFinal, unrefused, signed, decoded]
  | some signature => simp only [readServerFinal, unrefused, signed, decoded]

theorem Holds.read {data : List UInt8} {message : List Char} (held : Holds data message) :
    readServerFinal message = .ok data := by
  obtain ⟨blanks, blank, rfl⟩ := held
  have trimmed := (Text.trimEnd_eq_iff (trimEnd_encode data)).mpr ⟨blanks, blank, rfl⟩
  rw [List.append_assoc, read_verifier, trimmed, Base64.decode_encode]

section

variable (p : Primitives) (v : Verifier) {serverFinal : String}

theorem Holds.check (held : Holds (p.sign v.serverKey.val v.authMessage).val serverFinal.toList) :
    v.check p serverFinal = .ok () := by
  rw [Verifier.check, held.read]
  exact if_pos (sameBytes_iff.mpr rfl)

theorem Objection.check {failure : Failure}
    (objection : Objection (p.sign v.serverKey.val v.authMessage).val serverFinal.toList failure) :
    v.check p serverFinal = .error failure := by
  cases objection with
  | refused refusal =>
    rw [Verifier.check, refusal, readServerFinal, Text.stripLead_append]
  | noVerifier unrefused unsigned =>
    rw [Verifier.check, readServerFinal, Text.stripLead_eq_none_iff.mpr unrefused]
    dsimp only
    rw [Text.stripLead_eq_none_iff.mpr unsigned]
  | unreadable verifier unwritten =>
    rename_i encoded
    have undecoded : Base64.decode (Text.trimEnd encoded) = none := by
      rw [Option.eq_none_iff_forall_ne_some]
      intro data decoded
      apply unwritten data
      rw [verifier, holds_iff]
      exact Base64.decode_eq_some_iff.mp decoded
    rw [Verifier.check, verifier, read_verifier, undecoded]
  | wrong held other =>
    rw [Verifier.check, held.read]
    exact if_neg fun same => other (sameBytes_iff.mp same)

end

/-- There is something wrong with every message but the one that holds the signature. -/
theorem holds_or_objection (signature : List UInt8) (message : List Char) :
    Holds signature message ∨ ∃ failure, Objection signature message failure := by
  by_cases refusal : "e=".toList <+: message
  · obtain ⟨reason, rfl⟩ := refusal
    exact .inr ⟨_, .refused rfl⟩
  by_cases verifier : "v=".toList <+: message
  · obtain ⟨encoded, rfl⟩ := verifier
    by_cases written : ∃ data, Holds data ("v=".toList ++ encoded)
    · obtain ⟨data, held⟩ := written
      by_cases same : data = signature
      · exact .inl (same ▸ held)
      · exact .inr ⟨_, .wrong held same⟩
    · exact .inr ⟨_, .unreadable rfl (not_exists.mp written)⟩
  · exact .inr ⟨_, .noVerifier refusal verifier⟩

/-- The check lets a server in exactly if its last message holds the signature made with its key over what both
sides have said; otherwise it ends with what is wrong with the message. -/
theorem check_ok_iff_holds (p : Primitives) (v : Verifier) (serverFinal : String) :
    let signature := (p.sign v.serverKey.val v.authMessage).val
    (v.check p serverFinal = .ok () ↔ Holds signature serverFinal.toList) ∧
    ∀ failure, v.check p serverFinal = .error failure ↔
      Objection signature serverFinal.toList failure := by
  intro signature
  have either := holds_or_objection signature serverFinal.toList
  constructor
  · constructor
    · intro passed
      rcases either with held | ⟨failure, objection⟩
      · exact held
      · rw [objection.check p v] at passed
        cases passed
    · exact Holds.check p v
  · intro failure
    constructor
    · intro failed
      rcases either with held | ⟨other, objection⟩
      · rw [held.check p v] at failed
        cases failed
      · rw [objection.check p v] at failed
        cases failed
        exact objection
    · exact Objection.check p v

end Passage.Scram
