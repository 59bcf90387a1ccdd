import Passage.Proofs.Scram.Interop

namespace Passage.Scram

/-- The parts of a message between commas, of which `value` is the last that gives the attribute a value that is
not empty. -/
def LastValue (a : Attribute) (message value : List Char) : Prop :=
  ∃ before after, (∀ part ∈ before ++ (a.letter :: '=' :: value) :: after, ',' ∉ part) ∧
    message = [','].intercalate (before ++ (a.letter :: '=' :: value) :: after) ∧ value ≠ [] ∧
    ∀ other, a.letter :: '=' :: other ∈ after → other = []

def Attribute.valueIn? (a : Attribute) (part : List Char) : Option (List Char) :=
  match Text.splitFirst '=' part with
  | some ([letter], value) => if letter = a.letter ∧ ¬ value.isEmpty then some value else none
  | _ => none

theorem Attribute.valueIn?_eq_some_iff {a : Attribute} {part value : List Char} :
    a.valueIn? part = some value ↔ part = a.letter :: '=' :: value ∧ value ≠ [] := by
  have plain : a.letter ≠ '=' := by cases a <;> decide
  constructor
  · intro given
    unfold valueIn? at given
    split at given
    · next letter rest cut =>
      obtain ⟨⟨same, full⟩, given⟩ := Option.ite_none_right_eq_some.mp given
      cases given
      obtain ⟨whole, -⟩ := Text.eq_append_of_splitFirst cut
      rw [whole, same]
      exact ⟨rfl, by simpa using full⟩
    · cases given
  · rintro ⟨rfl, full⟩
    have unsplit : '=' ∉ [a.letter] := by simpa using plain.symm
    have cut : Text.splitFirst '=' ([a.letter] ++ '=' :: value) = some ([a.letter], value) :=
      Text.splitFirst_append unsplit
    rw [List.singleton_append] at cut
    rw [valueIn?, cut]
    exact if_pos ⟨rfl, by simpa using full⟩

theorem attribute?_eq_some_iff {a : Attribute} {message value : List Char} :
    attribute? a message = some value ↔ LastValue a message value := by
  have found : attribute? a message = (Text.splitAll ',' message).reverse.findSome? a.valueIn? := rfl
  rw [found, List.findSome?_eq_some_iff]
  constructor
  · rintro ⟨after, part, before, parts, given, later⟩
    obtain ⟨rfl, full⟩ := Attribute.valueIn?_eq_some_iff.mp given
    have inOrder := congrArg List.reverse parts
    rw [List.reverse_reverse, List.reverse_append, List.reverse_cons, List.append_assoc,
      List.singleton_append] at inOrder
    obtain ⟨-, free, whole⟩ := Text.splitAll_eq_iff.mp inOrder
    refine ⟨before.reverse, after.reverse, free, whole, full, ?_⟩
    intro other held
    have unset := later _ (List.mem_reverse.mp held)
    cases other with
    | nil => rfl
    | cons c cs =>
      rw [Attribute.valueIn?_eq_some_iff.mpr ⟨rfl, List.cons_ne_nil c cs⟩] at unset
      cases unset
  · rintro ⟨before, after, free, whole, full, last⟩
    have parts := Text.splitAll_eq_iff.mpr ⟨by simp, free, whole⟩
    refine ⟨after.reverse, a.letter :: '=' :: value, before.reverse, ?_, ?_, ?_⟩
    · rw [parts, List.reverse_append, List.reverse_cons, List.append_assoc, List.singleton_append]
    · exact Attribute.valueIn?_eq_some_iff.mpr ⟨rfl, full⟩
    · intro part held
      rw [Option.eq_none_iff_forall_ne_some]
      intro other given
      obtain ⟨rfl, set⟩ := Attribute.valueIn?_eq_some_iff.mp given
      exact set (last other (List.mem_reverse.mp held))

example : attribute? .salt "s=QQ==,s=,r=x".toList = some "QQ==".toList := by decide

theorem count?_eq_some_iff {text : List Char} {n : Nat} :
    count? text = some n ↔ Text.Numeral text n ∧ n ≤ 4294967295 ∧ 0 < n := by
  rw [count?, Option.filter_eq_some_iff, Text.numeral?_eq_some_iff, and_assoc]
  simp only [decide_eq_true_eq]

theorem read_eq_ok_iff {message : List Char} {server : ServerFirst} :
    ServerFirst.read message = .ok server ↔
      LastValue .nonce message server.nonce ∧ LastValue .salt message server.salt ∧
      ∃ digits, LastValue .iterations message digits ∧ count? digits = some server.iterations := by
  simp only [← attribute?_eq_some_iff]
  constructor
  · intro read
    unfold ServerFirst.read at read
    split at read
    · cases read
    · next digits counted =>
      split at read
      · cases read
      · next count positive =>
        split at read
        · cases read
        · cases read
        · next nonce salt foundNonce foundSalt =>
          cases read
          exact ⟨foundNonce, foundSalt, digits, counted, positive⟩
  · rintro ⟨foundNonce, foundSalt, digits, counted, positive⟩
    rw [ServerFirst.read, counted]
    dsimp only
    rw [positive]
    dsimp only
    rw [foundNonce, foundSalt]

/-- A first message of a server that the client can answer: the server's nonce is the client's with more behind
it, the salt is written as Base64 writes it, and the number of rounds is a positive number of thirty-two bits. -/
structure Answerable (c : Client) (message : List Char) (suffix : List Char) (salt : List UInt8) (count : Nat) :
    Prop where
  nonce : LastValue .nonce message (c.nonce.toList ++ suffix)
  longer : suffix ≠ []
  salt : LastValue .salt message (Base64.encode salt)
  rounds : ∃ digits, LastValue .iterations message digits ∧ Text.Numeral digits count
  positive : 0 < count
  small : count ≤ 4294967295

/-- What the client comes to does not depend on the primitives: either it cannot answer whatever they compute, or
it can. -/
theorem final_cases (c : Client) (serverFirst : String) :
    (∃ failure, ∀ p, c.final p serverFirst = .error failure) ∨
    ∃ suffix salt count, Answerable c serverFirst.toList suffix salt count := by
  rcases read : ServerFirst.read serverFirst.toList with failure | server
  · refine .inl ⟨failure, fun p => ?_⟩
    rw [Client.final, read]
  rcases own : Text.stripLead c.nonce.toList server.nonce with _ | suffix
  · refine .inl ⟨.foreignNonce, fun p => ?_⟩
    rw [Client.final, read]
    dsimp only
    rw [own]
  rcases suffix with _ | ⟨first, rest⟩
  · refine .inl ⟨.foreignNonce, fun p => ?_⟩
    rw [Client.final, read]
    dsimp only
    rw [own]
  rcases decoded : Base64.decode server.salt with _ | salt
  · refine .inl ⟨.unreadableSalt, fun p => ?_⟩
    rw [Client.final, read]
    dsimp only
    rw [own]
    dsimp only
    rw [decoded]
  · obtain ⟨nonce, salted, digits, rounds, counted⟩ := read_eq_ok_iff.mp read
    obtain ⟨numeral, small, positive⟩ := count?_eq_some_iff.mp counted
    rw [Text.stripLead_eq_some_iff.mp own] at nonce
    rw [Base64.decode_eq_some_iff.mp decoded] at salted
    exact .inr ⟨first :: rest, salt, server.iterations, nonce, List.cons_ne_nil first rest, salted,
      ⟨digits, rounds, numeral⟩, positive, small⟩

/-- The client's answer, with the text that it signs unchanged in what both sides have said. -/
theorem final_answerable (p : Primitives) {c : Client} {serverFirst : String} {suffix : List Char}
    {salt : List UInt8} {count : Nat} (answerable : Answerable c serverFirst.toList suffix salt count) :
    let nonce := c.nonce ++ String.ofList suffix
    let signed := c.authMessage serverFirst nonce
    let keys := p.keys (Text.bytes c.password) salt count
    c.final p serverFirst =
      .ok (Client.withoutProof nonce ++ ",p=" ++
          String.ofList (Base64.encode (Client.proof p keys.client signed)),
        ⟨signed, keys.server⟩) := by
  intro nonce signed keys
  obtain ⟨digits, rounds, numeral⟩ := answerable.rounds
  have counted := count?_eq_some_iff.mpr ⟨numeral, answerable.small, answerable.positive⟩
  have read : ServerFirst.read serverFirst.toList =
      .ok ⟨c.nonce.toList ++ suffix, Base64.encode salt, count⟩ :=
    read_eq_ok_iff.mpr ⟨answerable.nonce, answerable.salt, digits, rounds, counted⟩
  obtain ⟨first, rest, more⟩ := List.exists_cons_of_ne_nil answerable.longer
  have joined : String.ofList (c.nonce.toList ++ suffix) = nonce := by
    rw [String.ofList_append, String.ofList_toList]
  rw [Client.final, read]
  simp only [Text.stripLead_append, more, Base64.decode_encode]
  rw [← more, joined]

/-- A client answers a server's first message if it can, with a proof of thirty-two bytes for what both sides have
said, in which the message stands as it came. If it cannot, it ends with a failure that no primitive had a part
in. -/
theorem final_ok_iff_answerable (p : Primitives) (c : Client) (serverFirst : String) :
    (∀ reply verifier, c.final p serverFirst = .ok (reply, verifier) ↔
      ∃ suffix salt count, Answerable c serverFirst.toList suffix salt count ∧
        let nonce := c.nonce ++ String.ofList suffix
        let signed := Text.bytes (c.firstBare ++ "," ++ serverFirst ++ "," ++ ("c=biws,r=" ++ nonce))
        let keys := p.keys (Text.bytes c.password) salt count
        let proof := Client.proof p keys.client signed
        proof.length = 32 ∧ verifier = ⟨signed, keys.server⟩ ∧
          reply = "c=biws,r=" ++ nonce ++ ",p=" ++ String.ofList (Base64.encode proof)) ∧
    ((∃ failure, ∀ q : Primitives, c.final q serverFirst = .error failure) ↔
      ∀ suffix salt count, ¬ Answerable c serverFirst.toList suffix salt count) := by
  have header (nonce : String) : Client.withoutProof nonce = "c=biws,r=" ++ nonce := by
    have biws : "c=" ++ String.ofList (Base64.encode (Text.bytes header)) ++ ",r=" = "c=biws,r=" := by decide
    rw [Client.withoutProof, biws]
  constructor
  · intro reply verifier
    constructor
    · intro answered
      rcases final_cases c serverFirst with ⟨failure, failed⟩ | ⟨suffix, salt, count, answerable⟩
      · rw [failed p] at answered
        cases answered
      · rw [final_answerable p answerable, Client.authMessage, header] at answered
        cases answered
        exact ⟨suffix, salt, count, answerable, length_proof p _ _, rfl, rfl⟩
    · rintro ⟨suffix, salt, count, answerable, -, rfl, rfl⟩
      rw [final_answerable p answerable, Client.authMessage, header]
  · constructor
    · rintro ⟨failure, failed⟩ suffix salt count answerable
      have answered := final_answerable p answerable
      rw [failed p] at answered
      cases answered
    · intro unanswerable
      rcases final_cases c serverFirst with failed | ⟨suffix, salt, count, answerable⟩
      · exact failed
      · exact absurd answerable (unanswerable suffix salt count)

end Passage.Scram
