import Passage.Proofs.Scram.Server

namespace Passage.Scram

open Sha256 (Digest)

theorem opening_first {c : Client} (free : ',' ∉ c.nonce.toList) (nonempty : c.nonce ≠ "") :
    Opening.read c.first = some ⟨header, c.firstBare, c.user, c.nonce⟩ := by
  have bare : c.firstBare.toList =
      ('n' :: '=' :: (escapeName c.user).toList) ++ ',' :: ('r' :: '=' :: c.nonce.toList) := by
    simp [Client.firstBare]
  have whole : c.first.toList = ['n'] ++ ',' :: ([] ++ ',' :: c.firstBare.toList) := by
    simp [Client.first, header]
  have parts : Text.splitAll ',' c.firstBare.toList =
      ['n' :: '=' :: (escapeName c.user).toList, 'r' :: '=' :: c.nonce.toList] := by
    rw [bare, Text.splitAll_append (by simpa using not_mem_escapeName c.user),
      Text.splitAll_of_not_mem (by simpa using free)]
  have some_nonce : c.nonce.toList ≠ [] := by simpa using nonempty
  have lead : String.ofList (['n'] ++ ',' :: [] ++ [',']) = header := by rfl
  rw [Opening.read, whole, Text.splitFirst_append (by decide)]
  simp only [Option.bind_eq_bind, Option.bind_some]
  rw [Text.splitFirst_append (by decide)]
  simp only [Option.bind_some, parts, valueOf_append, unescapeName_escapeName]
  rw [if_pos (by simp [some_nonce]), lead, String.ofList_toList, String.ofList_toList,
    String.ofList_toList]

theorem comma_not_mem_encode (data : List UInt8) : ',' ∉ Base64.encode data := by
  have plain : ∀ c ∈ Base64.encode data, c ≠ ',' :=
    Base64.forall_mem_encode (by decide) (by decide) data
  exact fun found => plain ',' found rfl

theorem trimEnd_encode (data : List UInt8) :
    Text.trimEnd (Base64.encode data) = Base64.encode data :=
  Text.trimEnd_of_no_blank (Base64.forall_mem_encode (by decide) (by decide) data)

theorem read_challenge (a : Account) {nonce suffix : String} (nonceFree : ',' ∉ nonce.toList)
    (suffixFree : ',' ∉ suffix.toList) (nonempty : nonce ≠ "") (salted : a.salt ≠ [])
    (positive : 0 < a.count) (small : a.count ≤ 4294967295) :
    ServerFirst.read (a.challenge nonce suffix).toList =
      .ok ⟨nonce.toList ++ suffix.toList, Base64.encode a.salt, a.count⟩ := by
  have whole : (a.challenge nonce suffix).toList =
      'r' :: '=' :: (nonce.toList ++ suffix.toList) ++ ',' ::
        ('s' :: '=' :: Base64.encode a.salt ++ ',' :: 'i' :: '=' :: (toString a.count).toList) := by
    simp [Account.challenge]
  have bothFree : ',' ∉ nonce.toList ++ suffix.toList := by simp [nonceFree, suffixFree]
  have someNonce : nonce.toList ++ suffix.toList ≠ [] := by simp [nonempty]
  have digitsFree : ',' ∉ (toString a.count).toList := fun found =>
    absurd (Text.isDigit_of_mem_toString found) (by decide)
  have found := attribute?_written bothFree (comma_not_mem_encode a.salt) digitsFree someNonce
    (Base64.encode_ne_nil salted) (Text.toString_ne_nil a.count)
  rw [ServerFirst.read, whole, found, found, found]
  simp only [count?_toString positive small]

theorem final_challenge (p : Primitives) (c : Client) (a : Account) {suffix : String}
    (nonceFree : ',' ∉ c.nonce.toList) (suffixFree : ',' ∉ suffix.toList) (nonempty : c.nonce ≠ "")
    (extended : suffix ≠ "") (salted : a.salt ≠ []) (positive : 0 < a.count)
    (small : a.count ≤ 4294967295) :
    let message := c.authMessage (a.challenge c.nonce suffix) (c.nonce ++ suffix)
    let keys := p.keys (Text.bytes c.password) a.salt a.count
    c.final p (a.challenge c.nonce suffix) =
      .ok (Client.withoutProof (c.nonce ++ suffix) ++ ",p=" ++
          String.ofList (Base64.encode (Client.proof p keys.client message)),
        ⟨message, keys.server⟩) := by
  intro message keys
  obtain ⟨x, xs, more⟩ : ∃ x xs, suffix.toList = x :: xs :=
    List.exists_cons_of_ne_nil (by simpa using extended)
  have joined : String.ofList (c.nonce.toList ++ suffix.toList) = c.nonce ++ suffix := by
    rw [← String.toList_append, String.ofList_toList]
  rw [Client.final, read_challenge a nonceFree suffixFree nonempty salted positive small]
  simp only [Text.stripLead_append, more, Base64.decode_encode]
  rw [← more, joined]

theorem length_proof (p : Primitives) (key : Digest) (message : List UInt8) :
    (Client.proof p key message).length = 32 := by
  rw [Client.proof, Pbkdf2.mix, List.length_zipWith, key.property,
    (p.sign (p.hash key.val).val message).property, Nat.min_self]

/-- The server reads out of the client's last message what the client put in. -/
theorem read_answer {c : Client} {suffix : String} {proof : List UInt8} (bare user : String)
    (nonceFree : ',' ∉ c.nonce.toList) (suffixFree : ',' ∉ suffix.toList)
    (whole : proof.length = 32) :
    Answer.read ⟨header, bare, user, c.nonce⟩ suffix
        (Client.withoutProof (c.nonce ++ suffix) ++ ",p=" ++ String.ofList (Base64.encode proof)) =
      some ⟨Client.withoutProof (c.nonce ++ suffix), proof⟩ := by
  have message : (Client.withoutProof (c.nonce ++ suffix) ++ ",p=" ++
        String.ofList (Base64.encode proof)).toList =
      (Client.withoutProof (c.nonce ++ suffix)).toList ++
        ',' :: ('p' :: '=' :: Base64.encode proof) := by simp
  have fields : (Client.withoutProof (c.nonce ++ suffix)).toList =
      ('c' :: '=' :: Base64.encode (Text.bytes header)) ++
        ',' :: ('r' :: '=' :: (c.nonce ++ suffix).toList) := by simp [Client.withoutProof]
  have parts : Text.splitAll ',' (Client.withoutProof (c.nonce ++ suffix)).toList =
      ['c' :: '=' :: Base64.encode (Text.bytes header),
        'r' :: '=' :: (c.nonce ++ suffix).toList] := by
    rw [fields, Text.splitAll_append (by simpa using comma_not_mem_encode (Text.bytes header)),
      Text.splitAll_of_not_mem (by simp [nonceFree, suffixFree])]
  rw [Answer.read, message, Text.splitLast_append (by simpa using comma_not_mem_encode proof)]
  simp only [Option.bind_eq_bind, Option.bind_some, valueOf_append, Base64.decode_encode, parts]
  rw [if_pos ⟨trivial, String.ofList_toList, whole⟩, String.ofList_toList]

theorem recover_proof (p : Primitives) (a : Account) {key : Digest}
    (h : p.hash key.val = a.storedKey) (message : List UInt8) :
    a.recover p message (Client.proof p key message) = key.val := by
  rw [Account.recover, Client.proof, h]
  exact Pbkdf2.mix_mix (key.property.trans (p.sign a.storedKey.val message).property.symm)

theorem check_signed (p : Primitives) (a : Account) (message : List UInt8) :
    Verifier.check p ⟨message, a.serverKey⟩ (a.signed p message) = .ok () := by
  have whole : (a.signed p message).toList =
      "v=".toList ++ Base64.encode (p.sign a.serverKey.val message).val := by
    simp only [Account.signed, String.toList_append, String.toList_ofList]
  have noRefusal (rest : List Char) : Text.stripLead "e=".toList ("v=".toList ++ rest) = none := rfl
  rw [Verifier.check, whole]
  simp only [readServerFinal, noRefusal, Text.stripLead_append, trimEnd_encode, Base64.decode_encode]
  rw [if_pos (sameBytes_iff.mpr rfl)]

/-- A client and a server with the same password agree, whatever the user's name holds: the client
answers the server's first message, the server finds in the answer a key with the stored hash, and
the client accepts the server's signature. -/
theorem client_server_agree (p : Primitives) (c : Client) (suffix : String) (salt : List UInt8)
    (count : Nat) (nonceFree : ',' ∉ c.nonce.toList) (suffixFree : ',' ∉ suffix.toList)
    (nonempty : c.nonce ≠ "") (extended : suffix ≠ "") (salted : salt ≠ []) (positive : 0 < count)
    (small : count ≤ 4294967295) :
    let account := Account.enroll p (Text.bytes c.password) salt count
    let challenge := "r=" ++ c.nonce ++ suffix ++ ",s=" ++ String.ofList (Base64.encode salt) ++
      ",i=" ++ toString count
    ∃ opening final verifier answer,
      Opening.read c.first = some opening ∧ opening.user = c.user ∧
      account.challenge opening.nonce suffix = challenge ∧
      c.final p challenge = .ok (final, verifier) ∧
      Answer.read opening suffix final = some answer ∧
      p.hash (account.recover p (answer.authMessage opening challenge) answer.proof) =
        account.storedKey ∧
      verifier.check p (account.signed p (answer.authMessage opening challenge)) = .ok () := by
  intro account challenge
  let keys := p.keys (Text.bytes c.password) salt count
  -- the texts that the server signs from are the ones the client signed
  let message := c.authMessage challenge (c.nonce ++ suffix)
  have final : c.final p challenge = .ok (_, ⟨message, keys.server⟩) :=
    final_challenge p c account nonceFree suffixFree nonempty extended salted positive small
  have read := read_answer c.firstBare c.user nonceFree suffixFree
    (length_proof p keys.client message)
  have recovered : account.recover p message (Client.proof p keys.client message) =
      keys.client.val := recover_proof p account rfl message
  refine ⟨_, _, _, _, opening_first nonceFree nonempty, rfl, rfl, final, read, ?_, ?_⟩
  · exact congrArg p.hash recovered
  · exact check_signed p account message

/-- A name with a comma, and a nonce that would read as a field. -/
theorem client_server_agree_escaped :
    let c : Client := ⟨"a,b=c", "secret", "r=1"⟩
    let account := Account.enroll .sha256 (Text.bytes c.password) [1, 2] 4096
    let challenge := "r=r=12,s=" ++ String.ofList (Base64.encode [1, 2]) ++ ",i=" ++ toString 4096
    ∃ opening final verifier answer,
      Opening.read c.first = some opening ∧ opening.user = c.user ∧
      account.challenge opening.nonce "2" = challenge ∧
      c.final .sha256 challenge = .ok (final, verifier) ∧
      Answer.read opening "2" final = some answer ∧
      Primitives.sha256.hash
          (account.recover .sha256 (answer.authMessage opening challenge) answer.proof) =
        account.storedKey ∧
      verifier.check .sha256 (account.signed .sha256 (answer.authMessage opening challenge)) =
        .ok () :=
  client_server_agree .sha256 ⟨"a,b=c", "secret", "r=1"⟩ "2" [1, 2] 4096 (by decide) (by decide)
    (by decide) (by decide) (by decide) (by decide) (by decide)

end Passage.Scram
