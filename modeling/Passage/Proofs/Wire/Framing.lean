import Passage.Proofs.Wire.Writing

namespace Passage.Wire

theorem overwrite_middle (front behind : List UInt8) {old new : List UInt8} (same : new.length = old.length) :
    overwrite (front ++ old ++ behind) front.length new = front ++ new ++ behind := by
  rw [overwrite, same, ← List.length_append, List.drop_left, List.append_assoc front, List.take_left]

/-- The length that is filled in is that of the body and its own four bytes. -/
theorem writePacket_eq {writeBody : List UInt8 → List UInt8} {body : List UInt8}
    (behind : ∀ buffer, writeBody buffer = buffer ++ body) (tag? : Option Char) (buffer : List UInt8) :
    writePacket tag? writeBody buffer =
      buffer ++ ((tag?.map fun c => UInt8.ofNat c.toNat).toList ++ word (body.length + 4) ++ body) := by
  let opened := buffer ++ (tag?.map fun c => UInt8.ofNat c.toNat).toList
  have length : (opened ++ word 0 ++ body).length - opened.length = body.length + 4 := by
    have left : (word 0).length = 4 := rfl
    rw [List.length_append, List.length_append, left]
    omega
  change overwrite (writeBody (opened ++ word 0)) opened.length
    (word ((writeBody (opened ++ word 0)).length - opened.length)) = _
  have same : (word (body.length + 4)).length = (word 0).length := rfl
  rw [behind, length, overwrite_middle opened body same]
  simp only [opened, List.append_assoc]

namespace Packet

theorem params_written (params : List (String × String)) (buffer : List UInt8) :
    params.foldl (fun buffer param => writeText param.2 (writeText param.1 buffer)) buffer =
      buffer ++ params.flatMap fun param => terminated param.1 ++ terminated param.2 := by
  induction params generalizing buffer with
  | nil => exact (List.append_nil buffer).symm
  | cons param params ih =>
    rw [List.foldl_cons, ih, List.flatMap_cons]
    simp only [writeText, terminated, List.append_assoc]

theorem writeBody_eq (packet : Packet) (buffer : List UInt8) :
    packet.writeBody buffer = buffer ++ packet.body := by
  cases packet with
  | startup params =>
    have written := params_written params (buffer ++ word protocolVersion)
    rw [body, ← List.append_assoc, ← List.append_assoc]
    exact congrArg (· ++ [0]) written
  | saslInitial mechanism data => simp only [writeBody, writeText, body, terminated, List.append_assoc]
  | password text => simp only [writeBody, writeText, body, terminated, List.append_assoc]
  | sslRequest => rfl
  | saslResponse data => rfl
  | terminate => exact (List.append_nil buffer).symm

theorem write_eq (packet : Packet) (buffer : List UInt8) : packet.write buffer = buffer ++ packet.encode :=
  writePacket_eq packet.writeBody_eq packet.tag? buffer

theorem body_le_encode (packet : Packet) : packet.body.length + 4 ≤ packet.encode.length := by
  have counted : (word (packet.body.length + 4)).length = 4 := rfl
  rw [encode, List.length_append, List.length_append, counted]
  omega

def writeAll (packets : List Packet) (buffer : List UInt8) : List UInt8 :=
  packets.foldl (fun buffer packet => packet.write buffer) buffer

theorem writeAll_eq (packets : List Packet) (buffer : List UInt8) :
    writeAll packets buffer = buffer ++ packets.flatMap encode := by
  induction packets generalizing buffer with
  | nil => exact (List.append_nil buffer).symm
  | cons packet packets ih =>
    change writeAll packets (packet.write buffer) = _
    rw [ih, write_eq, List.flatMap_cons, List.append_assoc]

end Packet

/-- A packet without what it says. -/
structure Framed where
  tag : Option UInt8
  body : List UInt8

def Packet.framed (packet : Packet) : Framed :=
  ⟨packet.tag?.map fun c => UInt8.ofNat c.toNat, packet.body⟩

/-- Takes as much as a length says, which counts itself. -/
def takeSized (data : List UInt8) : Option (List UInt8 × List UInt8) :=
  match takeWord "length" data with
  | .error _ => none
  | .ok (length, rest) =>
    if 4 ≤ length.toInt ∧ length.toInt ≤ rest.length + 4 then some (rest.splitAt (length.toInt.toNat - 4))
    else none

def takeFramed (tagged : Bool) (data : List UInt8) : Option (Framed × List UInt8) :=
  match tagged, data with
  | true, [] => none
  | true, tag :: rest => (takeSized rest).map fun (body, rest) => (⟨some tag, body⟩, rest)
  | false, data => (takeSized data).map fun (body, rest) => (⟨none, body⟩, rest)

/-- Takes packet after packet, told which of them have a tag, until nothing is left. -/
def walk : List Bool → List UInt8 → Option (List Framed)
  | [], data => if data.isEmpty then some [] else none
  | tagged :: more, data =>
    (takeFramed tagged data).bind fun (first, rest) => (walk more rest).map (first :: ·)

theorem toInt_ofNat {n : Nat} (small : n < 2 ^ 31) : (Int32.ofNat n).toInt = n :=
  Int32.toInt_ofNat_of_lt small

theorem takeSized_sized {body : List UInt8} (small : body.length + 4 < 2 ^ 31) (rest : List UInt8) :
    takeSized (word (body.length + 4) ++ body ++ rest) = some (body, rest) := by
  have read := toInt_ofNat small
  rw [takeSized, List.append_assoc, takeWord_word]
  dsimp only
  rw [read, if_pos ⟨by omega, by rw [List.length_append]; omega⟩, Int.toNat_natCast, Nat.add_sub_cancel,
    List.splitAt_eq, List.take_left, List.drop_left]

theorem takeFramed_encode {packet : Packet} (small : packet.encode.length < 2 ^ 31) (rest : List UInt8) :
    takeFramed packet.tag?.isSome (packet.encode ++ rest) = some (packet.framed, rest) := by
  have taken := takeSized_sized (Nat.lt_of_le_of_lt packet.body_le_encode small) rest
  unfold Packet.encode Packet.framed
  cases packet.tag? with
  | none =>
    change (takeSized (word (packet.body.length + 4) ++ packet.body ++ rest)).map _ = _
    rw [taken]
    rfl
  | some c =>
    change (takeSized (word (packet.body.length + 4) ++ packet.body ++ rest)).map _ = _
    rw [taken]
    rfl

theorem walk_encoded (packets : List Packet) (small : (packets.flatMap Packet.encode).length < 2 ^ 31) :
    walk (packets.map (·.tag?.isSome)) (packets.flatMap Packet.encode) = some (packets.map Packet.framed) := by
  induction packets with
  | nil => rfl
  | cons packet packets ih =>
    rw [List.flatMap_cons, List.length_append] at small
    rw [List.map_cons, List.flatMap_cons, walk, takeFramed_encode (by omega), Option.bind_some]
    dsimp only
    rw [ih (by omega)]
    rfl

/-- Whether a packet has a tag, by its first byte: that of a length is smaller. -/
def looksTagged (data : List UInt8) : Bool :=
  match data with
  | [] => false
  | first :: _ => 88 ≤ first.toNat

theorem takeSized_shorter {data body rest : List UInt8} (h : takeSized data = some (body, rest)) :
    rest.length < data.length := by
  unfold takeSized at h
  split at h
  · cases h
  · rename_i length behind taken
    obtain ⟨a, b, c, d, rfl⟩ : ∃ a b c d, data = a :: b :: c :: d :: behind := by
      unfold takeWord at taken
      split at taken
      · cases taken
        exact ⟨_, _, _, _, rfl⟩
      · cases taken
    split at h
    · rw [List.splitAt_eq] at h
      cases h
      simp only [List.length_cons, List.length_drop]
      omega
    · cases h

theorem takeFramed_shorter {tagged : Bool} {data rest : List UInt8} {first : Framed}
    (h : takeFramed tagged data = some (first, rest)) : rest.length < data.length := by
  unfold takeFramed at h
  split at h
  · cases h
  · obtain ⟨⟨body, left⟩, taken, same⟩ := Option.map_eq_some_iff.mp h
    cases same
    exact Nat.lt_succ_of_lt (takeSized_shorter taken)
  · obtain ⟨⟨body, left⟩, taken, same⟩ := Option.map_eq_some_iff.mp h
    cases same
    exact takeSized_shorter taken

/-- Takes packet after packet until nothing is left. -/
def scan (data : List UInt8) : Option (List Framed) :=
  if data.isEmpty then some []
  else
    match _h : takeFramed (looksTagged data) data with
    | none => none
    | some (first, rest) => (scan rest).map (first :: ·)
termination_by data.length
decreasing_by exact takeFramed_shorter _h

theorem looksTagged_encode {packet : Packet} (short : packet.tag? = none → packet.encode.length < 88 * 2 ^ 24)
    (rest : List UInt8) : looksTagged (packet.encode ++ rest) = packet.tag?.isSome := by
  have untagged (none : packet.tag? = none) : looksTagged (packet.encode ++ rest) = false := by
    have few := short none
    have whole : packet.encode = word (packet.body.length + 4) ++ packet.body := by
      rw [Packet.encode, none]
      rfl
    rw [whole, List.length_append] at few
    rw [whole]
    apply decide_eq_false
    rw [UInt8.toNat_ofNat']
    have counted : (word (packet.body.length + 4)).length = 4 := rfl
    omega
  cases packet with
  | sslRequest => exact untagged rfl
  | startup params => exact untagged rfl
  | password text => rfl
  | saslInitial mechanism data => rfl
  | saslResponse data => rfl
  | terminate => rfl

theorem scan_encoded (packets : List Packet) (small : (packets.flatMap Packet.encode).length < 2 ^ 31)
    (short : ∀ packet ∈ packets, packet.tag? = none → packet.encode.length < 88 * 2 ^ 24) :
    scan (packets.flatMap Packet.encode) = some (packets.map Packet.framed) := by
  induction packets with
  | nil =>
    rw [List.flatMap_nil, scan]
    rfl
  | cons packet packets ih =>
    rw [List.forall_mem_cons] at short
    obtain ⟨own, others⟩ := short
    rw [List.flatMap_cons, List.length_append] at small
    have taken := @takeFramed_encode packet (by omega) (packets.flatMap Packet.encode)
    have nonempty : (packet.encode ++ packets.flatMap Packet.encode).isEmpty = false := by
      have begun := packet.body_le_encode
      rw [List.isEmpty_eq_false_iff, ← List.length_pos_iff, List.length_append]
      omega
    rw [← looksTagged_encode own] at taken
    rw [List.flatMap_cons, scan, nonempty, if_neg Bool.false_ne_true]
    split
    · rename_i lost
      cases lost.symm.trans taken
    · rename_i found
      cases found.symm.trans taken
      rw [ih (by omega) others]
      rfl

/-- Takes the body of the message apart: the name up to its NUL, the length of the data, the data. -/
def readInitial (body : List UInt8) : Option (String × List UInt8) :=
  (splitNul body).bind fun (name, rest) =>
    (Text.text? name).bind fun mechanism =>
      match takeWord "length" rest with
      | .error _ => none
      | .ok (length, data) => if length.toInt = data.length then some (mechanism, data) else none

theorem readInitial_body {mechanism : String} (free : NulFree mechanism) {data : List UInt8}
    (small : data.length < 2 ^ 31) :
    readInitial (Packet.saslInitial mechanism data).body = some (mechanism, data) := by
  rw [readInitial, Packet.body, List.append_assoc, splitNul_terminated free, Option.bind_some]
  dsimp only
  rw [Text.text?_bytes, Option.bind_some, takeWord_word]
  dsimp only
  rw [toInt_ofNat small, if_pos rfl]

/-- A packet adds its tag, a length and its body, and the length is that of the body and four more. -/
theorem Packet.write_adds {packet : Packet} (small : packet.encode.length < 2 ^ 31) (buffer : List UInt8) :
    ∃ a b c d : UInt8,
      packet.write buffer = buffer ++ (packet.framed.tag.toList ++ [a, b, c, d] ++ packet.framed.body) ∧
        (signedWord a b c d).toInt = packet.framed.body.length + 4 := by
  let n := packet.body.length + 4
  refine ⟨UInt8.ofNat (n / 16777216), UInt8.ofNat (n / 65536), UInt8.ofNat (n / 256), UInt8.ofNat n,
    packet.write_eq buffer, ?_⟩
  rw [signedWord_ofNat]
  exact toInt_ofNat (Nat.lt_of_le_of_lt packet.body_le_encode small)

theorem Packet.encode_le_of_mem {packet : Packet} {packets : List Packet} (member : packet ∈ packets) :
    packet.encode.length ≤ (packets.flatMap encode).length := by
  obtain ⟨before, after, rfl⟩ := List.append_of_mem member
  rw [List.flatMap_append, List.flatMap_cons, List.length_append, List.length_append]
  omega

/-- Packets leave what is in the buffer as it is, and each adds its tag, the length of its body and four more,
and its body. So who walks along finds each where it is: told which have a tag, and even without that as long
as those that have none are too short for their lengths to begin like a tag. And the first message of a SASL
exchange is read as the mechanism and the data, if there is no NUL in the mechanism. -/
theorem packets_framed (buffer : List UInt8) (packets : List Packet)
    (small : (packets.flatMap Packet.encode).length < 2 ^ 31) :
    let written := Packet.writeAll packets buffer
    written.take buffer.length = buffer ∧
    (∀ before packet after, packets = before ++ packet :: after → ∃ a b c d : UInt8,
      Packet.writeAll (before ++ [packet]) buffer = Packet.writeAll before buffer ++
          (packet.framed.tag.toList ++ [a, b, c, d] ++ packet.framed.body) ∧
        (signedWord a b c d).toInt = packet.framed.body.length + 4 ∧
        Packet.writeAll (before ++ [packet]) buffer <+: written) ∧
    walk (packets.map (·.tag?.isSome)) (written.drop buffer.length) = some (packets.map Packet.framed) ∧
    ((∀ packet ∈ packets, packet.tag? = none → packet.encode.length < 88 * 2 ^ 24) →
      scan (written.drop buffer.length) = some (packets.map Packet.framed)) ∧
    ∀ mechanism data, Packet.saslInitial mechanism data ∈ packets → NulFree mechanism →
      readInitial (Packet.saslInitial mechanism data).framed.body = some (mechanism, data) := by
  intro written
  have appended : written = buffer ++ packets.flatMap Packet.encode := Packet.writeAll_eq packets buffer
  have kept : written.take buffer.length = buffer := by rw [appended, List.take_left]
  have added : written.drop buffer.length = packets.flatMap Packet.encode := by rw [appended, List.drop_left]
  rw [added]
  refine ⟨kept, ?_, walk_encoded packets small, scan_encoded packets small, ?_⟩
  · rintro before packet after rfl
    have member : packet ∈ before ++ packet :: after := by simp
    obtain ⟨a, b, c, d, adds, length⟩ := Packet.write_adds
      (Nat.lt_of_le_of_lt (Packet.encode_le_of_mem member) small) (Packet.writeAll before buffer)
    have first : Packet.writeAll (before ++ [packet]) buffer =
        packet.write (Packet.writeAll before buffer) := List.foldl_concat ..
    refine ⟨a, b, c, d, first.trans adds, length, ?_⟩
    have later : written = Packet.writeAll after (packet.write (Packet.writeAll before buffer)) :=
      List.foldl_append
    rw [later, first, Packet.writeAll_eq after]
    exact List.prefix_append _ _
  · intro mechanism data member free
    apply readInitial_body free
    have body := (Packet.saslInitial mechanism data).body_le_encode
    have whole := Packet.encode_le_of_mem member
    have data_le : data.length ≤ (Packet.saslInitial mechanism data).body.length := by
      rw [Packet.body, List.length_append]
      exact Nat.le_add_left _ _
    omega

/-- What a client writes that asks for TLS, opens, proves itself and leaves, behind a byte that is in the
buffer. -/
theorem packets_framed_login :
    let mechanism := "SCRAM-SHA-256"
    let packets : List Packet := [.sslRequest, .startup [("user", "app")], .saslInitial mechanism [110, 0],
      .saslResponse [99], .password "secret", .terminate]
    (packets.flatMap Packet.encode).length < 2 ^ 31 ∧ NulFree mechanism ∧
      (∀ packet ∈ packets, packet.tag? = none → packet.encode.length < 88 * 2 ^ 24) ∧
      (Packet.writeAll packets [7]).take 1 = [7] ∧
      scan ((Packet.writeAll packets [7]).drop 1) = some (packets.map Packet.framed) ∧
      readInitial (Packet.saslInitial mechanism [110, 0]).framed.body = some (mechanism, [110, 0]) := by
  intro mechanism packets
  have small : (packets.flatMap Packet.encode).length < 2 ^ 31 := by decide +kernel
  have short : ∀ packet ∈ packets, packet.tag? = none → packet.encode.length < 88 * 2 ^ 24 := by
    decide +kernel
  have free : NulFree mechanism := by decide
  obtain ⟨kept, -, -, found, initial⟩ := packets_framed [7] packets small
  exact ⟨small, free, short, kept, found short, initial mechanism [110, 0] (by simp [packets]) free⟩

end Passage.Wire
