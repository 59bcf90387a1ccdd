import Passage.Proofs.Login.Stalling
import Passage.Proofs.Wire.Writing

namespace Passage.Wire

/-- Names and their values up to the first empty name, and what stands behind it. -/
def readParams (body : List UInt8) : Option (List (List UInt8 × List UInt8) × List UInt8) :=
  match _h : splitNul body with
  | none => none
  | some ([], rest) => some ([], rest)
  | some (b :: bs, rest) =>
    match _h' : splitNul rest with
    | none => none
    | some (value, rest) =>
      (readParams rest).map fun (params, rest) => ((b :: bs, value) :: params, rest)
termination_by body.length
decreasing_by exact Nat.lt_trans (length_splitNul_lt _h') (length_splitNul_lt _h)

theorem readParams_end {body rest : List UInt8} (h : splitNul body = some ([], rest)) :
    readParams body = some ([], rest) := by
  rw [readParams]
  split <;> simp_all

theorem readParams_unterminated {body : List UInt8} (h : splitNul body = none) :
    readParams body = none := by
  rw [readParams]
  split <;> simp_all

theorem readParams_named {body name after : List UInt8} (h : splitNul body = some (name, after))
    (nonempty : name ≠ []) :
    readParams body = (splitNul after).bind fun (value, rest) =>
      (readParams rest).map fun (params, rest) => ((name, value) :: params, rest) := by
  rw [readParams]
  split
  · simp_all
  · simp_all
  · rename_i b bs rest found
    obtain ⟨rfl, rfl⟩ : b :: bs = name ∧ rest = after := by simpa [found] using h
    split
    · simp_all
    · rename_i value rest found'
      rw [found']
      rfl

/-- A startup packet at the front of what a server receives. -/
structure Opening where
  params : List (List UInt8 × List UInt8)
  ignored : List UInt8
  rest : List UInt8

/-- Takes a startup packet for version 3.0 of the protocol. The packet begins with its own length. -/
def readOpening (received : List UInt8) : Option Opening :=
  match received with
  | a :: b :: c :: d :: more =>
    let length := (signedWord a b c d).toInt
    if length < 4 ∨ (more.length : Int) + 4 < length then none
    else
      let size := length.toNat - 4
      match more.take size with
      | 0 :: 3 :: 0 :: 0 :: body =>
        (readParams body).map fun (params, ignored) => ⟨params, ignored, more.drop size⟩
      | _ => none
  | _ => none

theorem readParams_free {body rest : List UInt8} {params : List (List UInt8 × List UInt8)}
    (h : readParams body = some (params, rest)) : ∀ p ∈ params, 0 ∉ p.2 := by
  induction body using readParams.induct generalizing params with
  | case1 body unterminated =>
    rw [readParams_unterminated unterminated] at h
    cases h
  | case2 body after ended =>
    rw [readParams_end ended] at h
    cases h
    exact List.forall_mem_nil _
  | case3 body b bs after named unterminated =>
    rw [readParams_named named (List.cons_ne_nil _ _), unterminated] at h
    cases h
  | case4 body b bs after named value later found ih =>
    rw [readParams_named named (List.cons_ne_nil _ _), found, Option.bind_some,
      Option.map_eq_some_iff] at h
    obtain ⟨⟨params, left⟩, read, same⟩ := h
    cases same
    intro p hp
    rcases List.mem_cons.mp hp with rfl | hp
    · exact (eq_append_of_splitNul found).2
    · exact ih read p hp

def parameterBytes (params : List (String × String)) : List (List UInt8 × List UInt8) :=
  params.map fun (name, value) => (Text.bytes name, Text.bytes value)

def Named (name : String) : Prop := name ≠ "" ∧ NulFree name

instance (name : String) : Decidable (Named name) :=
  inferInstanceAs (Decidable (_ ∧ _))

theorem readParams_params {params : List (String × String)} (named : ∀ p ∈ params, Named p.1)
    (free : ∀ p ∈ params, NulFree p.2) :
    readParams (params.flatMap (fun (name, value) => terminated name ++ terminated value) ++ [0]) =
      some (parameterBytes params, []) := by
  induction params with
  | nil => exact readParams_end rfl
  | cons p params ih =>
    obtain ⟨⟨nonempty, nulFree⟩, named⟩ := List.forall_mem_cons.mp named
    obtain ⟨valueFree, free⟩ := List.forall_mem_cons.mp free
    rw [List.flatMap_cons, List.append_assoc, List.append_assoc,
      readParams_named (splitNul_terminated nulFree _) (Text.bytes_ne_nil nonempty),
      splitNul_terminated valueFree, Option.bind_some]
    dsimp only
    rw [ih named free]
    rfl

theorem body_startup (params : List (String × String)) :
    (Packet.startup params).body =
      0 :: 3 :: 0 :: 0 ::
        (params.flatMap (fun (name, value) => terminated name ++ terminated value) ++ [0]) := by
  rfl

theorem length_encode_startup (params : List (String × String)) :
    (Packet.startup params).encode.length = (Packet.startup params).body.length + 4 := by
  simp only [Packet.encode, Packet.tag?, Option.map_none, Option.toList_none, List.nil_append, word,
    List.length_append, List.length_cons, List.length_nil]
  omega

/-- What is read goes by the length that the packet states. -/
theorem readOpening_word (n : Nat) (more : List UInt8) :
    readOpening (word n ++ more) =
      let length := (Int32.ofNat n).toInt
      if length < 4 ∨ (more.length : Int) + 4 < length then none
      else
        let size := length.toNat - 4
        match more.take size with
        | 0 :: 3 :: 0 :: 0 :: body =>
          (readParams body).map fun (params, ignored) => ⟨params, ignored, more.drop size⟩
        | _ => none := by
  rw [← signedWord_ofNat]
  rfl

/-- What is left behind a packet was not counted by its length. -/
theorem length_of_readOpening {n : Nat} {more : List UInt8} {opening : Opening}
    (h : readOpening (word n ++ more) = some opening) :
    ∃ size, more.length = size + opening.rest.length ∧ size + 4 < 2 ^ 31 := by
  rw [readOpening_word] at h
  dsimp only at h
  have most := (Int32.ofNat n).toInt_lt
  generalize (Int32.ofNat n).toInt = length at h most
  split at h
  · cases h
  · rename_i fits
    split at h
    · obtain ⟨read, -, rfl⟩ := Option.map_eq_some_iff.mp h
      refine ⟨length.toNat - 4, ?_, ?_⟩
      · rw [List.length_drop]
        omega
      · omega
    · cases h

theorem encode_startup_append (params : List (String × String)) (tail : List UInt8) :
    (Packet.startup params).encode ++ tail =
      word ((Packet.startup params).body.length + 4) ++ ((Packet.startup params).body ++ tail) :=
  List.append_assoc _ _ _

/-- A packet whose length can be told is taken whole. -/
theorem readOpening_startup {params : List (String × String)}
    (small : (Packet.startup params).encode.length < 2 ^ 31) (tail : List UInt8) :
    readOpening ((Packet.startup params).encode ++ tail) =
      (readParams (params.flatMap (fun (name, value) => terminated name ++ terminated value) ++
        [0])).map fun (params, ignored) => ⟨params, ignored, tail⟩ := by
  rw [length_encode_startup] at small
  rw [encode_startup_append, readOpening_word, Int32.toInt_ofNat_of_lt small]
  dsimp only
  rw [if_neg (by rw [List.length_append]; omega), Int.toNat_natCast, Nat.add_sub_cancel,
    List.take_left', List.drop_left', body_startup]
  all_goals rfl

/-- A server reads the parameters that were sent, and no others, if and only if no value holds a NUL and the
packet is not too long for its length to be told. -/
theorem readOpening_startup_iff {params : List (String × String)}
    (named : ∀ p ∈ params, Named p.1) (tail : List UInt8) :
    readOpening ((Packet.startup params).encode ++ tail) =
        some ⟨parameterBytes params, [], tail⟩ ↔
      (∀ p ∈ params, NulFree p.2) ∧ (Packet.startup params).encode.length < 2 ^ 31 := by
  constructor
  · intro read
    have small : (Packet.startup params).encode.length < 2 ^ 31 := by
      rw [encode_startup_append] at read
      obtain ⟨size, counted, most⟩ := length_of_readOpening read
      rw [List.length_append, Nat.add_right_cancel_iff] at counted
      rw [length_encode_startup]
      omega
    refine ⟨?_, small⟩
    rw [readOpening_startup small, Option.map_eq_some_iff] at read
    obtain ⟨⟨found, ignored⟩, read, same⟩ := read
    cases same
    intro p hp zero
    refine readParams_free read (Text.bytes p.1, Text.bytes p.2) ?_ (Text.zero_mem_bytes_iff.mpr zero)
    exact List.mem_map.mpr ⟨p, hp, rfl⟩
  · rintro ⟨free, small⟩
    rw [readOpening_startup small, readParams_params named free]
    rfl

end Passage.Wire

namespace Passage.Login

open Wire

/-- What a login asks for, by name. -/
def Credentials.params (c : Credentials) : List (String × String) :=
  [("user", c.user), ("database", c.database)] ++
    (c.applicationName.map fun name => ("application_name", name)).toList

theorem Credentials.params_named (c : Credentials) : ∀ p ∈ c.params, Named p.1 := by
  have names : ∀ p ∈ c.params, p.1 ∈ ["user", "database", "application_name"] := by
    unfold params
    cases c.applicationName <;> simp
  have table : ∀ name ∈ ["user", "database", "application_name"], Named name := by decide
  intro p hp
  exact table p.1 (names p hp)

theorem Credentials.params_free_iff (c : Credentials) :
    (∀ p ∈ c.params, NulFree p.2) ↔
      NulFree c.user ∧ NulFree c.database ∧ ∀ name, c.applicationName = some name → NulFree name := by
  unfold params
  cases c.applicationName <;> simp

/-- Whatever stream a login runs over, it opens with its parameters. -/
theorem connect_opening {s : Settings} {around : Surroundings} {r : DriverRequest} {peer : Peer}
    {conn : Connection} {session : Session} (h : (connect s around r peer).connection = some conn)
    (talks : conn.step = .talking session) :
    ∃ later, session.sent = .startup (credentialsFor s around r).params :: later := by
  obtain ⟨tls, heard, -, -, rfl⟩ := connect_connection h
  have heardOf : ∃ after, session = (Session.start (credentialsFor s around r)).attend
      around.primitives (credentialsFor s around r) after := by
    cases tls with
    | none =>
      rw [Connection.start, Connection.login_run] at talks
      exact ⟨heard, (Step.talking.inj talks).symm⟩
    | some settings =>
      obtain ⟨_, after, -, -, -, same⟩ :=
        (Connection.start_run_asked around.primitives _ _ settings heard).of_talking talks
      exact ⟨after, same⟩
  obtain ⟨after, rfl⟩ := heardOf
  obtain ⟨later, sent, -⟩ := Session.attend_sent around.primitives (credentialsFor s around r) after
  exact ⟨later, sent⟩

/-- The first thing that a login says is read as exactly the user, the database and, if there is one, the name
of the application, and as a whole packet, if and only if none of these holds a NUL and the packet is not too
long for its length to be told. -/
theorem opening_unmixed_iff (s : Settings) (around : Surroundings) (r : DriverRequest) (peer : Peer)
    {conn : Connection} {session : Session} (h : (connect s around r peer).connection = some conn)
    (talks : conn.step = .talking session) :
    let user := r.user.getD around.systemUser
    let database := r.database.getD user
    let asked := [("user", user), ("database", database)] ++
      (s.applicationName.map fun name => ("application_name", name)).toList
    ∃ opening later, session.sent = opening :: later ∧ ∀ tail,
      readOpening (opening.encode ++ tail) = some ⟨parameterBytes asked, [], tail⟩ ↔
        (NulFree user ∧ NulFree database ∧
          ∀ name, s.applicationName = some name → NulFree name) ∧
        opening.encode.length < 2 ^ 31 := by
  intro user database asked
  obtain ⟨later, sent⟩ := connect_opening h talks
  refine ⟨_, later, sent, fun tail => ?_⟩
  have whole := readOpening_startup_iff (credentialsFor s around r).params_named tail
  exact whole.trans (and_congr_left fun _ => (credentialsFor s around r).params_free_iff)

/-- An empty user and a database whose name looks like more parameters are read as they are. -/
theorem opening_unmixed_odd :
    let r : DriverRequest := {
      dialect := .postgres, host := "db.internal", port := 5432, serverName := "db.internal"
      database := some "app replication=true", user := some "", password := none
      sslMode := .disabled, tls := .disabled, timeout := none }
    let s : Settings := { applicationName := some "psql" }
    let started := Connection.start (credentialsFor s plainSurroundings r) r.serverName none
    (connect s plainSurroundings r (.ends 0 (.ok []))).connection = some started ∧
      ∃ session, started.step = .talking session ∧ ∃ opening later,
        session.sent = opening :: later ∧ readOpening (opening.encode ++ [112]) = some
          ⟨parameterBytes [("user", ""), ("database", "app replication=true"),
            ("application_name", "psql")], [], [112]⟩ := by
  intro r s started
  have reached : (connect s plainSurroundings r (.ends 0 (.ok []))).connection = some started := rfl
  obtain ⟨opening, later, sent, read⟩ :=
    opening_unmixed_iff s plainSurroundings r (.ends 0 (.ok [])) reached rfl
  refine ⟨reached, _, rfl, opening, later, sent, (read [112]).mpr ⟨by decide, ?_⟩⟩
  cases sent
  decide

/-- A URI whose user goes on behind a NUL asks for a parameter of its own. -/
theorem opening_smuggled :
    let options : Options :=
      { target := .uri "postgres://app\x00replication\x00true@db.internal/app" }
    ∃ resolved, options.resolve = .ok resolved ∧
      resolved.user = some "app\x00replication\x00true" ∧
      let r := resolved.request .disabled .disabled
      ∃ conn session, (connect {} plainSurroundings r (.ends 0 (.ok []))).connection = some conn ∧
        conn.step = .talking session ∧ ∃ opening later, session.sent = opening :: later ∧
          readOpening opening.encode = some
            ⟨parameterBytes [("user", "app"), ("replication", "true"), ("database", "app")], [], []⟩ := by
  intro options
  have checked : options.resolve = .ok
      { dialect := .postgres, host := "db.internal", port := 5432, serverName := "db.internal"
        database := some "app", user := some "app\x00replication\x00true", password := none
        sslMode := .preferred, proxy := none, ssh := none, timeout := none, dialectOptions := none
        uri := some
          { lead := "postgres://app\x00replication\x00true@", authority := "db.internal"
            tail := "/app", dialect := .postgres, user := some "app\x00replication\x00true"
            password := none, host := "db.internal", port := none, database := some "app"
            query := "" } } := by cbv
  refine ⟨_, checked, rfl, ?_⟩
  intro r
  refine ⟨_, Session.start (credentialsFor {} plainSurroundings r), rfl, rfl, _, _, rfl, ?_⟩
  cbv

end Passage.Login
