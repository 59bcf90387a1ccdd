import Passage.Login.Driver
import Passage.Proofs.Login.Speech

namespace Passage.Tls

theorem isSome_request (options : TlsOptions) : (request? options).isSome = options.usesTls := by
  cases options with
  | disabled => rfl
  | ssl reject => rfl
  | encrypt on trust => cases on <;> rfl
  | manual value =>
    simp only [request?]
    split
    · rename_i uses
      simp [uses]
    · rename_i plain
      simpa using plain

theorem settingsFor_isSome {parsable : List UInt8 → Bool} {files : Files} {ca : Option String}
    {options : TlsOptions} {tls : Option Settings}
    (h : settingsFor parsable files ca options = .ok tls) : tls.isSome = options.usesTls := by
  have hr := isSome_request options
  unfold settingsFor at h
  split at h
  · rename_i hn
    cases h
    simpa [hn] using hr
  · rename_i hs
    cases hb : Settings.build parsable files _ _ with
    | error defect =>
      rw [hb] at h
      cases h
    | ok settings =>
      rw [hb] at h
      cases h
      simpa [hs] using hr

end Passage.Tls

namespace Passage.Login

open Wire (Packet)

def received (events : List Event) : List UInt8 :=
  events.flatMap fun
    | .bytes data => data
    | _ => []

theorem received_append (a b : List Event) : received (a ++ b) = received a ++ received b :=
  List.flatMap_append

/-- All that the server said in clear is its yes: nothing was read before it and nothing came with it.
What follows belongs to the handshake. -/
def OnlyYes (events : List Event) : Prop :=
  ∃ before handshake, events = before ++ .bytes [83] :: handshake ∧ received before = []

theorem OnlyYes.append {events : List Event} (h : OnlyYes events) (more : List Event) :
    OnlyYes (events ++ more) := by
  obtain ⟨before, handshake, rfl, silent⟩ := h
  exact ⟨before, handshake ++ more, by simp, silent⟩

namespace Connection

/-- Where a connection that asks for TLS can be after some events. A login is only ever found behind a
handshake, and has heard nothing but what came after it. -/
inductive Asked (p : Scram.Primitives) (c : Credentials) (serverName : String)
    (settings : Tls.Settings) : List Event → Connection → Prop where
  | waiting {events : List Event} (silent : received events = []) :
      Asked p c serverName settings events (start c serverName (some settings))
  | refused {events : List Event} (fault : Fault) :
      Asked p c serverName settings events ((start c serverName (some settings)).refuse fault)
  | handshaking {events : List Event} (name : String) (yes : OnlyYes events) :
      Asked p c serverName settings events
        { start c serverName (some settings) with step := .handshaking settings name }
  | secured {events : List Event} (yes : OnlyYes events) (after : List Event) :
      Asked p c serverName settings (events ++ .handshake true :: after)
        ((start c serverName (some settings)).secure.run p after)

section

variable {p : Scram.Primitives} {c : Credentials} {serverName : String} {settings : Tls.Settings}
  {events : List Event} {conn : Connection}

/-- Only a yes that comes alone starts the handshake. -/
theorem answer_cases (conn : Connection) (settings : Tls.Settings) (byte : UInt8)
    (rest : List UInt8) :
    (byte = 83 ∧ rest = [] ∧
      ∃ name, conn.answer settings byte rest = { conn with step := .handshaking settings name }) ∨
    ∃ fault, conn.answer settings byte rest = conn.refuse fault := by
  unfold answer
  split
  · rename_i yes
    split
    · rename_i alone
      split
      · exact .inl ⟨yes, List.isEmpty_iff.mp alone, _, rfl⟩
      · exact .inr ⟨_, rfl⟩
    · exact .inr ⟨_, rfl⟩
  · split
    · exact .inr ⟨_, rfl⟩
    · exact .inr ⟨_, rfl⟩

theorem waiting_receive (silent : received events = []) (event : Event) :
    Asked p c serverName settings (events ++ [event])
      ((start c serverName (some settings)).receive p event) := by
  cases event with
  | bytes data =>
    cases data with
    | nil => exact .waiting (by rw [received_append, silent]; rfl)
    | cons byte rest =>
      change Asked p c serverName settings _
        ((start c serverName (some settings)).answer settings byte rest)
      rcases answer_cases (start c serverName (some settings)) settings byte rest with
        ⟨rfl, rfl, name, he⟩ | ⟨fault, he⟩
      · rw [he]
        exact .handshaking name ⟨events, [], rfl, silent⟩
      · rw [he]
        exact .refused fault
  | ended => exact .refused _
  | broken fault => exact .refused _
  | handshake succeeded => exact .waiting (by rw [received_append, silent]; rfl)

theorem handshaking_receive {name : String} (yes : OnlyYes events) (event : Event) :
    Asked p c serverName settings (events ++ [event])
      (({ start c serverName (some settings) with
        step := .handshaking settings name }).receive p event) := by
  cases event with
  | bytes data => exact .handshaking name (yes.append _)
  | ended => exact .refused _
  | broken fault => exact .refused _
  | handshake succeeded =>
    cases succeeded with
    | false => exact .refused _
    | true => exact .secured yes []

theorem Asked.receive (h : Asked p c serverName settings events conn) (event : Event) :
    Asked p c serverName settings (events ++ [event]) (conn.receive p event) := by
  cases h with
  | waiting silent => exact waiting_receive silent event
  | refused fault => exact .refused fault
  | handshaking name yes => exact handshaking_receive yes event
  | @secured opening yes after =>
    have hr := run_append p (start c serverName (some settings)).secure after [event]
    change Asked p c serverName settings _
      (((start c serverName (some settings)).secure.run p after).run p [event])
    rw [← hr, List.append_assoc]
    exact .secured yes (after ++ [event])

theorem Asked.run (h : Asked p c serverName settings events conn) (more : List Event) :
    Asked p c serverName settings (events ++ more) (conn.run p more) := by
  induction more generalizing events conn with
  | nil => simpa [Connection.run] using h
  | cons event more ih => simpa [Connection.run] using ih (h.receive event)

theorem start_run_asked (p : Scram.Primitives) (c : Credentials) (serverName : String)
    (settings : Tls.Settings) (events : List Event) :
    Asked p c serverName settings events ((start c serverName (some settings)).run p events) := by
  have first : Asked p c serverName settings [] (start c serverName (some settings)) :=
    .waiting rfl
  exact first.run events

/-- The request for TLS is all that such a connection ever says in clear. -/
theorem Asked.clearBytes_eq (h : Asked p c serverName settings events conn) :
    conn.clearBytes = Packet.sslRequest.encode := by
  cases h with
  | waiting silent => simp [clearBytes, start, ask, write]
  | refused fault => simp [clearBytes, start, ask, write, refuse]
  | handshaking name yes => simp [clearBytes, start, ask, write]
  | secured yes after =>
    simp [clearBytes, secure, login_run, start, ask, write, List.filter_map, Function.comp_def]

/-- What the login has heard came after the handshake. -/
theorem Asked.of_talking (h : Asked p c serverName settings events conn) {s : Session}
    (talks : conn.step = .talking s) :
    ∃ opening after, events = opening ++ .handshake true :: after ∧ OnlyYes opening ∧
      conn.secured = true ∧ s = (Session.start c).attend p c after := by
  cases h with
  | waiting silent => cases talks
  | refused fault => cases talks
  | handshaking name yes => cases talks
  | @secured opening yes after =>
    rw [secure, login_run] at talks ⊢
    refine ⟨opening, after, rfl, yes, rfl, ?_⟩
    exact (Step.talking.inj talks).symm

theorem Asked.of_handshaking (h : Asked p c serverName settings events conn)
    {settings' : Tls.Settings} {name : String} (shakes : conn.step = .handshaking settings' name) :
    OnlyYes events := by
  cases h with
  | waiting silent => cases shakes
  | refused fault => cases shakes
  | handshaking name yes => exact yes
  | secured yes after =>
    rw [secure, login_run] at shakes
    cases shakes

end

theorem talking_of_ok {conn : Connection} (h : conn.outcome? = some (.ok ())) :
    ∃ s, conn.step = .talking s ∧ s.exchange.stage = .ready := by
  unfold outcome? at h
  split at h
  · cases h
  · rename_i s hs
    split at h
    · rename_i ready
      exact ⟨s, hs, ready⟩
    · cases h
    · cases h
  · cases h

/-- Without TLS the login begins at once, in clear, and TLS is never asked for. -/
theorem start_run_plain (p : Scram.Primitives) (c : Credentials) (serverName : String)
    (events : List Event) :
    ((start c serverName none).run p events).secured = false ∧
      ∀ w ∈ ((start c serverName none).run p events).written, w.packet ≠ .sslRequest := by
  obtain ⟨proofs, hsent, hproofs⟩ := Session.attend_sent p c events
  rw [start, login_run, hsent]
  refine ⟨rfl, ?_⟩
  intro w hw he
  simp only [List.nil_append, List.mem_map, List.mem_cons] at hw
  obtain ⟨packet, hp, rfl⟩ := hw
  rcases hp with rfl | hp
  · cases he
  · have := hproofs packet hp
    rw [show packet = .sslRequest from he] at this
    cases this

theorem course_run (p : Scram.Primitives) (c : Connection) (timed : List (Nat × Event)) :
    ∃ heard, heard <+: timed.map Prod.snd ∧ (c.course p timed).2 = c.run p heard ∧
      ∀ after last, (c.course p timed).1 = .ends after (.ok last) →
        last = c.run p heard ∧ last.outcome? = some (.ok ()) := by
  -- Before each event the connection may turn out to be done, and then nothing more is heard.
  induction timed generalizing c with
  | nil =>
    refine ⟨[], List.nil_prefix, ?_⟩
    cases ho : c.outcome? with
    | none => simp [course, ho, run]
    | some result => cases result <;> simp_all [course, run, Except.map]
  | cons first timed ih =>
    obtain ⟨delay, event⟩ := first
    cases ho : c.outcome? with
    | none =>
      obtain ⟨heard, hp, hl, hr⟩ := ih (c.receive p event)
      refine ⟨event :: heard, by simpa using hp, by simp [course, ho, hl, run], ?_⟩
      intro after last h
      simp only [course, ho] at h
      cases hc : ((c.receive p event).course p timed).1 with
      | never => simp [hc, Course.later] at h
      | ends early result =>
        simp only [hc, Course.later, Course.ends.injEq] at h
        obtain ⟨-, rfl⟩ := h
        exact hr early last hc
    | some result =>
      refine ⟨[], List.nil_prefix, ?_⟩
      cases result <;> simp_all [course, run, Except.map]

end Connection

def Peer.events : Peer → List Event
  | .ends _ (.ok timed) => timed.map Prod.snd
  | _ => []

theorem dialled_ok {r : DriverRequest} {peer : Peer} {after : Nat} {timed : List (Nat × Event)}
    (h : dialled r peer = .ends after (.ok timed)) : peer = .ends after (.ok timed) := by
  unfold dialled at h
  split at h
  · unfold Course.within at h
    split at h
    · exact h
    · cases h
  · exact h

variable {s : Settings} {around : Surroundings} {r : DriverRequest} {peer : Peer}

/-- An attempt either gets no connection at all, or runs one by the clock, with TLS if the options ask
for it. -/
theorem connect_cases (s : Settings) (around : Surroundings) (r : DriverRequest) (peer : Peer) :
    ((connect s around r peer).connection = none ∧
      ∀ after opened, (connect s around r peer).course ≠ .ends after (.ok opened)) ∨
    ∃ tls before timed, tls.isSome = r.tls.usesTls ∧ peer = .ends before (.ok timed) ∧
      let ran := (Connection.start (credentialsFor s around r) r.serverName tls).course
        around.primitives timed
      connect s around r peer =
        { course := (ran.1.map fun result => result.map (Opened.of r.sslMode)).later before
          connection := some ran.2 } := by
  unfold connect
  cases hp : prepare s around r with
  | error defect => exact .inl ⟨rfl, by simp⟩
  | ok tls =>
    have htls : tls.isSome = r.tls.usesTls := by
      unfold prepare at hp
      split at hp
      · cases hp
      · exact Tls.settingsFor_isSome hp
    cases hd : dialled r peer with
    | never => exact .inl ⟨rfl, by simp⟩
    | ends before result =>
      cases result with
      | error fault => exact .inl ⟨rfl, by simp⟩
      | ok timed => exact .inr ⟨tls, before, timed, htls, dialled_ok hd, rfl⟩

/-- The connection of an attempt has run on what its peer had to say, up to some point. -/
theorem connect_connection {c : Connection}
    (h : (connect s around r peer).connection = some c) :
    ∃ tls heard, tls.isSome = r.tls.usesTls ∧ heard <+: Peer.events peer ∧
      c = (Connection.start (credentialsFor s around r) r.serverName tls).run
        around.primitives heard := by
  rcases connect_cases s around r peer with ⟨none, -⟩ | ⟨tls, before, timed, htls, rfl, he⟩
  · rw [none] at h
    cases h
  · obtain ⟨heard, hheard, hlast, -⟩ := Connection.course_run around.primitives
      (Connection.start (credentialsFor s around r) r.serverName tls) timed
    rw [he, Option.some.injEq] at h
    exact ⟨tls, heard, htls, hheard, by rw [← h, hlast]⟩

/-- An attempt that succeeds offers its own connection, on which the login went well. -/
theorem connect_ok {after : Nat} {opened : Opened}
    (h : (connect s around r peer).course = .ends after (.ok opened)) :
    ∃ c, (connect s around r peer).connection = some c ∧ c.outcome? = some (.ok ()) ∧
      opened = Opened.of r.sslMode c := by
  rcases connect_cases s around r peer with ⟨-, none⟩ | ⟨tls, before, timed, -, rfl, he⟩
  · exact absurd h (none after opened)
  · obtain ⟨heard, -, hlast, hok⟩ := Connection.course_run around.primitives
      (Connection.start (credentialsFor s around r) r.serverName tls) timed
    rw [he] at h ⊢
    dsimp only at h
    cases hc : ((Connection.start (credentialsFor s around r) r.serverName tls).course
        around.primitives timed).1 with
    | never =>
      rw [hc] at h
      cases h
    | ends early result =>
      rw [hc] at h
      cases result with
      | error fault => cases h
      | ok last =>
        cases h
        obtain ⟨rfl, well⟩ := hok early last hc
        exact ⟨_, by rw [hlast], well, rfl⟩

theorem connect_asked {c : Connection} (asks : r.tls.usesTls = true)
    (h : (connect s around r peer).connection = some c) :
    ∃ settings heard, heard <+: Peer.events peer ∧
      Connection.Asked around.primitives (credentialsFor s around r) r.serverName settings
        heard c := by
  obtain ⟨tls, heard, htls, hheard, rfl⟩ := connect_connection h
  obtain ⟨settings, rfl⟩ := Option.isSome_iff_exists.mp (htls.trans asks)
  exact ⟨settings, heard, hheard, Connection.start_run_asked around.primitives _ _ settings heard⟩

theorem connect_plain {c : Connection} (plain : r.tls.usesTls = false)
    (h : (connect s around r peer).connection = some c) :
    c.secured = false ∧ ∀ w ∈ c.written, w.packet ≠ .sslRequest := by
  obtain ⟨tls, heard, htls, -, rfl⟩ := connect_connection h
  obtain rfl : tls = none := by simpa [plain] using htls
  exact Connection.start_run_plain around.primitives _ _ heard

/-- Where the options ask for TLS, nothing but the request for it is ever sent in clear, a connection
that is handed out is encrypted, the handshake only begins when all that was read is the server's yes,
and a login hears nothing from before the handshake. Where they do not, TLS is never asked for. -/
theorem connect_clear (s : Settings) (around : Surroundings) (r : DriverRequest) (peer : Peer) :
    (r.tls.usesTls = true →
      (connect s around r peer).clearBytes <+: Packet.sslRequest.encode ∧
      (∀ after opened, (connect s around r peer).course = .ends after (.ok opened) →
        opened.secured = true) ∧
      ∀ c, (connect s around r peer).connection = some c →
        ∃ heard, heard <+: Peer.events peer ∧
          (∀ settings name, c.step = .handshaking settings name → OnlyYes heard) ∧
          ∀ session, c.step = .talking session →
            ∃ opening after, heard = opening ++ .handshake true :: after ∧ OnlyYes opening ∧
              session = (Session.start (credentialsFor s around r)).attend around.primitives
                (credentialsFor s around r) after) ∧
    (r.tls.usesTls = false →
      (∀ c, (connect s around r peer).connection = some c →
        ∀ w ∈ c.written, w.packet ≠ .sslRequest) ∧
      ∀ after opened, (connect s around r peer).course = .ends after (.ok opened) →
        opened.secured = false) := by
  refine ⟨fun asks => ⟨?_, ?_, ?_⟩, fun plain => ⟨?_, ?_⟩⟩
  · unfold Attempted.clearBytes
    cases hc : (connect s around r peer).connection with
    | none => exact List.nil_prefix
    | some c =>
      obtain ⟨settings, heard, -, asked⟩ := connect_asked asks hc
      simp only [Option.map_some, Option.getD_some, asked.clearBytes_eq]
      exact List.prefix_rfl
  · intro after opened h
    obtain ⟨c, hc, well, rfl⟩ := connect_ok h
    obtain ⟨settings, heard, -, asked⟩ := connect_asked asks hc
    obtain ⟨session, talks, -⟩ := Connection.talking_of_ok well
    obtain ⟨_, _, _, _, secured, _⟩ := asked.of_talking talks
    exact secured
  · intro c hc
    obtain ⟨settings, heard, hheard, asked⟩ := connect_asked asks hc
    refine ⟨heard, hheard, fun _ _ shakes => asked.of_handshaking shakes, ?_⟩
    intro session talks
    obtain ⟨opening, after, he, yes, -, hs⟩ := asked.of_talking talks
    exact ⟨opening, after, he, yes, hs⟩
  · intro c hc
    exact (connect_plain plain hc).2
  · intro after opened h
    obtain ⟨c, hc, -, rfl⟩ := connect_ok h
    exact (connect_plain plain hc).1

example :
    let around : Surroundings := ⟨.sha256, fun _ => .error .missingFile, fun _ => true, "", "abc"⟩
    let r : DriverRequest :=
      ⟨.postgres, "127.0.0.1", 5432, "db.internal", none, some "app", none, .required, .ssl false,
        none⟩
    let peer : Peer := .ends 2 (.ok [(0, .bytes [83]), (1, .handshake true),
      (0, .bytes [82, 0, 0, 0, 8, 0, 0, 0, 0, 90, 0, 0, 0, 5, 73])])
    let a := connect {} around r peer
    (a.course.outcome?.bind (·.toOption)).map (·.secured) = some true ∧
      a.clearBytes = Packet.sslRequest.encode := by
  decide +kernel

end Passage.Login
