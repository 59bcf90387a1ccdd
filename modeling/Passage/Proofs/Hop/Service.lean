import Passage.Proofs.Hop.Attribution
import Passage.Proofs.Text.Decoding

namespace Passage.Socks

open Passage.Flow

def counted? : List UInt8 → Option (List UInt8 × List UInt8)
  | [] => none
  | length :: more =>
    if length.toNat ≤ more.length then some (more.take length.toNat, more.drop length.toNat) else none

/-- The ways to log in that a client offers. -/
def greeting? : List UInt8 → Option (List UInt8 × List UInt8)
  | [] => none
  | version :: more => if version = 5 then counted? more else none

def passwordRequest? : List UInt8 → Option ((List UInt8 × List UInt8) × List UInt8)
  | [] => none
  | version :: more =>
    if version = 1 then do
      let (user, more) ← counted? more
      let (password, more) ← counted? more
      return ((user, password), more)
    else none

def address? : List UInt8 → Option (Address × List UInt8)
  | [] => none
  | type :: more =>
    if type = 1 then if 4 ≤ more.length then some (.ip4 (more.take 4), more.drop 4) else none
    else if type = 4 then if 16 ≤ more.length then some (.ip6 (more.take 16), more.drop 16) else none
    else if type = 3 then (counted? more).map fun (name, more) => (.name name, more)
    else none

/-- The destination of a request to connect. -/
def connectRequest? : List UInt8 → Option (Address × UInt16)
  | version :: command :: reserved :: more =>
    if version = 5 ∧ command = 1 ∧ reserved = 0 then
      match address? more with
      | some (address, high :: low :: _) => some (address, UInt16.ofNat (high.toNat * 256 + low.toNat))
      | _ => none
    else none
  | _ => none

/-- The host that an address stands for. -/
inductive Denotes : Address → String → Prop where
  | ip4 {octets : List UInt8} {host : String} (literal : ipv4? host.toList = some octets) :
      Denotes (.ip4 octets) host
  | ip6 {octets : List UInt8} {host : String} (literal : ipv6? host.toList = some octets) :
      Denotes (.ip6 octets) host
  | name {data : List UInt8} {host : String} (readable : Text.text? data = some host) : Denotes (.name data) host

theorem counted?_counted {data : List UInt8} (short : data.length < 256) (more : List UInt8) :
    counted? (counted data ++ more) = some (data, more) := by
  have length : (UInt8.ofNat data.length).toNat = data.length := Nat.mod_eq_of_lt short
  have enough : data.length ≤ (data ++ more).length := by
    rw [List.length_append]
    exact Nat.le_add_right data.length more.length
  rw [counted, List.cons_append, counted?, length, if_pos enough, List.take_left, List.drop_left]

theorem passwordRequest?_passwordRequest {user password : List UInt8} (short_user : user.length < 256)
    (short_password : password.length < 256) (more : List UInt8) :
    passwordRequest? (passwordRequest user password ++ more) = some ((user, password), more) := by
  rw [passwordRequest, List.cons_append, List.cons_append, List.append_assoc, passwordRequest?, if_pos rfl,
    counted?_counted short_user]
  change ((counted? (counted password ++ more)).bind fun (password, more) => some ((user, password), more)) = _
  rw [counted?_counted short_password]
  rfl

theorem port_portBytes (port : UInt16) :
    UInt16.ofNat ((UInt8.ofNat (port.toNat / 256)).toNat * 256 + (UInt8.ofNat port.toNat).toNat) = port := by
  have small := port.toNat_lt
  have high : (UInt8.ofNat (port.toNat / 256)).toNat = port.toNat / 256 := Nat.mod_eq_of_lt (by omega)
  have low : (UInt8.ofNat port.toNat).toNat = port.toNat % 256 := rfl
  rw [high, low, Nat.div_add_mod', UInt16.ofNat_toNat]

/-- A proxy reads the address of a host as one that stands for it. -/
theorem address?_ofHost {host : String} (short : (Text.bytes host).length < 256) (more : List UInt8) :
    address? ((Address.ofHost host).encode ++ more) = some (Address.ofHost host, more) ∧
      Denotes (Address.ofHost host) host := by
  unfold Address.ofHost ipLiteral?
  cases four : ipv4? host.toList with
  | some octets =>
    have length := length_of_ipv4? four
    dsimp only [Option.some_or]
    rw [if_pos length]
    refine ⟨?_, .ip4 four⟩
    rw [Address.encode, List.cons_append, address?, if_pos rfl, ← length, List.take_left, List.drop_left, if_pos]
    exact List.length_append ▸ Nat.le_add_right octets.length more.length
  | none =>
    cases sixteen : ipv6? host.toList with
    | some octets =>
      have length := length_of_ipv6? sixteen
      dsimp only [Option.none_or]
      rw [if_neg (by omega)]
      refine ⟨?_, .ip6 sixteen⟩
      rw [Address.encode, List.cons_append, address?, if_neg (by decide), if_pos rfl, ← length, List.take_left,
        List.drop_left, if_pos]
      exact List.length_append ▸ Nat.le_add_right octets.length more.length
    | none =>
      refine ⟨?_, .name (Text.text?_bytes host)⟩
      change address? (3 :: (counted (Text.bytes host) ++ more)) = _
      rw [address?, if_neg (by decide), if_neg (by decide), if_pos rfl, counted?_counted short]
      rfl

theorem connectRequest?_connectRequest {host : String} (short : (Text.bytes host).length < 256) (port : UInt16)
    (more : List UInt8) :
    connectRequest? (connectRequest (Address.ofHost host) port ++ more) = some (Address.ofHost host, port) := by
  obtain ⟨read, -⟩ := address?_ofHost short (portBytes port ++ more)
  have whole : connectRequest (Address.ofHost host) port ++ more =
      5 :: 1 :: 0 :: ((Address.ofHost host).encode ++ (portBytes port ++ more)) := by
    simp [connectRequest]
  rw [whole, connectRequest?, if_pos ⟨rfl, rfl, rfl⟩, read]
  exact congrArg (fun port => some (Address.ofHost host, port)) (port_portBytes port)

/-- A proxy that serves every request of everyone whose password it accepts. -/
structure Service where
  /-- Which way to log in it takes of those that are offered. -/
  choose : List UInt8 → UInt8
  offered : ∀ methods, methods ≠ [] → choose methods ∈ methods
  accepts : List UInt8 → List UInt8 → Bool
  /-- The address that it connects from, and the type of this. -/
  bound : List UInt8
  type : UInt8
  wellFormed : Bound type bound

namespace Service

variable (service : Service)

/-- What it has sent, and the destination that it was asked for, when it has received this since the login. -/
def request (received : List UInt8) : List UInt8 × Option (Address × UInt16) :=
  match connectRequest? received with
  | none => ([], none)
  | some destination => (5 :: 0 :: 0 :: service.type :: service.bound, some destination)

def login (received : List UInt8) : List UInt8 × Option (Address × UInt16) :=
  match passwordRequest? received with
  | none => ([], none)
  | some ((user, password), more) =>
    if service.accepts user password then (1 :: 0 :: (service.request more).1, (service.request more).2)
    else ([1, 1], none)

def serve (received : List UInt8) : List UInt8 × Option (Address × UInt16) :=
  match greeting? received with
  | none => ([], none)
  | some (methods, more) =>
    let served := if service.choose methods = 2 then service.login more else service.request more
    (5 :: service.choose methods :: served.1, served.2)

variable {service} {host : String} {port : UInt16}

theorem request_connectRequest (short : (Text.bytes host).length < 256) (more : List UInt8) :
    service.request (connectRequest (Address.ofHost host) port ++ more) =
      (5 :: 0 :: 0 :: service.type :: service.bound, some (Address.ofHost host, port)) := by
  rw [request, connectRequest?_connectRequest short]

theorem request_whole (short : (Text.bytes host).length < 256) :
    service.request (connectRequest (Address.ofHost host) port) =
      (5 :: 0 :: 0 :: service.type :: service.bound, some (Address.ofHost host, port)) := by
  have whole : service.request (connectRequest (Address.ofHost host) port ++ []) = _ :=
    request_connectRequest short []
  rwa [List.append_nil] at whole

theorem login_passwordRequest {user password : List UInt8} (short_user : user.length < 256)
    (short_password : password.length < 256) (accepted : service.accepts user password = true) (more : List UInt8) :
    service.login (passwordRequest user password ++ more) =
      (1 :: 0 :: (service.request more).1, (service.request more).2) := by
  rw [login, passwordRequest?_passwordRequest short_user short_password]
  exact if_pos accepted

theorem serve_of_choose {login : Login} (methods : List UInt8) (greeted : greeting login = 5 :: counted methods)
    (short : methods.length < 256) (more : List UInt8) :
    service.serve (greeting login ++ more) =
      (5 :: service.choose methods ::
          (if service.choose methods = 2 then service.login more else service.request more).1,
        (if service.choose methods = 2 then service.login more else service.request more).2) := by
  rw [serve, greeted, List.cons_append, greeting?, if_pos rfl, counted?_counted short]

/-- The proxy lets the client in or asks for a password, and this only if the client has one. -/
theorem serve_greeting (service : Service) (login : Login) :
    (∀ more, service.serve (greeting login ++ more) =
      (5 :: 0 :: (service.request more).1, (service.request more).2)) ∨
    ∃ user password, login = some (user, password) ∧ ∀ more, service.serve (greeting login ++ more) =
      (5 :: 2 :: (service.login more).1, (service.login more).2) := by
  rcases login with _ | ⟨user, password⟩
  · have free : service.choose [0] = 0 := List.mem_singleton.mp (service.offered [0] (List.cons_ne_nil 0 []))
    left
    intro more
    rw [serve_of_choose [0] rfl (by decide), free]
    rfl
  · rcases List.mem_pair.mp (service.offered [0, 2] (List.cons_ne_nil 0 [2])) with free | asks
    · left
      intro more
      rw [serve_of_choose [0, 2] rfl (by decide), free]
      rfl
    · right
      refine ⟨user, password, rfl, ?_⟩
      intro more
      rw [serve_of_choose [0, 2] rfl (by decide), asks]
      rfl

/-- The proxy accepts the login, the parts of which can be counted in a byte. -/
def Knows (service : Service) (login : Login) : Prop :=
  ∀ user password, login = some (user, password) →
    user.length < 256 ∧ password.length < 256 ∧ service.accepts user password = true

end Service

/-- What a stream brings answers what is sent in the conversation that is held on it. -/
def Answered (answer : List UInt8 → List UInt8) (talk : Talk Failure Unit) (s : Tape) : Prop :=
  ∀ more, (talk.hold .io s).2.sent = s.sent ++ more → s.bytes = answer more

section

variable {service : Service} {login : Login} {host : String} {port : UInt16} {s : Tape}

theorem takes_of_free (free : s.room = none) (data : List UInt8) : s.takes data = true := by
  rw [Tape.takes, free]
  rfl

theorem room_after (free : s.room = none) {data rest : List UInt8} : (s.after data rest).room = none := by
  rw [Tape.after, free]
  rfl

theorem sent_authenticate (free : s.room = none) (f : Unit → Talk Failure Unit) :
    ∃ more, ((authenticate login >>= f).hold .io s).2.sent = s.sent ++ (greeting login ++ more) := by
  obtain ⟨first, greeted⟩ : ∃ more, ((authenticate login).hold .io s).2.sent = s.sent ++ (greeting login ++ more) :=
    Talk.sent_write _ (takes_of_free free _)
  obtain ⟨more, sent⟩ := Talk.sent_bind (authenticate login) f s
  refine ⟨first ++ more, ?_⟩
  rw [sent, greeted, List.append_assoc, List.append_assoc]

theorem sent_authenticate_password {user password rest : List UInt8} (free : s.room = none)
    (arrived : s.bytes = 5 :: 2 :: rest) (f : Unit → Talk Failure Unit) :
    ∃ more, ((authenticate (some (user, password)) >>= f).hold .io s).2.sent =
      s.sent ++ (greeting (some (user, password)) ++ passwordRequest user password ++ more) := by
  have greeted : s.takes (greeting (some (user, password))) = true := takes_of_free free _
  obtain ⟨first, given⟩ : ∃ more,
      ((logIn user password).hold .io (s.after (greeting (some (user, password))) rest)).2.sent =
        s.sent ++ greeting (some (user, password)) ++ (passwordRequest user password ++ more) :=
    Talk.sent_write _ (takes_of_free (room_after free) _)
  obtain ⟨more, sent⟩ := Talk.sent_bind (authenticate (some (user, password))) f s
  refine ⟨first ++ more, ?_⟩
  rw [sent, hold_authenticate_password greeted arrived, given]
  simp only [List.append_assoc]

/-- There is a way to log in that the proxy goes along with; and the client takes it, whatever it asks for then. -/
theorem exists_login (known : service.Knows login) :
    ∃ sent answers, (∀ rest, Admits login (answers ++ rest) sent rest) ∧
      (∀ more, service.serve (sent ++ more) = (answers ++ (service.request more).1, (service.request more).2)) ∧
      ∀ (s : Tape) (f : Unit → Talk Failure Unit), s.room = none →
        Answered (fun received => (service.serve received).1) (authenticate login >>= f) s →
        ∃ more, ((authenticate login >>= f).hold .io s).2.sent = s.sent ++ (sent ++ more) := by
  rcases service.serve_greeting login with freely | ⟨user, password, rfl, asks⟩
  · refine ⟨greeting login, [5, 0], fun rest => .freely login rest, freely, ?_⟩
    intro s f free answered
    exact sent_authenticate free f
  · obtain ⟨short_user, short_password, accepted⟩ := known user password rfl
    refine ⟨_, [5, 2, 1, 0], fun rest => .byPassword user password rest, ?_, ?_⟩
    · intro more
      rw [List.append_assoc, asks, Service.login_passwordRequest short_user short_password accepted]
      rfl
    · intro s f free answered
      -- the greeting is sent whatever arrives, so that what arrives begins with the answer to it
      obtain ⟨more, greeted⟩ := sent_authenticate free f
      have asked : s.bytes = 5 :: 2 :: (service.login more).1 :=
        (answered _ greeted).trans (congrArg Prod.fst (asks more))
      exact sent_authenticate_password free asked f

theorem request_answered (free : s.room = none) (short : (Text.bytes host).length < 256)
    (answered : Answered (fun received => (service.request received).1) (request (Address.ofHost host) port) s) :
    (request (Address.ofHost host) port).hold .io s =
      (some (.ok ()), s.after (connectRequest (Address.ofHost host) port) []) := by
  have taken : s.takes (connectRequest (Address.ofHost host) port) = true := takes_of_free free _
  obtain ⟨more, asked⟩ : ∃ more, ((request (Address.ofHost host) port).hold .io s).2.sent =
      s.sent ++ (connectRequest (Address.ofHost host) port ++ more) := Talk.sent_write _ taken
  have reply := answered _ asked
  dsimp only at reply
  rw [Service.request_connectRequest short] at reply
  apply service.wellFormed.request taken
  rw [reply, List.append_nil]

/-- A client that is answered gets its connection, and has asked for the right destination. -/
theorem dialogue_answered (known : service.Knows login) (short : (Text.bytes host).length < 256)
    (free : s.room = none)
    (answered : Answered (fun received => (service.serve received).1) (dialogue login (Address.ofHost host) port) s) :
    ∃ sent, (dialogue login (Address.ofHost host) port).hold .io s = (some (.ok ()), s.after sent []) ∧
      (service.serve sent).2 = some (Address.ofHost host, port) := by
  obtain ⟨login_sent, answers, admits, served, sends⟩ := exists_login known
  obtain ⟨more, whole⟩ := sends s _ free answered
  have bytes : s.bytes = answers ++ (service.request more).1 :=
    (answered _ whole).trans (congrArg Prod.fst (served more))
  have admitted : Admits login s.bytes login_sent (service.request more).1 := bytes ▸ admits _
  have onward : (dialogue login (Address.ofHost host) port).hold .io s =
      (request (Address.ofHost host) port).hold .io (s.after login_sent (service.request more).1) :=
    admitted.hold_bind (takes_of_free free _) _
  have request_is_answered : Answered (fun received => (service.request received).1)
      (request (Address.ofHost host) port) (s.after login_sent (service.request more).1) := by
    intro asked sent
    -- what is sent behind the login is the same by either account
    have same : s.sent ++ (login_sent ++ more) = s.sent ++ login_sent ++ asked :=
      whole.symm.trans ((congrArg (fun ended => ended.2.sent) onward).trans sent)
    rw [List.append_assoc, List.append_cancel_left_eq, List.append_cancel_left_eq] at same
    exact congrArg (fun received => (service.request received).1) same
  refine ⟨login_sent ++ connectRequest (Address.ofHost host) port, ?_, ?_⟩
  · rw [onward, request_answered (room_after free) short request_is_answered, Tape.after_after]
  · rw [served, Service.request_whole short]

/-- There are answers that go with what the client sends when it is given them. -/
theorem exists_answers (known : service.Knows login) (short : (Text.bytes host).length < 256) (port : UInt16) :
    ∃ data, ∀ s : Tape, s.room = none → s.bytes = data → ∃ sent,
      ((dialogue login (Address.ofHost host) port).hold .io s).2.sent = s.sent ++ sent ∧
        data = (service.serve sent).1 := by
  obtain ⟨login_sent, answers, admits, served, -⟩ := exists_login known
  refine ⟨answers ++ 5 :: 0 :: 0 :: service.type :: service.bound, ?_⟩
  intro s free bytes
  have admitted : Admits login s.bytes login_sent (5 :: 0 :: 0 :: service.type :: service.bound) :=
    bytes ▸ admits _
  refine ⟨login_sent ++ connectRequest (Address.ofHost host) port, ?_, ?_⟩
  · have arrived : (s.after login_sent (5 :: 0 :: 0 :: service.type :: service.bound)).bytes =
        5 :: 0 :: 0 :: service.type :: (service.bound ++ []) := by
      rw [List.append_nil]
      rfl
    unfold dialogue
    rw [admitted.hold_bind (takes_of_free free _),
      service.wellFormed.request (takes_of_free (room_after free) _) arrived, Tape.after_after]
    rfl
  · rw [served, Service.request_whole short]

end

/-- A user is named together with a password, and neither is empty; or no user is named. -/
def LoginWhole (proxy : Proxy) : Prop :=
  ∀ user, proxy.userId = some user → user ≠ "" ∧ ∃ password, proxy.password = some password ∧ password ≠ ""

theorem heard_piece (data : List UInt8) : (heard [.bytes data, .silence]).1 = data := by
  cases data with
  | nil => rfl
  | cons b data => exact List.append_nil (b :: data)

/-- What arrives, in whatever pieces, is what the service sends when it receives what is sent in the connect. -/
def Service.Serves (service : Service) (state : HopState) (proxy : Proxy) (next : Endpoint)
    (arrivals : List Arrival) : Prop :=
  (heard arrivals).1 = (service.serve (connect state proxy next none { arrivals }).2.2.sent).1

section

variable {service : Service} {state : HopState} {proxy : Proxy} {next : Endpoint}

theorem length_bytes_pos_iff {text : String} : 0 < (Text.bytes text).length ↔ text ≠ "" := by
  rw [List.length_pos_iff]
  constructor
  · rintro full rfl
    exact full rfl
  · exact Text.bytes_ne_nil

/-- A login can be sent if it is whole, unless it is too long. -/
theorem loginWhole_iff (short_user : ∀ user, proxy.userId = some user → (Text.bytes user).length ≤ 255)
    (short_password : ∀ password, proxy.password = some password → (Text.bytes password).length ≤ 255) :
    LoginWhole proxy ↔ Sendable (loginOf proxy) := by
  constructor
  · intro whole user password same
    obtain ⟨name, named, login⟩ := Option.map_eq_some_iff.mp same
    obtain ⟨some_user, secret, given, some_password⟩ := whole name named
    rw [given] at login
    cases login
    exact ⟨⟨length_bytes_pos_iff.mpr some_user, short_user name named⟩,
      length_bytes_pos_iff.mpr some_password, short_password secret given⟩
  · intro sendable name named
    obtain ⟨⟨some_user, -⟩, some_password, -⟩ :=
      sendable _ _ (show loginOf proxy = some (Text.bytes name, Text.bytes (proxy.password.getD "")) by
        rw [loginOf, named]
        rfl)
    refine ⟨length_bytes_pos_iff.mp some_user, ?_⟩
    cases given : proxy.password with
    | none =>
      rw [given] at some_password
      exact absurd some_password (Nat.lt_irrefl 0)
    | some secret =>
      rw [given] at some_password
      exact ⟨secret, rfl, length_bytes_pos_iff.mp some_password⟩

/-- A login that cannot be sent is found out before anything is sent. -/
theorem handshake_of_unsendable {login : Login} (unsendable : ¬Sendable login) (next : Endpoint) :
    ∃ failure, handshake login next = .fail failure ∧ failure.isBeyond = false := by
  rcases login with _ | ⟨user, password⟩
  · exact absurd (fun _ _ same => nomatch same) unsendable
  · by_cases user_unfit : user.isEmpty = true ∨ 255 < user.length
    · refine ⟨.userLength, ?_, rfl⟩
      simp only [handshake, defect?, Option.bind_some, if_pos user_unfit, Option.some_or]
    by_cases password_unfit : password.isEmpty = true ∨ 255 < password.length
    · refine ⟨.passwordLength, ?_, rfl⟩
      simp only [handshake, defect?, Option.bind_some, if_neg user_unfit, if_pos password_unfit, Option.some_or]
    · rw [List.isEmpty_iff_length_eq_zero] at user_unfit password_unfit
      refine absurd ?_ unsendable
      intro user password same
      cases same
      omega

theorem connect_sent {line : Line} (running : state.stopped = false) :
    (connect state proxy next none line).2.2.sent =
      ((handshake (loginOf proxy) next).hold .io line.tape).2.sent := by
  obtain ⟨-, same⟩ := Talk.run_eq_hold .io (handshake (loginOf proxy) next) line
  rw [← same]
  simp only [connect, running, extend]
  rfl

theorem connect_unsendable (line : Line) (running : state.stopped = false)
    (unsendable : ¬Sendable (loginOf proxy)) :
    (∃ reason, (connect state proxy next none line).2.1 =
        .ends 0 (.error (.proxyConnect proxy.address reason ""))) ∧
      (connect state proxy next none line).2.2.sent = line.sent := by
  obtain ⟨failure, failed, near⟩ := handshake_of_unsendable unsendable next
  rw [connect_course running, extend_course, connect_sent running, failed]
  exact ⟨⟨failure.text, settled_near failure near⟩, rfl⟩

theorem knows_login (sendable : Sendable (loginOf proxy))
    (accepted : ∀ user, proxy.userId = some user →
      service.accepts (Text.bytes user) (Text.bytes (proxy.password.getD "")) = true) :
    service.Knows (loginOf proxy) := by
  intro user password same
  obtain ⟨⟨-, short_user⟩, -, short_password⟩ := sendable user password same
  refine ⟨Nat.lt_succ_of_le short_user, Nat.lt_succ_of_le short_password, ?_⟩
  obtain ⟨name, named, login⟩ := Option.map_eq_some_iff.mp same
  cases login
  exact accepted name named

theorem exists_serves (running : state.stopped = false) (sendable : Sendable (loginOf proxy))
    (known : service.Knows (loginOf proxy)) (short : (Text.bytes next.host).length ≤ 255) :
    ∃ arrivals, service.Serves state proxy next arrivals := by
  obtain ⟨data, answers⟩ := exists_answers known (Nat.lt_succ_of_le short) next.port
  let line : Line := { arrivals := [.bytes data, .silence] }
  have brought : line.tape.bytes = data := heard_piece data
  obtain ⟨sent, whole, answered⟩ := answers line.tape rfl brought
  refine ⟨line.arrivals, ?_⟩
  rw [Service.Serves, connect_sent running, handshake_of_fits sendable short, whole]
  exact brought.trans answered

theorem connect_served {arrivals : List Arrival} (running : state.stopped = false)
    (sendable : Sendable (loginOf proxy)) (known : service.Knows (loginOf proxy))
    (short : (Text.bytes next.host).length ≤ 255) (serves : service.Serves state proxy next arrivals) :
    (connect state proxy next none { arrivals }).2.1 = .ends 0 (.ok ()) ∧
      ∃ address, Denotes address next.host ∧
        (service.serve (connect state proxy next none { arrivals }).2.2.sent).2 = some (address, next.port) := by
  have fits := handshake_of_fits sendable short
  rw [Service.Serves, connect_sent running, fits] at serves
  rw [connect_course running, extend_course, connect_sent running, fits]
  let line : Line := { arrivals }
  have answered : Answered (fun received => (service.serve received).1)
      (dialogue (loginOf proxy) (Address.ofHost next.host) next.port) line.tape := by
    intro more sent
    exact serves.trans (congrArg (fun received => (service.serve received).1) sent)
  obtain ⟨sent, ended, asked⟩ := dialogue_answered known (Nat.lt_succ_of_le short) rfl answered
  obtain ⟨-, denotes⟩ := address?_ofHost (Nat.lt_succ_of_le short) []
  rw [ended]
  exact ⟨rfl, Address.ofHost next.host, denotes, asked⟩

/-- Whether a connect through a proxy that serves whoever asks succeeds, and whether this is asked for the endpoint
that was meant, is a matter of the login alone. There is always an exchange with the proxy that the statement is
about; and the settings may be any, also those that are refused. -/
theorem connect_served_iff (running : state.stopped = false)
    (short_user : ∀ user, proxy.userId = some user → (Text.bytes user).length ≤ 255)
    (short_password : ∀ password, proxy.password = some password → (Text.bytes password).length ≤ 255)
    (short : (Text.bytes next.host).length ≤ 255) (service : Service)
    (accepted : ∀ user, proxy.userId = some user →
      service.accepts (Text.bytes user) (Text.bytes (proxy.password.getD "")) = true) :
    (∃ arrivals, service.Serves state proxy next arrivals) ∧
      ∀ arrivals, service.Serves state proxy next arrivals →
        ((connect state proxy next none { arrivals }).2.1 = .ends 0 (.ok ()) ∧
          (∃ address, Denotes address next.host ∧
            (service.serve (connect state proxy next none { arrivals }).2.2.sent).2 = some (address, next.port)) ↔
        LoginWhole proxy) := by
  rw [loginWhole_iff short_user short_password]
  by_cases sendable : Sendable (loginOf proxy)
  · have known := knows_login sendable accepted
    refine ⟨exists_serves running sendable known short, ?_⟩
    intro arrivals serves
    exact iff_of_true (connect_served running sendable known short serves) sendable
  · constructor
    · refine ⟨[], ?_⟩
      rw [Service.Serves, (connect_unsendable _ running sendable).2]
      rfl
    · intro arrivals serves
      refine iff_of_false ?_ sendable
      rintro ⟨succeeded, -⟩
      obtain ⟨⟨reason, failed⟩, -⟩ := connect_unsendable { arrivals } running sendable
      rw [failed] at succeeded
      nomatch succeeded

end

/-- A proxy that asks for a password, and knows the one of a single user. -/
def guarded (user password : String) : Service where
  choose methods := if 2 ∈ methods then 2 else methods.headD 0
  offered := by
    intro methods some_method
    split
    · assumption
    · obtain ⟨method, more, rfl⟩ := List.exists_cons_of_ne_nil some_method
      exact List.mem_cons_self
  accepts given secret := given = Text.bytes user ∧ secret = Text.bytes password
  bound := [10, 0, 0, 1, 31, 144]
  type := 1
  wellFormed := .ip4 rfl

theorem connect_served_by_password :
    let proxy : Proxy := { host := "proxy", port := 1080, userId := some "app", password := some "pw" }
    let next : Endpoint := ⟨"db.internal", 5432⟩
    proxy.defect? = none ∧
      ∃ arrivals, (guarded "app" "pw").Serves {} proxy next arrivals ∧
        (connect {} proxy next none { arrivals }).2.1 = .ends 0 (.ok ()) := by
  intro proxy next
  have short_user : ∀ user, proxy.userId = some user → (Text.bytes user).length ≤ 255 := by
    rintro _ ⟨⟩
    decide
  have short_password : ∀ password, proxy.password = some password → (Text.bytes password).length ≤ 255 := by
    rintro _ ⟨⟩
    decide
  have accepted : ∀ user, proxy.userId = some user →
      (guarded "app" "pw").accepts (Text.bytes user) (Text.bytes (proxy.password.getD "")) = true := by
    rintro _ ⟨⟩
    exact decide_eq_true ⟨rfl, rfl⟩
  have whole : LoginWhole proxy := by
    rintro _ ⟨⟩
    exact ⟨by decide, "pw", rfl, by decide⟩
  have running : ({} : HopState).stopped = false := rfl
  obtain ⟨⟨arrivals, serves⟩, served_iff⟩ := connect_served_iff running short_user short_password
    (show (Text.bytes next.host).length ≤ 255 by decide) (guarded "app" "pw") accepted
  exact ⟨by decide, arrivals, serves, ((served_iff arrivals serves).mpr whole).1⟩

/-- A proxy that lets everyone in. -/
def welcoming : Service where
  choose methods := methods.headD 0
  offered := by
    intro methods some_method
    obtain ⟨method, more, rfl⟩ := List.exists_cons_of_ne_nil some_method
    exact List.mem_cons_self
  accepts _ _ := true
  bound := [10, 0, 0, 1, 31, 144]
  type := 1
  wellFormed := .ip4 rfl

/-- A user without a password is accepted in the settings, and is never sent to the proxy that would let it in. -/
theorem passwordless_unserved :
    let proxy : Proxy := { host := "proxy", port := 1080, userId := some "alice" }
    let next : Endpoint := ⟨"db.internal", 5432⟩
    proxy.defect? = none ∧ welcoming.Serves {} proxy next [.silence] ∧
      (connect {} proxy next none { arrivals := [.silence] }).2.2.sent = [] ∧
      (connect {} proxy next none { arrivals := [.silence] }).2.1 =
        .ends 0 (.error (.proxyConnect proxy.address
          "Invalid auth values: password length should between 1 to 255" "")) := by
  intro proxy next
  exact ⟨by decide, rfl, rfl, rfl⟩

end Passage.Socks
