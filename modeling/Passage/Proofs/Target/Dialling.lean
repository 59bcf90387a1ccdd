import Passage.Proofs.Target.Composing
import Passage.Proofs.Target.Resolving

namespace Passage

/-- There is a host to look up and a port to connect to. -/
structure Endpoint.Dialable (e : Endpoint) : Prop where
  host : Text.blank e.host = false
  port : e.port ≠ 0

theorem TargetUri.PortPart.nonzero {text : List Char} {port : Option UInt16}
    (h : PortPart text port) : port ≠ some 0 := by
  cases h with
  | absent => exact nofun
  | given value nonzero => exact fun zero => nonzero (Option.some.inj zero)

theorem TargetUri.Address.nonzero {text host : List Char} {port : Option UInt16}
    (h : Address text host port) : port ≠ some 0 := by
  cases h with
  | bracketed nonempty closing behind => exact behind.nonzero
  | plain nonempty opening colon behind => exact behind.nonzero

theorem TargetUri.port_ne_zero_of_parse {text : String} {uri : TargetUri}
    (read : parse text = .ok uri) : uri.port ≠ some 0 := by
  obtain ⟨scheme, l, written⟩ := parse_eq_ok_iff.mp read
  exact (address_of_readAuthority written.address).nonzero

theorem Dialect.defaultPort_ne_zero (d : Dialect) : d.defaultPort ≠ some 0 := by
  cases d <;> decide

/-- The port is zero only if it was given as zero. -/
theorem Dialect.resolvePort_eq_zero_iff {d : Dialect} {given : Option UInt16} {port : UInt16}
    (h : d.resolvePort given = .ok port) : port = 0 ↔ given = some 0 := by
  unfold Dialect.resolvePort at h
  split at h
  · rename_i known chosen
    cases h
    cases given with
    | none =>
      rw [Option.none_or] at chosen
      have nonzero := d.defaultPort_ne_zero
      rw [chosen] at nonzero
      exact iff_of_false (fun zero => nonzero (congrArg some zero)) nofun
    | some p =>
      cases chosen
      rw [Option.some.injEq]
  · cases h

theorem Options.readTarget_port_eq_zero_iff {o : Options} {fields : TargetFields}
    {uri : Option TargetUri} (read : o.readTarget = .ok (fields, uri)) :
    fields.port = some 0 ↔ ∃ f, o.target = .fields f ∧ f.port = some 0 := by
  cases target : o.target with
  | fields f =>
    rw [readTarget_fields target] at read
    cases read
    simp
  | uri text =>
    rw [readTarget_uri target] at read
    cases accepted : TargetUri.parse text with
    | error fault =>
      rw [accepted] at read
      cases read
    | ok known =>
      rw [accepted] at read
      cases read
      refine iff_of_false (TargetUri.port_ne_zero_of_parse accepted) ?_
      rintro ⟨f, ⟨⟩, -⟩

theorem Proxy.defect?_eq_none_iff {p : Proxy} :
    p.defect? = none ↔ p.endpoint.Dialable ∧ (p.password.isSome → p.userId.isSome) := by
  unfold Proxy.defect?
  constructor
  · intro sane
    split at sane
    · cases sane
    split at sane
    · cases sane
    split at sane
    · cases sane
    rename_i host port login
    have shown : Text.blank p.host = false := by simpa using host
    refine ⟨⟨shown, port⟩, fun password => ?_⟩
    rw [password, Bool.true_and] at login
    simpa [Option.isSome_iff_ne_none] using login
  · rintro ⟨⟨host, port⟩, login⟩
    have host : Text.blank p.host = false := host
    have port : p.port ≠ 0 := port
    rw [if_neg (by simp [host]), if_neg port, if_neg]
    cases password : p.password.isSome with
    | false => simp
    | true => simpa [Option.isSome_iff_ne_none] using login password

/-- A jump host is accepted on any port. -/
theorem JumpHost.defect?_eq_none_iff {j : JumpHost} :
    j.defect? = none ↔
      Text.blank j.host = false ∧ j.username ≠ "" ∧ Text.blank j.privateKey = false := by
  unfold JumpHost.defect?
  constructor
  · intro sane
    split at sane
    · cases sane
    split at sane
    · cases sane
    split at sane
    · cases sane
    rename_i host user key
    exact ⟨by simpa using host, by simpa using user, by simpa using key⟩
  · rintro ⟨host, user, key⟩
    rw [if_neg (by simp [host]), if_neg (by simpa using user), if_neg (by simp [key])]

theorem Options.defect?_eq_none_iff {o : Options} :
    o.defect? = none ↔ (∀ p, o.proxy = some p → p.defect? = none) ∧
      (∀ j, o.ssh = some j → j.defect? = none) ∧ o.timeout ≠ some 0 := by
  rw [Options.defect?, Option.or_eq_none_iff, Option.or_eq_none_iff, Option.bind_eq_none_iff,
    Option.bind_eq_none_iff]
  simp

theorem Plan.mem_hops_ofParts {target : Endpoint} {proxy : Option Proxy} {ssh : Option JumpHost}
    {hop : HopSettings} :
    hop ∈ (ofParts target proxy ssh).hops ↔
      (∃ p, proxy = some p ∧ hop = .socks p) ∨ ∃ j, ssh = some j ∧ hop = .ssh j := by
  simp [ofParts, eq_comm]

namespace Options

section

variable {o : Options} {r : Resolved} (ok : o.resolve = .ok r)
include ok

theorem resolved_port_eq_zero_iff : r.port = 0 ↔ ∃ f, o.target = .fields f ∧ f.port = some 0 := by
  obtain ⟨fields, uri, h⟩ := resolve_eq_ok_iff.mp ok
  rw [Dialect.resolvePort_eq_zero_iff h.port, readTarget_port_eq_zero_iff h.target]

/-- A checked request goes through the hops that were asked for, and each of them is in order. -/
theorem resolved_hops {plan : Plan} (planned : r.plan? = some plan) :
    plan.target = ⟨r.host, r.port⟩ ∧
      ∀ hop, hop ∈ plan.hops ↔
        (∃ p, o.proxy = some p ∧ p.defect? = none ∧ hop = .socks p) ∨
          ∃ j, o.ssh = some j ∧ j.defect? = none ∧ hop = .ssh j := by
  obtain ⟨fields, uri, h⟩ := resolve_eq_ok_iff.mp ok
  obtain ⟨proxies, hosts, -⟩ := defect?_eq_none_iff.mp h.sane
  obtain ⟨-, made⟩ := Option.ite_none_right_eq_some.mp planned
  cases made
  have proxy : r.proxy = o.proxy := by rw [h.kept]
  have ssh : r.ssh = o.ssh := by rw [h.kept]
  refine ⟨rfl, fun hop => ?_⟩
  rw [Plan.mem_hops_ofParts, proxy, ssh]
  constructor
  · rintro (⟨p, asked, rfl⟩ | ⟨j, asked, rfl⟩)
    · exact .inl ⟨p, asked, proxies p asked, rfl⟩
    · exact .inr ⟨j, asked, hosts j asked, rfl⟩
  · rintro (⟨p, asked, -, rfl⟩ | ⟨j, asked, -, rfl⟩)
    · exact .inl ⟨p, asked, rfl⟩
    · exact .inr ⟨j, asked, rfl⟩

/-- A hop of a checked request has a host. It lacks a port only if it is a jump host without one. -/
theorem resolved_hop {plan : Plan} (planned : r.plan? = some plan) {hop : HopSettings}
    (held : hop ∈ plan.hops) :
    Text.blank hop.endpoint.host = false ∧
      (hop.endpoint.port = 0 ↔ ∃ j, o.ssh = some j ∧ hop = .ssh j ∧ j.port = 0) := by
  rcases ((resolved_hops ok planned).2 hop).mp held with ⟨p, -, sane, rfl⟩ | ⟨j, asked, sane, rfl⟩
  · obtain ⟨dialable, -⟩ := Proxy.defect?_eq_none_iff.mp sane
    exact ⟨dialable.host, iff_of_false dialable.port (by simp)⟩
  · obtain ⟨host, -⟩ := JumpHost.defect?_eq_none_iff.mp sane
    exact ⟨host, by simp [asked, HopSettings.endpoint, JumpHost.endpoint]⟩

theorem resolved_jumpHost {j : JumpHost} (asked : o.ssh = some j) :
    ∃ plan, r.plan? = some plan ∧ .ssh j ∈ plan.hops := by
  obtain ⟨fields, uri, h⟩ := resolve_eq_ok_iff.mp ok
  have needed : r.needsTunnel = true := h.needsTunnel.trans (by simp [asked])
  have planned : r.plan? = some (Plan.ofParts ⟨r.host, r.port⟩ r.proxy r.ssh) := if_pos needed
  have sane : j.defect? = none := (defect?_eq_none_iff.mp h.sane).2.1 j asked
  exact ⟨_, planned, ((resolved_hops ok planned).2 _).mpr (.inr ⟨j, asked, sane, rfl⟩)⟩

/-- All hosts of a checked request are there. It can be dialled all the way, the target and every hop, if
and only if neither the fields nor the jump host's settings give the port as zero: no other port is. -/
theorem resolved_dialable_iff :
    (Text.blank r.host = false ∧ (r.port = 0 ↔ ∃ f, o.target = .fields f ∧ f.port = some 0) ∧
      ∀ plan, r.plan? = some plan → plan.target = ⟨r.host, r.port⟩ ∧
        ∀ hop ∈ plan.hops, Text.blank hop.endpoint.host = false ∧
          (hop.endpoint.port = 0 ↔ ∃ j, o.ssh = some j ∧ hop = .ssh j ∧ j.port = 0)) ∧
    ((Endpoint.Dialable ⟨r.host, r.port⟩ ∧
        ∀ plan, r.plan? = some plan → ∀ hop ∈ plan.hops, hop.endpoint.Dialable) ↔
      (∀ f, o.target = .fields f → f.port ≠ some 0) ∧ ∀ j, o.ssh = some j → j.port ≠ 0) := by
  have zero := resolved_port_eq_zero_iff ok
  have shown : Text.blank r.host = false := by
    obtain ⟨fields, uri, h⟩ := resolve_eq_ok_iff.mp ok
    exact h.shown
  refine ⟨⟨shown, zero, fun plan planned => ⟨(resolved_hops ok planned).1, ?hop⟩⟩, ?all⟩
  case hop =>
    intro hop held
    exact resolved_hop ok planned held
  case all =>
    constructor
    · rintro ⟨target, hops⟩
      constructor
      · intro f asked none
        exact target.port (zero.mpr ⟨f, asked, none⟩)
      · intro j asked
        obtain ⟨plan, planned, held⟩ := resolved_jumpHost ok asked
        exact (hops plan planned _ held).port
    · rintro ⟨fields, jump⟩
      constructor
      · refine ⟨shown, fun none => ?_⟩
        obtain ⟨f, asked, none⟩ := zero.mp none
        exact fields f asked none
      · intro plan planned hop held
        obtain ⟨host, port⟩ := resolved_hop ok planned held
        refine ⟨host, fun none => ?_⟩
        obtain ⟨j, asked, -, none⟩ := port.mp none
        exact jump j asked none

end

/-- A target without a usual port, behind a proxy and a jump host. -/
theorem resolved_dialable_hops :
    let o : Options := {
      target := .fields { dialect := some .db2, host := some "db.internal", port := some 50000 }
      proxy := some { host := "proxy.internal", port := 1080 }
      ssh := some { host := "jump.internal", username := "ops", privateKey := "key" } }
    ∃ r plan, o.resolve = .ok r ∧ Endpoint.Dialable ⟨r.host, r.port⟩ ∧ r.plan? = some plan ∧
      plan.hops.length = 2 ∧ ∀ hop ∈ plan.hops, hop.endpoint.Dialable := by
  intro o
  have ok : o.resolve = .ok {
      dialect := .db2, host := "db.internal", port := 50000, serverName := "db.internal"
      database := none, user := none, password := none, sslMode := .preferred, proxy := o.proxy
      ssh := o.ssh, timeout := none, dialectOptions := none, uri := none } := rfl
  have given : (∀ f, o.target = .fields f → f.port ≠ some 0) ∧ ∀ j, o.ssh = some j → j.port ≠ 0 := by
    constructor
    · rintro f ⟨⟩
      decide
    · rintro j ⟨⟩
      decide
  obtain ⟨target, hops⟩ := (resolved_dialable_iff ok).2.mpr given
  exact ⟨_, _, ok, target, rfl, rfl, hops _ rfl⟩

/-- A jump host on no port is accepted, and so is a target on no port. -/
theorem undialable_resolved :
    let target (port : Option UInt16) : Target :=
      .fields { dialect := some .postgres, host := some "db.internal", port }
    let o : Options := {
      target := target none
      ssh := some { host := "jump.internal", port := 0, username := "ops", privateKey := "test" } }
    (∃ r plan, o.resolve = .ok r ∧ r.plan? = some plan ∧ ∃ hop ∈ plan.hops, hop.endpoint.port = 0) ∧
      ∃ r, resolve { target := target (some 0) } = .ok r ∧ r.port = 0 := by
  intro target o
  exact ⟨⟨_, _, rfl, rfl, _, List.mem_cons_self, rfl⟩, _, rfl, rfl⟩

end Options
end Passage
