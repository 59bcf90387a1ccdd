import Passage.Hop.SocksCalls
import Passage.Proofs.Hop.Registering

namespace Passage

/-- What a call of a hop can come to: it ends well, or as one that was stopped, or by a failure of its work. -/
inductive Comes (stopped : Bool) (onStop : Fault) (failures : List Fault) : Except Fault Unit → Prop where
  | well : Comes stopped onStop failures (.ok ())
  | halted (told : stopped = true) : Comes stopped onStop failures (.error onStop)
  | failed {fault : Fault} (own : fault ∈ failures) : Comes stopped onStop failures (.error fault)

/-- Every call that has ended has come to what it can come to. -/
def Accounted (stopped : Bool) (onStop : Fault) (failures : List Fault)
    (result? : Nat → Option (Except Fault Unit)) : Prop :=
  ∀ call result, result? call = some result → Comes stopped onStop failures result

section

variable {stopped stopped' : Bool} {onStop : Fault} {failures failures' : List Fault}

theorem Comes.mono {result : Except Fault Unit} (comes : Comes stopped onStop failures result)
    (told : stopped = true → stopped' = true) (more : failures ⊆ failures') :
    Comes stopped' onStop failures' result := by
  cases comes with
  | well => exact .well
  | halted stopped => exact .halted (told stopped)
  | failed own => exact .failed (more own)

/-- A step adds what it ends to what had ended before. -/
theorem Accounted.grow {result? result?' : Nat → Option (Except Fault Unit)}
    (accounted : Accounted stopped onStop failures result?) {own : Option Fault}
    (told : stopped = true → stopped' = true)
    (ended : ∀ call result, result?' call = some result →
      result? call = some result ∨ Comes stopped' onStop own.toList result) :
    Accounted stopped' onStop (failures ++ own.toList) result?' := by
  intro call result done
  rcases ended call result done with before | now
  · exact (accounted call result before).mono told (List.subset_append_left _ _)
  · exact now.mono id (List.subset_append_right _ _)

end

namespace Socks.Hop

section

variable (h : Hop) (call : Nat) (point : Point)

@[simp]
theorem state_place : (h.place call point).state = h.state := rfl

theorem result?_place {i : Nat} {result : Except Fault Unit} (done : (h.place call point).result? i = some result) :
    h.result? i = some result ∨ point = .done result := by
  simp only [result?, place, List.getElem?_modify] at done
  by_cases same : call = i
  · right
    cases at_i : h.calls[i]? with
    | none => simp [at_i] at done
    | some found => cases point <;> simp_all
  · left
    simpa [result?, same] using done

theorem result?_call (next : Endpoint) : (h.step (.call next)).result? call = h.result? call := by
  simp only [step, result?, List.getElem?_append]
  rcases Nat.lt_or_ge call h.calls.length with within | beyond
  · rw [if_pos within]
  · rw [if_neg (Nat.not_lt.mpr beyond), List.getElem?_eq_none beyond]
    cases call - h.calls.length <;> rfl

end

/-- The failure of a call's work that a step brings about. -/
def failed? (h : Hop) : Step → Option Fault
  | .fail call setback =>
    match h.calls[call]? with
    | some (.working, next) => some (setback.blame h.proxy next)
    | _ => none
  | _ => none

/-- The failures of the calls' work in the course of a history. -/
def failures (h : Hop) (history : List Step) : List Fault :=
  History.findings step failed? h history

/-- The hop keeps the failures of its calls' work, and nothing else. -/
theorem firstFault_step (h : Hop) (s : Step) :
    (h.step s).state.firstFault = h.state.firstFault.or (h.failed? s) := by
  cases s with
  | fail call setback =>
    rcases at_call : h.calls[call]? with _ | ⟨_ | _ | _, _⟩ <;>
      simp [step, failed?, at_call, finish, HopState.settle, HopState.record]
  | call next => simp [step, failed?]
  | stop => simp [step, failed?, HopState.stop]
  | look call | wait call | succeed call =>
    simp only [step, failed?]
    split <;> simp [finish, HopState.settle]

theorem firstFault_run (h : Hop) (history : List Step) :
    (h.run history).state.firstFault = h.state.firstFault.or (h.failures history).head? := by
  exact History.foldl_filled (fun h : Hop => h.state.firstFault) firstFault_step h history

theorem proxy_step (h : Hop) (s : Step) : (h.step s).proxy = h.proxy := by
  cases s with
  | call next | stop => rfl
  | look call | wait call | succeed call | fail call setback =>
    simp only [step]
    split <;> rfl

/-- Only a stop raises the flag, and nothing lowers it. -/
theorem stopped_step (h : Hop) (s : Step) :
    (h.step s).state.stopped = true ↔ h.state.stopped = true ∨ s = .stop := by
  cases s with
  | stop => simp [step, HopState.stop]
  | call next => simp [step]
  | look call | wait call | succeed call | fail call setback =>
    simp only [step]
    split <;> simp [finish, HopState.settle, HopState.record]

/-- What a step ends, it ends as it may. -/
theorem result?_step (h : Hop) (s : Step) (call : Nat) (result : Except Fault Unit)
    (done : (h.step s).result? call = some result) :
    h.result? call = some result ∨
      Comes (h.step s).state.stopped h.stoppedFault (h.failed? s).toList result := by
  cases s with
  | call next => exact .inl ((result?_call h call next).symm.trans done)
  | stop => exact .inl done
  | look i =>
    simp only [step] at done ⊢
    split at done
    · next found =>
      refine (result?_place _ _ _ done).imp_right fun ended => ?_
      split at ended
      · next told =>
        cases ended
        exact .halted (by simpa [found] using told)
      · cases ended
    · exact .inl done
  | wait i =>
    simp only [step] at done
    split at done
    · exact (result?_place _ _ _ done).imp_right nofun
    · exact .inl done
  | succeed i =>
    simp only [step] at done
    split at done
    · refine (result?_place _ _ _ done).imp_right fun ended => ?_
      cases ended
      exact .well
    · exact .inl done
  | fail i setback =>
    simp only [step] at done
    split at done
    · next found =>
      refine (result?_place _ _ _ done).imp_right fun ended => ?_
      cases ended
      exact .failed (by simp [failed?, found])
    · exact .inl done

theorem accounted_run {h : Hop} {failures : List Fault}
    (accounted : Accounted h.state.stopped h.stoppedFault failures h.result?) (history : List Step) :
    Accounted (h.run history).state.stopped h.stoppedFault (failures ++ h.failures history)
      (h.run history).result? := by
  induction history generalizing h failures with
  | nil =>
    rw [Hop.failures, History.findings, List.append_nil]
    exact accounted
  | cons s rest ih =>
    have now := accounted.grow (fun told => (stopped_step h s).mpr (.inl told)) (result?_step h s)
    have same : (h.step s).stoppedFault = h.stoppedFault := by rw [stoppedFault, proxy_step, stoppedFault]
    have later := ih (same ▸ now)
    rw [same, List.append_assoc] at later
    exact later

end Socks.Hop

namespace Socks

theorem extend_ends (proxy : Proxy) (next : Endpoint) (line : Flow.Line) :
    ∃ after, (extend proxy next line).1 = .ends after (.ok ()) ∨
      ∃ setback : Setback, (extend proxy next line).1 = .ends after (.error (setback.blame proxy next)) := by
  rcases ran : (handshake (loginOf proxy) next).run .io line with ⟨result, left⟩
  simp only [extend, ran]
  cases result with
  | none => exact ⟨handshakeLimit, .inr ⟨.late, rfl⟩⟩
  | some result =>
    refine ⟨0, ?_⟩
    cases result with
    | ok => exact .inl rfl
    | error failure => exact .inr ⟨.handshake failure, rfl⟩

/-- A connect in one go is a history of a call by steps. -/
theorem connect_run (state : HopState) (proxy : Proxy) (next : Endpoint) (stopAfter : Option Nat)
    (line : Flow.Line) :
    ∃ after result history,
      (connect state proxy next stopAfter line).2.1 = .ends after result ∧
      (Hop.run { proxy, state } (.call next :: history)).state = (connect state proxy next stopAfter line).1 ∧
      (Hop.run { proxy, state } (.call next :: history)).result? 0 = some result := by
  obtain ⟨after, work⟩ := extend_ends proxy next line
  simp only [connect, HopState.run]
  by_cases stopped : state.stopped = true
  · refine ⟨0, _, [.look 0], by rw [if_pos stopped], ?_, ?_⟩
    · simp [Hop.run, Hop.step, stopped]
    · simp [Hop.run, Hop.step, Hop.place, Hop.result?, Hop.stoppedFault, stopped]
  · simp only [stopped]
    cases stopAfter.filter ((extend proxy next line).1.waitsAt ·) with
    | some moment =>
      refine ⟨moment, _, [.look 0, .wait 0, .stop, .look 0], rfl, ?_, ?_⟩
      · simp [Hop.run, Hop.step, Hop.place, HopState.stop, stopped]
      · simp [Hop.run, Hop.step, Hop.place, Hop.result?, Hop.stoppedFault, HopState.stop, stopped]
    | none =>
      rcases work with well | ⟨setback, ill⟩
      · refine ⟨after, _, [.look 0, .succeed 0], by rw [well]; rfl, ?_, ?_⟩
        · simp [Hop.run, Hop.step, Hop.place, Hop.finish, well, stopped]
        · simp [Hop.run, Hop.step, Hop.place, Hop.finish, Hop.result?, stopped]
      · refine ⟨after, _, [.look 0, .fail 0 setback], by rw [ill]; rfl, ?_, ?_⟩
        · simp [Hop.run, Hop.step, Hop.place, Hop.finish, ill, stopped]
        · simp [Hop.run, Hop.step, Hop.place, Hop.finish, Hop.result?, stopped]

end Socks

namespace Ssh.Hop

section

variable (h : Hop) (call : Nat) (point : Point)

theorem result?_place {i : Nat} {result : Except Fault Unit} (done : (h.place call point).result? i = some result) :
    h.result? i = some result ∨ point = .done result := by
  rw [result?, getElem?_place] at done
  by_cases same : call = i
  · right
    cases at_i : h.calls[i]? with
    | none => simp [at_i] at done
    | some found => cases point <;> simp_all
  · left
    simpa [result?, same] using done

theorem result?_call (next : Endpoint) : (h.step (.call next)).result? call = h.result? call := by
  simp only [step, result?, List.getElem?_append]
  rcases Nat.lt_or_ge call h.calls.length with within | beyond
  · rw [if_pos within]
  · rw [if_neg (Nat.not_lt.mpr beyond), List.getElem?_eq_none beyond]
    cases call - h.calls.length <;> rfl

end

def failed? (h : Hop) : Step → Option Fault
  | .fail call failure =>
    match h.calls[call]? with
    | some (.working _, next) => some (failure.blame h.host next)
    | _ => none
  | _ => none

/-- The failure with which a step gives up what a call has registered, although nothing failed. -/
def withdrew? (h : Hop) : Step → Option Fault
  | .withdraw call _ =>
    match h.calls[call]? with
    | some (.withdrawing, _) => some h.stoppedFault
    | _ => none
  | _ => none

def failures (h : Hop) (history : List Step) : List Fault :=
  History.findings step failed? h history

/-- The failures, in the course of a history, of calls that found a stop when they had just registered. -/
def withdrawals (h : Hop) (history : List Step) : List Fault :=
  History.findings step withdrew? h history

/-- The hop keeps the failures of its calls' work, and those of calls that gave up what they had registered. -/
theorem firstFault_step (h : Hop) (s : Step) :
    (h.step s).state.firstFault = h.state.firstFault.or ((h.failed? s).or (h.withdrew? s)) := by
  cases s with
  | fail call failure =>
    rcases at_call : h.calls[call]? with _ | ⟨_ | _ | _ | _ | _ | _, _⟩ <;>
      simp [step, failed?, withdrew?, at_call, finish, HopState.settle, HopState.record]
  | withdraw call runtime =>
    rcases at_call : h.calls[call]? with _ | ⟨_ | _ | _ | _ | _ | _, _⟩ <;>
      simp [step, failed?, withdrew?, at_call, finish, giveUp, stoppedFault, HopState.settle, HopState.record]
  | call next => simp [step, failed?, withdrew?]
  | raise => simp [step, failed?, withdrew?, HopState.stop]
  | sweep runtime =>
    simp only [step, failed?, withdrew?]
    split <;> simp [giveUp]
  | look call | wait call | succeed call | register call | check call =>
    simp only [step, failed?, withdrew?]
    repeat' split
    all_goals simp [finish, HopState.settle]

theorem firstFault_run_eq_none_iff (h : Hop) (fresh : h.state.firstFault = none) (history : List Step) :
    (h.run history).state.firstFault = none ↔ h.failures history = [] ∧ h.withdrawals history = [] := by
  have filled := History.foldl_filled (fun h : Hop => h.state.firstFault) firstFault_step h history
  rw [run, filled, fresh, Option.none_or, List.head?_eq_none_iff, History.findings_or_eq_nil_iff]
  rfl

theorem host_step (h : Hop) (s : Step) : (h.step s).host = h.host := by
  cases s with
  | call next | raise => rfl
  | look call | wait call | succeed call | fail call failure | register call | check call | withdraw call runtime
  | sweep runtime =>
    simp only [step]
    repeat' split
    all_goals rfl

/-- A call gives up what it has registered only because a stop told it to. -/
def Told (h : Hop) : Prop :=
  ∀ (call : Nat) (next : Endpoint), h.calls[call]? = some (.withdrawing, next) → h.state.stopped = true

section

variable {h : Hop} {call : Nat} {point : Point}

theorem Told.place (told : h.Told) (stop : point = .withdrawing → h.state.stopped = true) :
    (h.place call point).Told := by
  intro i next at_i
  rw [getElem?_place] at at_i
  obtain ⟨⟨old, _⟩, at_h, moved⟩ := Option.map_eq_some_iff.mp at_i
  obtain ⟨moved, -⟩ := Prod.mk.inj moved
  split at moved
  · exact stop moved
  · exact told i _ (moved ▸ at_h)

theorem Told.step (told : h.Told) (s : Step) : (h.step s).Told := by
  cases s with
  | call next =>
    intro i toward at_i
    simp only [Hop.step, List.getElem?_append] at at_i
    split at at_i
    · exact told i toward at_i
    · have new := List.mem_of_getElem? at_i
      cases List.mem_singleton.mp new
  | raise => exact fun _ _ _ => rfl
  | check call =>
    simp only [Hop.step]
    split
    · apply told.place
      intro withdraws
      split at withdraws
      · assumption
      · cases withdraws
    · exact told
  | look call | wait call | succeed call | fail call failure | register call | withdraw call runtime
  | sweep runtime =>
    simp only [Hop.step]
    repeat' split
    all_goals first | exact told | exact Told.place told fun withdraws => by cases withdraws

theorem result?_step (told : h.Told) (s : Step) (call : Nat) (result : Except Fault Unit)
    (done : (h.step s).result? call = some result) :
    h.result? call = some result ∨
      Comes (h.step s).state.stopped h.stoppedFault (h.failed? s).toList result := by
  cases s with
  | call next => exact .inl ((result?_call h call next).symm.trans done)
  | raise => exact .inl done
  | sweep runtime =>
    simp only [Hop.step] at done
    split at done <;> exact .inl done
  | look i =>
    simp only [Hop.step] at done ⊢
    split at done
    · split at done
      · next found stopped =>
        refine (result?_place _ _ _ done).imp_right fun ended => ?_
        cases ended
        exact .halted (by simp [stopped])
      · exact (result?_place _ _ _ done).imp_right fun ended => by cases ended
    · exact .inl done
  | wait i | register i =>
    simp only [Hop.step] at done
    split at done
    · exact (result?_place _ _ _ done).imp_right fun ended => by cases ended
    · exact .inl done
  | check i =>
    simp only [Hop.step] at done
    split at done
    · refine (result?_place _ _ _ done).imp_right fun ended => ?_
      split at ended <;> cases ended
    · exact .inl done
  | succeed i =>
    simp only [Hop.step] at done
    split at done
    · exact (result?_place _ _ _ done).imp_right fun ended => by cases ended
    · refine (result?_place _ _ _ done).imp_right fun ended => ?_
      cases ended
      exact .well
    · exact .inl done
  | fail i failure =>
    simp only [Hop.step] at done
    split at done
    · next found =>
      refine (result?_place _ _ _ done).imp_right fun ended => ?_
      cases ended
      exact .failed (by simp [failed?, found])
    · exact .inl done
  | withdraw i runtime =>
    have still := (stopped_step h (.withdraw i runtime)).mpr ∘ .inl
    simp only [Hop.step] at done
    split at done
    · next found =>
      refine (result?_place _ _ _ done).imp_right fun ended => ?_
      cases ended
      exact .halted (still (told i _ found))
    · exact .inl done

theorem accounted_run {failures : List Fault} (told : h.Told)
    (accounted : Accounted h.state.stopped h.stoppedFault failures h.result?) (history : List Step) :
    Accounted (h.run history).state.stopped h.stoppedFault (failures ++ h.failures history)
      (h.run history).result? := by
  induction history generalizing h failures with
  | nil =>
    rw [Hop.failures, History.findings, List.append_nil]
    exact accounted
  | cons s rest ih =>
    have now := accounted.grow (fun told => (stopped_step h s).mpr (.inl told)) (result?_step told s)
    have same : (h.step s).stoppedFault = h.stoppedFault := by rw [stoppedFault, host_step, stoppedFault]
    have later := ih (told.step s) (same ▸ now)
    rw [same, List.append_assoc] at later
    exact later

end

end Ssh.Hop

/-- However calls and stops are mixed, a hop through a proxy keeps a failure exactly if the work of a call failed;
a hop through an SSH server does so also if a call found the stop when it had just registered its session. In
every case a call comes to nothing but what it did, the failure of its work, or the stop. -/
theorem stop_unrecorded_iff (proxy : Proxy) (calls : List Socks.Step) (host : JumpHost) (history : List Ssh.Step) :
    let through : Socks.Hop := { proxy }
    let jump : Ssh.Hop := { host }
    (((through.run calls).state.firstFault = none ↔ through.failures calls = []) ∧
      Accounted (through.run calls).state.stopped through.stoppedFault (through.failures calls)
        (through.run calls).result?) ∧
    (((jump.run history).state.firstFault = none ↔ jump.failures history = [] ∧ jump.withdrawals history = []) ∧
      Accounted (jump.run history).state.stopped jump.stoppedFault (jump.failures history)
        (jump.run history).result?) := by
  intro through jump
  refine ⟨⟨?_, ?_⟩, ?_, ?_⟩
  · rw [Socks.Hop.firstFault_run, Option.none_or, List.head?_eq_none_iff]
  · have none_ended : Accounted through.state.stopped through.stoppedFault [] through.result? := nofun
    exact Socks.Hop.accounted_run none_ended calls
  · exact Ssh.Hop.firstFault_run_eq_none_iff jump rfl history
  · have none_ended : Accounted jump.state.stopped jump.stoppedFault [] jump.result? := nofun
    have told : jump.Told := nofun
    exact Ssh.Hop.accounted_run told none_ended history

/-- A stop between a call's registering of its session and its look at the flag is kept as a failure of the hop,
although the login went well and nothing else was tried. -/
theorem stop_recorded :
    let bastion : JumpHost := { host := "bastion", username := "deploy", privateKey := "key" }
    let history : List Ssh.Step :=
      [.call ⟨"db", 5432⟩, .look 0, .succeed 0, .register 0, .raise, .check 0, .withdraw 0 true, .sweep true]
    let stopped : Fault := .sshConnect "deploy@bastion:22" "tunnel stopped" ""
    Ssh.Hop.failures { host := bastion } history = [] ∧
      Ssh.Hop.result? (.run { host := bastion } history) 0 = some (.error stopped) ∧
      (Ssh.Hop.run { host := bastion } history).state = { stopped := true, firstFault := some stopped } := by
  intro bastion history stopped
  refine ⟨by decide +kernel, ?_, by decide +kernel⟩
  simp [history, Ssh.Hop.run, Ssh.Hop.step, Ssh.Hop.place, Ssh.Hop.finish, Ssh.Hop.giveUp, Ssh.Hop.result?,
    HopState.stop]
  decide +kernel

end Passage
