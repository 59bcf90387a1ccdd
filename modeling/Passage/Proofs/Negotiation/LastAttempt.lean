import Passage.Proofs.Negotiation.Deadline
import Passage.Proofs.Negotiation.Recording
import Passage.Proofs.Target.Resolving

namespace Passage.Negotiation

variable {σ κ : Type}

/-- The world of an attempt that failed, after which nothing more was asked of the driver. -/
def FailedIn (d : Driver σ κ) (s : Settings) (r : Route) (fault : Fault) (w : World σ κ) : Prop :=
  ∃ mode before after acts, (attempt d s r mode before).1 = .ends after (.error fault) ∧
    w = (attempt d s r mode before).2.note acts ∧ Quiet acts

section

variable {d : Driver σ κ} {s : Settings} {r : Route} {fault : Fault} {after : Nat} {w next : World σ κ}

theorem FailedIn.of_attempt {mode : SslMode}
    (h : attempt d s r mode w = (.ends after (.error fault), next)) : FailedIn d s r fault next := by
  refine ⟨mode, w, after, [], congrArg Prod.fst h, ?_, ⟨rfl, rfl⟩⟩
  rw [h, World.note_nil]

theorem FailedIn.note (h : FailedIn d s r fault w) {acts : Journal κ} (quiet : Quiet acts) :
    FailedIn d s r fault (w.note acts) := by
  obtain ⟨mode, before, after, first, failed, rfl, calm⟩ := h
  refine ⟨mode, before, after, first ++ acts, failed, ?_, calm.append quiet⟩
  rw [World.note, World.note, World.note, List.append_assoc]

/-- A search that fails has failed with its last attempt, if there was a mode to try. -/
theorem probe_failedIn {modes : List SslMode} {last : Option Fault}
    (h : probe d s r modes last w = (.ends after (.error fault), next)) :
    (fault = last.getD (.configuration .noModesLeft) ∧ next = w) ∨ FailedIn d s r fault next := by
  -- Behind a failed attempt either more are made, or it was the last.
  induction modes generalizing last after w with
  | nil =>
    cases h
    exact .inl ⟨rfl, rfl⟩
  | cons mode rest ih =>
    refine .inr ?_
    unfold probe at h
    cases tried : attempt d s r mode w with
    | mk course tail =>
      rw [tried] at h
      cases course with
      | never => cases h
      | ends early result =>
        cases result with
        | ok connection => cases h
        | error own =>
          dsimp only at h
          let reported := (tail.note [.counted (.probed mode .error)]).log .debug
            ("sslMode=" ++ mode.name ++ " probe failed: " ++ own.text)
          have noted : FailedIn d s r own reported :=
            ((FailedIn.of_attempt tried).note ⟨rfl, rfl⟩).note ⟨rfl, rfl⟩
          change ((probe d s r rest (some own) reported).1.later early,
            (probe d s r rest (some own) reported).2) = _ at h
          cases further : probe d s r rest (some own) reported with
          | mk course left =>
            rw [further] at h
            cases course with
            | never => cases h
            | ends late result =>
              cases h
              rcases ih further with ⟨rfl, rfl⟩ | failed
              · exact noted
              · exact failed

theorem chooseMode_failedIn (h : chooseMode d s r w = (.ends after (.error fault), next)) :
    (fault = .configuration .noModesLeft ∧ next = w) ∨ FailedIn d s r fault next := by
  unfold chooseMode at h
  split at h
  · cases h
  · split at h
    · exact probe_failedIn h
    · cases h

theorem negotiate_failedIn (h : negotiate d s r w = (.ends after (.error fault), next)) :
    (fault = .configuration .noModesLeft ∧ next = w) ∨ FailedIn d s r fault next := by
  unfold negotiate at h
  cases chosen : chooseMode d s r w with
  | mk course left =>
    rw [chosen] at h
    cases course with
    | never => cases h
    | ends early result =>
      cases result with
      | error own =>
        cases h
        exact chooseMode_failedIn chosen
      | ok mode =>
        dsimp only at h
        cases tried : attempt d s r mode left with
        | mk course tail =>
          rw [tried] at h
          cases course with
          | never => cases h
          | ends late result =>
            cases result with
            | ok connection => cases h
            | error own =>
              cases h
              exact .inr (.of_attempt tried)

/-- Without a tunnel and without a limit, a request that fails in an attempt fails as its driver did then, and
the driver is left as it was. -/
theorem FailedIn.direct (h : FailedIn d s r fault w) (direct : r.tunnelled = false)
    (unlimited : r.target.timeout = none) :
    ∃ state request own, (d.attempt state request).1.course.outcome? = some (.error own) ∧
      fault = own.classify r.uri ∧ w.driver = (d.attempt state request).2 ∧
      w.journal.attempts.getLast? = some request := by
  obtain ⟨mode, before, after, acts, failed, rfl, quiet⟩ := h
  obtain ⟨own, made, ran⟩ := attempt_ran d s r mode before
  have course := attempt_direct d s direct mode before
  rw [unlimited, failed] at course
  obtain ⟨result, ended, same⟩ := Course.map_eq_ends course.symm
  cases result with
  | ok connection => cases same
  | error driver =>
    cases same
    have outcome : (d.attempt before.driver (r.request s mode)).1.course.outcome? =
        some (.error driver) := congrArg Course.outcome? ended
    refine ⟨before.driver, r.request s mode, driver, outcome, rfl, attempt_driver d s r mode before, ?_⟩
    rw [quiet.attempts_note, made, Journal.attempts_append, ran.attempts]
    exact List.getLast?_concat ..

/-- A request without hops fails as it is put, for want of a mode to try, or with its last attempt. -/
theorem connect_failedIn {listen : Except IoFault UInt16} {options : Options} {state : σ}
    (unproxied : options.proxy = none) (unforwarded : options.ssh = none)
    (h : connect d s listen options state = (.ends after (.error fault), w)) :
    (options.resolve = .error fault ∨ fault = .configuration .noModesLeft) ∧ w = ⟨state, []⟩ ∨
      ∃ resolved, options.resolve = .ok resolved ∧ resolved.timeout = options.timeout ∧
        FailedIn d s ⟨resolved, false, resolved.sanitizedUri⟩ fault w := by
  unfold connect at h
  cases hr : options.resolve with
  | error own =>
    rw [hr] at h
    cases h
    exact .inl ⟨.inl rfl, rfl⟩
  | ok resolved =>
    obtain ⟨fields, uri, resolves⟩ := Options.resolve_eq_ok_iff.mp hr
    have direct : resolved.needsTunnel = false := by
      rw [resolves.needsTunnel, unproxied, unforwarded]
      rfl
    have entered (w : World σ κ) : prepare listen resolved w =
        (.ok (⟨resolved, false, resolved.sanitizedUri⟩, none), w) := by
      unfold prepare
      rw [direct]
      rfl
    rw [hr] at h
    dsimp only at h
    rw [entered] at h
    dsimp only at h
    cases tried : negotiate d s ⟨resolved, false, resolved.sanitizedUri⟩ (⟨state, []⟩ : World σ κ) with
    | mk course left =>
      rw [tried] at h
      cases course with
      | never => cases h
      | ends early result =>
        cases result with
        | ok found => cases h
        | error own =>
          cases h
          rcases negotiate_failedIn tried with ⟨rfl, rfl⟩ | failed
          · exact .inl ⟨.inr rfl, World.note_nil _⟩
          · exact .inr ⟨resolved, rfl, by rw [resolves.kept], failed.note (.ite ⟨rfl, rfl⟩ _)⟩

end
end Passage.Negotiation
