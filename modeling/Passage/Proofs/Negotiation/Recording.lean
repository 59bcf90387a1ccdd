import Passage.Proofs.Negotiation.Attempt

namespace Passage.Negotiation

variable {σ κ : Type}

/-- A property that no step of a connection request on its route breaks. -/
structure Kept (d : Driver σ κ) (s : Settings) (r : Route) (P : World σ κ → Prop) : Prop where
  note {w : World σ κ} {acts : Journal κ} (quiet : Quiet acts) (h : P w) : P (w.note acts)
  attempt {w : World σ κ} (mode : SslMode) (h : P w) : P (attempt d s r mode w).2
  close {w : World σ κ} (connection : κ) (h : P w) : P (close d connection w).2

section

variable {d : Driver σ κ} {s : Settings} {r : Route} {P : World σ κ → Prop} (kept : Kept d s r P)
include kept

theorem Kept.log {w : World σ κ} (level : Report.Level) (text : String) (h : P w) :
    P (w.log level text) :=
  kept.note ⟨rfl, rfl⟩ h

/-- What holds after the first attempt of a search holds after the search. -/
theorem Kept.probe_cons {mode : SslMode} {rest : List SslMode} (last : Option Fault) {w : World σ κ}
    (tried : P (Negotiation.attempt d s r mode w).2)
    (further : ∀ (last : Option Fault) {w : World σ κ}, P w → P (probe d s r rest last w).2) :
    P (probe d s r (mode :: rest) last w).2 := by
  unfold Negotiation.probe
  cases ha : Negotiation.attempt d s r mode w with
  | mk course w' =>
    rw [ha] at tried
    cases course with
    | never => exact tried
    | ends after result =>
      cases result with
      | ok connection => exact kept.log _ _ (kept.note ⟨rfl, rfl⟩ (kept.close connection tried))
      | error fault => exact further _ (kept.log _ _ (kept.note ⟨rfl, rfl⟩ tried))

theorem Kept.probe (candidates : List SslMode) (last : Option Fault) {w : World σ κ} (h : P w) :
    P (probe d s r candidates last w).2 := by
  induction candidates generalizing last w with
  | nil => exact h
  | cons mode rest ih => exact kept.probe_cons last (kept.attempt mode h) ih

theorem Kept.chooseMode {w : World σ κ} (h : P w) : P (chooseMode d s r w).2 := by
  unfold Negotiation.chooseMode
  split
  · exact h
  · split
    · exact kept.probe _ _ h
    · exact kept.log _ _ h

theorem Kept.negotiate_chosen {w : World σ κ} (chosen : P (Negotiation.chooseMode d s r w).2) :
    P (negotiate d s r w).2 := by
  unfold Negotiation.negotiate
  cases hc : Negotiation.chooseMode d s r w with
  | mk course w' =>
    rw [hc] at chosen
    cases course with
    | never => exact chosen
    | ends after result =>
      cases result with
      | error fault => exact chosen
      | ok mode => exact kept.attempt mode chosen

theorem Kept.negotiate {w : World σ κ} (h : P w) : P (negotiate d s r w).2 :=
  kept.negotiate_chosen (kept.chooseMode h)

end

/-- Opening the entry asks nothing of the driver, and the route is known by the request. -/
theorem prepare_cases (listen : Except IoFault UInt16) (resolved : Resolved) (w : World σ κ) :
    (∃ fault, prepare listen resolved w = (.error fault, w)) ∨
      ∃ route port acts, prepare listen resolved w = (.ok (route, port), w.note acts) ∧
        Quiet acts ∧ route.uri = resolved.sanitizedUri ∧
        route.tunnelled = resolved.needsTunnel := by
  rcases prepare_eq listen resolved w with
    ⟨fault, -, -, failed⟩ | ⟨port, tunnel, -, opened⟩ | ⟨direct, opened⟩
  · exact .inl ⟨_, failed⟩
  · exact .inr ⟨_, _, _, opened, ⟨rfl, rfl⟩, rfl, tunnel.symm⟩
  · refine .inr ⟨⟨resolved, false, resolved.sanitizedUri⟩, none, [], ?_, ⟨rfl, rfl⟩, rfl,
      direct.symm⟩
    rw [opened, World.note, List.append_nil]

/-- What no step breaks holds when a connection request is done, whatever came of it. -/
theorem Kept.connect {d : Driver σ κ} {s : Settings} {P : World σ κ → Prop}
    (listen : Except IoFault UInt16) (options : Options) {state : σ}
    (kept : ∀ resolved, options.resolve = .ok resolved → ∀ r : Route,
      r.uri = resolved.sanitizedUri → r.tunnelled = resolved.needsTunnel → Kept d s r P)
    (h : P ⟨state, []⟩) : P (connect d s listen options state).2 := by
  unfold Negotiation.connect
  cases hr : options.resolve with
  | error fault => exact h
  | ok resolved =>
    dsimp only
    rcases prepare_cases listen resolved (⟨state, []⟩ : World σ κ) with
      ⟨fault, failed⟩ | ⟨route, port, acts, prepared, quiet, uri, tunnelled⟩
    · rw [failed]
      exact h
    · have along := kept resolved hr route uri tunnelled
      have opened := along.negotiate (along.note quiet h)
      rw [prepared]
      dsimp only
      cases hn : Negotiation.negotiate d s route (World.note ⟨state, []⟩ acts) with
      | mk course w =>
        rw [hn] at opened
        cases course with
        | never => exact opened
        | ends after result =>
          cases result with
          | ok found => exact opened
          | error fault =>
            have stopped : Quiet (if route.tunnelled then [Act.stopped (κ := κ)] else []) :=
              Quiet.ite ⟨rfl, rfl⟩ _
            exact along.note stopped opened

/-- The same driver, which also keeps in mind what it was asked for. -/
def Driver.recording (d : Driver σ κ) : Driver (σ × List DriverRequest) κ where
  attempt seen request :=
    let (a, state) := d.attempt seen.1 request
    (a, state, seen.2 ++ [request])
  close seen connection :=
    let (result, state) := d.close seen.1 connection
    (result, state, seen.2)

theorem attempt_driver (d : Driver σ κ) (s : Settings) (r : Route) (mode : SslMode)
    (w : World σ κ) :
    (attempt d s r mode w).2.driver = (d.attempt w.driver (r.request s mode)).2 := by
  unfold attempt
  dsimp only [World.note]
  split <;> rfl

theorem Quiet.attempts_note {acts : Journal κ} (quiet : Quiet acts) (w : World σ κ) :
    (w.note acts).journal.attempts = w.journal.attempts := by
  rw [World.note, Journal.attempts_append, quiet.attempts, List.append_nil]

theorem recording_kept (d : Driver σ κ) (s : Settings) (r : Route) :
    Kept d.recording s r fun w => w.driver.2 = w.journal.attempts where
  note {w acts} quiet h := by
    rw [quiet.attempts_note]
    exact h
  attempt {w} mode h := by
    obtain ⟨acts, hj, ran⟩ := attempt_ran d.recording s r mode w
    rw [hj, attempt_driver, Journal.attempts_append, ran.attempts]
    change w.driver.2 ++ [r.request s mode] = _
    rw [h]
    rfl
  close {w} connection h := by
    change w.driver.2 = (w.journal ++ [Act.closed connection]).attempts
    rw [Journal.attempts_append, h]
    exact (List.append_nil _).symm

/-- The attempts in the journal are the requests that reached the driver, one by one. -/
theorem connect_recording (d : Driver σ κ) (s : Settings) (listen : Except IoFault UInt16)
    (options : Options) (state : σ) :
    (connect d.recording s listen options (state, [])).2.driver.2 =
      (connect d.recording s listen options (state, [])).2.journal.attempts :=
  Kept.connect listen options (fun _ _ r _ _ => recording_kept d s r) rfl

end Passage.Negotiation
