import Passage.Proofs.Negotiation.Endings

namespace Passage.Negotiation

variable {σ κ : Type}

/-- One dealing with a driver. -/
inductive Dealing (κ : Type) where
  | asked (request : DriverRequest)
  | gave (connection : κ)
  /-- A connection came back to be closed. -/
  | took (connection : κ)

abbrev Account (κ : Type) := List (Dealing κ)

/-- The connections that were handed out. -/
def Account.given (a : Account κ) : List κ :=
  a.filterMap fun
    | .gave connection => some connection
    | _ => none

def Account.taken (a : Account κ) : List κ :=
  a.filterMap fun
    | .took connection => some connection
    | _ => none

/-- The connection that a driver's work hands out. Work beyond the limit is dropped and hands out
nothing. -/
def handed (limit : Option Nat) (course : Course (Except Fault κ)) : Option κ :=
  if limit.all course.endsBy then course.outcome?.bind (·.toOption) else none

/-- The same driver, which also keeps account of its dealings. -/
def Driver.accounting (d : Driver σ κ) : Driver (σ × Account κ) κ where
  attempt seen request :=
    let (a, state) := d.attempt seen.1 request
    (a, state, seen.2 ++ .asked request :: (handed request.timeout a.course).toList.map .gave)
  close seen connection :=
    let (result, state) := d.close seen.1 connection
    (result, state, seen.2 ++ [.took connection])

/-- Dealings that begin and end with these connections open. Nothing is asked for while one is open, and
only the open one can come back. -/
inductive Ledger : Option κ → Account κ → Option κ → Prop where
  | nil (held : Option κ) : Ledger held [] held
  | asked {rest : Account κ} {held : Option κ} (request : DriverRequest)
      (more : Ledger none rest held) : Ledger none (.asked request :: rest) held
  | gave {rest : Account κ} {held : Option κ} (connection : κ)
      (more : Ledger (some connection) rest held) : Ledger none (.gave connection :: rest) held
  | took {rest : Account κ} {held : Option κ} (connection : κ)
      (more : Ledger none rest held) : Ledger (some connection) (.took connection :: rest) held

namespace Ledger

variable {a b : Account κ} {before mid after : Option κ}

theorem append (h : Ledger before a mid) (h' : Ledger mid b after) :
    Ledger before (a ++ b) after := by
  induction h with
  | nil held => exact h'
  | asked request more ih => exact .asked request (ih h')
  | gave connection more ih => exact .gave connection (ih h')
  | took connection more ih => exact .took connection (ih h')

theorem split (h : Ledger before (a ++ b) after) :
    ∃ mid, Ledger before a mid ∧ Ledger mid b after := by
  induction a generalizing before with
  | nil => exact ⟨before, .nil before, h⟩
  | cons dealing rest ih =>
    cases h with
    | asked request more =>
      obtain ⟨mid, past, future⟩ := ih more
      exact ⟨mid, .asked request past, future⟩
    | gave connection more =>
      obtain ⟨mid, past, future⟩ := ih more
      exact ⟨mid, .gave connection past, future⟩
    | took connection more =>
      obtain ⟨mid, past, future⟩ := ih more
      exact ⟨mid, .took connection past, future⟩

/-- What was open and what was handed out has come back in this order, but for what is still open. -/
theorem balance (h : Ledger before a after) :
    before.toList ++ a.given = a.taken ++ after.toList := by
  induction h with
  | nil held => simp [Account.given, Account.taken]
  | asked request more ih => simpa [Account.given, Account.taken] using ih
  | gave connection more ih => simpa [Account.given, Account.taken] using ih
  | took connection more ih => simpa [Account.given, Account.taken] using ih

theorem balance_asked {request : DriverRequest} {past rest : Account κ}
    (h : Ledger none (past ++ .asked request :: rest) after) : past.given = past.taken := by
  obtain ⟨mid, before, future⟩ := h.split
  cases future with
  | asked request more => simpa using before.balance

end Ledger

def Act.isEntry : Act κ → Bool
  | .listened _ | .stopped => true
  | _ => false

def Act.entry (entry : Option UInt16) : Act κ → Option UInt16
  | .listened port => some port
  | .stopped => none
  | _ => entry

/-- The port of the entry that is open when all is done. -/
def Journal.port? (j : Journal κ) : Option UInt16 :=
  j.foldl Act.entry none

theorem Journal.port?_append (j : Journal κ) {acts : Journal κ}
    (still : ∀ act ∈ acts, act.isEntry = false) : port? (j ++ acts) = j.port? := by
  have kept : ∀ entry, acts.foldl Act.entry entry = entry := by
    induction acts with
    | nil => exact fun _ => rfl
    | cons act rest ih =>
      intro entry
      have idle : act.isEntry = false := still act List.mem_cons_self
      rw [List.foldl_cons, ih fun act' h => still act' (List.mem_cons_of_mem act h)]
      cases act with
      | listened | stopped => cases idle
      | _ => rfl
  rw [port?, List.foldl_append]
  exact kept _

theorem port?_attempt (d : Driver σ κ) (s : Settings) (r : Route) (mode : SslMode)
    (w : World σ κ) : (attempt d s r mode w).2.journal.port? = w.journal.port? := by
  rw [attempt_journal]
  apply Journal.port?_append
  intro act h
  rcases mem_attemptActs h with ⟨_, rfl⟩ | rfl | rfl | ⟨rfl, -⟩ | ⟨_, rfl⟩ | rfl <;> rfl

/-- The driver's dealings in between begin and end with these connections open, and the entry is left as
it is. -/
structure Leads (w w' : World (σ × Account κ) κ) (held held' : Option κ) : Prop where
  account : ∃ dealings, w'.driver.2 = w.driver.2 ++ dealings ∧ Ledger held dealings held'
  entry : w'.journal.port? = w.journal.port?

namespace Leads

variable {w w' w'' : World (σ × Account κ) κ} {before mid after : Option κ}

theorem refl (w : World (σ × Account κ) κ) (held : Option κ) : Leads w w held held :=
  ⟨⟨[], by simp, .nil held⟩, rfl⟩

theorem trans (h : Leads w w' before mid) (h' : Leads w' w'' mid after) :
    Leads w w'' before after := by
  obtain ⟨a, ha, first⟩ := h.account
  obtain ⟨b, hb, second⟩ := h'.account
  refine ⟨⟨a ++ b, ?_, first.append second⟩, h'.entry.trans h.entry⟩
  rw [hb, ha, List.append_assoc]

theorem note (h : Leads w w' before after) {acts : Journal κ}
    (still : ∀ act ∈ acts, act.isEntry = false) : Leads w (w'.note acts) before after :=
  ⟨h.account, (w'.journal.port?_append still).trans h.entry⟩

theorem log (h : Leads w w' before after) (level : Report.Level) (text : String) :
    Leads w (w'.log level text) before after := by
  apply h.note
  simp [Act.isEntry]

end Leads

def opened? {α : Type} (course : Course (Except Fault α)) : Option α :=
  course.outcome?.bind (·.toOption)

theorem opened?_later {α : Type} (delay : Nat) (course : Course (Except Fault α)) :
    opened? (course.later delay) = opened? course := by
  rw [opened?, Course.outcome?_later, opened?]

theorem opened?_map {α β : Type} (f : α → β) (course : Course (Except Fault α)) :
    opened? (course.map (·.map f)) = (opened? course).map f := by
  cases course with
  | never => rfl
  | ends after result => cases result <;> rfl

theorem opened?_limited (limit : Option Nat) (uri : String) (course : Course (Except Fault κ)) :
    opened? (limited limit uri course) = handed limit course := by
  cases limit with
  | none => rfl
  | some limit =>
    simp only [limited, Course.within, handed, Option.all_some]
    split <;> rfl

section

variable (d : Driver σ κ) (s : Settings) (r : Route)

/-- An attempt comes to a connection exactly if the driver hands one out. -/
theorem opened?_attempt (mode : SslMode) (w : World σ κ) :
    opened? (attempt d s r mode w).1 =
      handed r.target.timeout (d.attempt w.driver (r.request s mode)).1.course := by
  rw [← opened?_limited _ r.uri, opened?, opened?, attempt_outcome, Option.bind_map]
  congr 1
  funext result
  cases result <;> rfl

theorem attempt_leads (mode : SslMode) (w : World (σ × Account κ) κ) :
    Leads w (attempt d.accounting s r mode w).2 none
      (opened? (attempt d.accounting s r mode w).1) := by
  refine ⟨⟨.asked (r.request s mode) ::
      (opened? (attempt d.accounting s r mode w).1).toList.map .gave, ?_, ?_⟩,
    port?_attempt _ s r mode w⟩
  · rw [attempt_driver, opened?_attempt]
    rfl
  · apply Ledger.asked
    cases opened? (attempt d.accounting s r mode w).1 with
    | none => exact .nil none
    | some connection => exact .gave connection (.nil _)

theorem close_leads (connection : κ) (w : World (σ × Account κ) κ) :
    Leads w (close d.accounting connection w).2 (some connection) none := by
  refine ⟨⟨[.took connection], rfl, .took connection (.nil none)⟩, ?_⟩
  apply Journal.port?_append
  simp [Act.isEntry]

/-- When the search for a mode is over, nothing is open. -/
theorem probe_leads (candidates : List SslMode) (last : Option Fault)
    (w : World (σ × Account κ) κ) :
    Leads w (probe d.accounting s r candidates last w).2 none none := by
  -- Induction on the candidates that are left, after any failure and in any state of the driver.
  induction candidates generalizing last w with
  | nil => exact .refl w none
  | cons mode rest ih =>
    have tried := attempt_leads d s r mode w
    unfold probe
    cases ha : attempt d.accounting s r mode w with
    | mk course w' =>
      rw [ha] at tried
      cases course with
      | never => exact tried
      | ends after result =>
        cases result with
        | ok connection =>
          have closed := tried.trans (close_leads d connection w')
          apply Leads.log
          apply closed.note
          simp [Act.isEntry]
        | error fault =>
          have goesOn : Leads w ((w'.note [.counted (.probed mode .error)]).log .debug
              ("sslMode=" ++ mode.name ++ " probe failed: " ++ fault.text)) none none := by
            apply Leads.log
            apply tried.note
            simp [Act.isEntry]
          exact goesOn.trans (ih _ _)

theorem chooseMode_leads (w : World (σ × Account κ) κ) :
    Leads w (chooseMode d.accounting s r w).2 none none := by
  unfold chooseMode
  split
  · exact .refl w none
  · split
    · exact probe_leads d s r s.candidates none w
    · exact (Leads.refl w none).log _ _

theorem negotiate_leads (w : World (σ × Account κ) κ) :
    Leads w (negotiate d.accounting s r w).2 none
      ((opened? (negotiate d.accounting s r w).1).map Prod.fst) := by
  have chosen := chooseMode_leads d s r w
  unfold negotiate
  cases hc : chooseMode d.accounting s r w with
  | mk course w' =>
    rw [hc] at chosen
    cases course with
    | never => exact chosen
    | ends after result =>
      cases result with
      | error fault => exact chosen
      | ok mode =>
        have used := chosen.trans (attempt_leads d s r mode w')
        dsimp only
        rw [opened?_later, opened?_map, Option.map_map]
        change Leads w _ none ((opened? _).map id)
        rw [Option.map_id]
        exact used

end

/-- The entry that a route needs is open once the route is known. -/
theorem prepare_entry (listen : Except IoFault UInt16) (resolved : Resolved) (state : σ) :
    (∃ fault, prepare (κ := κ) listen resolved ⟨state, []⟩ = (.error fault, ⟨state, []⟩)) ∨
      ∃ route port opened, prepare (κ := κ) listen resolved ⟨state, []⟩ = (.ok (route, port), opened) ∧
        opened.driver = state ∧ opened.journal.port? = port ∧ route.tunnelled = port.isSome := by
  rcases prepare_eq (κ := κ) listen resolved ⟨state, []⟩ with
    ⟨fault, -, -, failed⟩ | ⟨entry, -, -, prepared⟩ | ⟨-, prepared⟩
  · exact .inl ⟨_, failed⟩
  · exact .inr ⟨_, _, _, prepared, rfl, rfl, rfl⟩
  · exact .inr ⟨_, _, _, prepared, rfl, rfl, rfl⟩

theorem port?_stop {j : Journal κ} {r : Route} (known : r.tunnelled = j.port?.isSome) :
    Journal.port? (j ++ if r.tunnelled then [.stopped] else []) = none := by
  cases he : j.port? with
  | some port =>
    rw [he] at known
    simp [known, Journal.port?, Act.entry]
  | none =>
    rw [he] at known
    simpa [known] using he

/-- A request begins with nothing open, and what it comes to is all that it leaves open. -/
theorem connect_ledger (d : Driver σ κ) (s : Settings) (listen : Except IoFault UInt16)
    (options : Options) (state : σ) :
    let run := connect d.accounting s listen options (state, [])
    Ledger none run.2.driver.2 ((opened? run.1).map (·.connection)) ∧
      ∀ after result, run.1 = .ends after result →
        run.2.journal.port? = result.toOption.bind (·.port) := by
  intro run
  unfold run connect
  cases options.resolve with
  | error fault => exact ⟨.nil none, by simp [Journal.port?, Except.toOption]⟩
  | ok resolved =>
    dsimp only
    rcases prepare_entry (κ := κ) listen resolved (state, ([] : Account κ)) with
      ⟨fault, failed⟩ | ⟨route, port, opened, prepared, start, entry, tunnelled⟩
    · rw [failed]
      exact ⟨.nil none, by simp [Journal.port?, Except.toOption]⟩
    · rw [prepared]
      dsimp only
      obtain ⟨⟨dealings, account, ledger⟩, kept⟩ := negotiate_leads d s route opened
      rw [start, List.nil_append] at account
      rw [entry] at kept
      cases hn : negotiate d.accounting s route opened with
      | mk course w =>
        rw [hn] at account ledger kept
        dsimp only at account ledger kept
        rw [← account] at ledger
        cases course with
        | never => exact ⟨ledger, by simp⟩
        | ends after result =>
          cases result with
          | ok found =>
            refine ⟨ledger, ?_⟩
            intro after result h
            cases h
            exact kept
          | error fault =>
            refine ⟨ledger, ?_⟩
            intro after result h
            cases h
            apply port?_stop
            rw [kept, tunnelled]

/-- At any time during a request, the connections that the driver handed out have come back, in this
order and so each of them once, but for at most one; and whenever another is asked for, all have come
back. A request that succeeds leaves its own connection open and the entry that it goes through, if it
goes through one; a request that fails leaves neither a connection nor an entry. -/
theorem connect_accounts (d : Driver σ κ) (s : Settings) (listen : Except IoFault UInt16)
    (options : Options) (state : σ) :
    let run := connect d.accounting s listen options (state, [])
    let account := run.2.driver.2
    (∀ past rest : Account κ, account = past ++ rest →
      ∃ held : Option κ, past.given = past.taken ++ held.toList) ∧
    (∀ (past rest : Account κ) request, account = past ++ .asked request :: rest →
      past.given = past.taken) ∧
    match run.1 with
    | .ends _ (.ok e) =>
      account.given = account.taken ++ [e.connection] ∧ run.2.journal.port? = e.port
    | .ends _ (.error _) => account.given = account.taken ∧ run.2.journal.port? = none
    | .never => True := by
  intro run account
  obtain ⟨ledger, entry⟩ := connect_ledger d s listen options state
  refine ⟨?_, ?_, ?_⟩
  · intro past rest h
    change account = past ++ rest at h
    change Ledger none account _ at ledger
    rw [h] at ledger
    obtain ⟨held, before, -⟩ := ledger.split
    exact ⟨held, before.balance⟩
  · intro past rest request h
    change Ledger none account _ at ledger
    rw [h] at ledger
    exact ledger.balance_asked
  · have balance : account.given =
        account.taken ++ ((opened? run.1).map (·.connection)).toList := ledger.balance
    cases hc : run.1 with
    | never => trivial
    | ends after result =>
      rw [hc] at balance
      have stays := entry after result hc
      cases result with
      | ok e => exact ⟨balance, stays⟩
      | error fault => exact ⟨balance.trans (List.append_nil _), stays⟩

/-- The driver of a server that lets in one connection only, and can close none. -/
def Driver.once : Driver Nat Nat where
  attempt n _ := (⟨.ends 1 (if n = 0 then .ok n else .error .connectionClosed), none⟩, n + 1)
  close n _ := (.error .connectionClosed, n)

example :
    let run := connect Driver.once.accounting {} (.ok 40000) (asking .postgres none) (0, [])
    run.2.driver.2.given = [0] ∧ run.2.driver.2.taken = [0] :=
  ⟨rfl, rfl⟩

end Passage.Negotiation
