import BatchBridge.Server.AcceptLoop

/-!
# Permits and sessions

A bridge of `n` permits never runs more than `n` sessions, and what it does with its permits can be
told from its events.

* `AcceptLoop.Moves` — all that can happen to a loop of `n` permits.
  **`AcceptLoop.step?_eq_some_iff_moves`**: it is what `step?` does.
* `AcceptLoop.Accounts` — where the permits are and what has become of the connections.
  **`AcceptLoop.accounts_move`** and **`AcceptLoop.accounts_run`**: a move keeps the accounts, and so
  does a run.
* `AcceptLoop.Orderly` — what a loop with such accounts may and may not do next.
* **`AcceptLoop.orderly_run`** — that is how a loop stands at any time.

When the loop is shut down while it pauses, or while a connection or a permit comes as well, it may
take another turn first.  `LoopEvent.shutdown` is the moment at which it takes notice.
-/

namespace BatchBridge.AcceptLoop

/-! ## Moves -/

/-- The moves of a loop of `n` permits. -/
inductive Moves (n : Nat) : AcceptLoop → LoopEvent → AcceptLoop → Prop where
  /-- One of the free permits is taken. -/
  | acquire {free accepted : Nat} {running : List Nat} :
      Moves n ⟨some n, free + 1, .acquiring, running, accepted⟩ .acquire
        ⟨some n, free, .accepting, running, accepted⟩
  /-- A connection becomes a session, with the permit of the loop. -/
  | arrive {free accepted : Nat} {running : List Nat} :
      Moves n ⟨some n, free, .accepting, running, accepted⟩ .arrive
        ⟨some n, free, .acquiring, accepted :: running, accepted + 1⟩
  /-- The loop keeps its permit over the pause. -/
  | acceptError {free accepted : Nat} {running : List Nat} :
      Moves n ⟨some n, free, .accepting, running, accepted⟩ .acceptError
        ⟨some n, free, .pausing, running, accepted⟩
  /-- The permit is returned behind the pause. -/
  | resume {free accepted : Nat} {running : List Nat} :
      Moves n ⟨some n, free, .pausing, running, accepted⟩ .resume
        ⟨some n, free + 1, .acquiring, running, accepted⟩
  /-- A session ends and returns its permit, wherever the loop stands. -/
  | ended {free accepted session : Nat} {running : List Nat} {standing : Standing} :
      session ∈ running → Moves n ⟨some n, free, standing, running, accepted⟩ (.ended session)
        ⟨some n, free + 1, standing, running.erase session, accepted⟩
  /-- The loop stops without a permit. -/
  | shutdownAcquiring {free accepted : Nat} {running : List Nat} :
      Moves n ⟨some n, free, .acquiring, running, accepted⟩ .shutdown
        ⟨some n, free, .stopped, running, accepted⟩
  /-- The loop stops and returns its permit. -/
  | shutdownAccepting {free accepted : Nat} {running : List Nat} :
      Moves n ⟨some n, free, .accepting, running, accepted⟩ .shutdown
        ⟨some n, free + 1, .stopped, running, accepted⟩

variable {n : Nat} {loop next last : AcceptLoop} {event : LoopEvent} {past events : List LoopEvent}

/-- **A loop of `n` permits moves like this and not otherwise.** -/
theorem step?_eq_some_iff_moves (hlimit : loop.limit = some n) :
    loop.step? event = some next ↔ Moves n loop event next := by
  obtain ⟨limit, free, standing, running, accepted⟩ := loop
  obtain rfl : limit = some n := hlimit
  constructor
  · intro h
    cases event with
    | acquire =>
      cases standing with
      | acquiring =>
        cases free with
        | zero => cases h
        | succ free => cases h; exact .acquire
      | _ => cases h
    | arrive =>
      cases standing with
      | accepting => cases h; exact .arrive
      | _ => cases h
    | acceptError =>
      cases standing with
      | accepting => cases h; exact .acceptError
      | _ => cases h
    | resume =>
      cases standing with
      | pausing => cases h; exact .resume
      | _ => cases h
    | ended session =>
      simp only [step?, returnPermit, Option.isSome_some, if_true] at h
      split at h
      · rename_i hrunning
        cases h
        exact .ended hrunning
      · cases h
    | shutdown =>
      cases standing with
      | acquiring => cases h; exact .shutdownAcquiring
      | accepting => cases h; exact .shutdownAccepting
      | _ => cases h
  · intro h
    cases h with
    | ended hrunning => simp [step?, returnPermit, hrunning]
    | _ => rfl

theorem run?_cons (loop : AcceptLoop) (event : LoopEvent) (events : List LoopEvent) :
    loop.run? (event :: events) = (loop.step? event).bind (·.run? events) :=
  List.foldlM_cons

/-! ## Accounts -/

/-- What can be told of a loop of `n` permits from the events so far. -/
structure Accounts (n : Nat) (past : List LoopEvent) (loop : AcceptLoop) : Prop where
  limit : loop.limit = some n
  /-- A permit is free, or the loop holds it, or a session that runs does. -/
  permits : loop.free + loop.holdsPermit.toNat + loop.running.length = n
  /-- Connections are numbered as they come. -/
  accepted : past.count .arrive = loop.accepted
  /-- Each connection that has come has one session, which still runs or has ended once. -/
  sessions : ∀ session, past.count (.ended session) + loop.running.count session =
    if session < loop.accepted then 1 else 0
  stopped : loop.standing = .stopped ↔ .shutdown ∈ past

theorem accounts_new (n : Nat) : Accounts n [] (new (some n)) where
  limit := rfl
  permits := rfl
  accepted := rfl
  sessions session := by simp [new]
  stopped := by simp [new]

/-- **A move keeps the accounts.** -/
theorem accounts_move (h : Accounts n past loop) (hmove : Moves n loop event next) :
    Accounts n (past ++ [event]) next := by
  obtain ⟨-, hpermits, haccepted, hsessions, hstopped⟩ := h
  cases hmove with
  | arrive =>
    refine ⟨rfl, ?_, by simpa using haccepted, fun session => ?_, by simpa using hstopped⟩
    · simp [holdsPermit] at hpermits ⊢
      omega
    · have hsession := hsessions session
      simp only [List.count_append, List.count_cons, List.count_nil, beq_iff_eq, reduceCtorEq,
        if_false] at hsession ⊢
      split at hsession <;> split <;> split <;> omega
  | @ended free accepted session running standing hrunning =>
    refine ⟨rfl, ?_, by simpa using haccepted, fun other => ?_, by simpa using hstopped⟩
    · have hlength := List.length_erase_of_mem hrunning
      have hpos := List.length_pos_of_mem hrunning
      have hholds : holdsPermit ⟨some n, free + 1, standing, running.erase session, accepted⟩ =
        holdsPermit ⟨some n, free, standing, running, accepted⟩ := rfl
      rw [hholds]
      simp only at hpermits ⊢
      omega
    · have hother := hsessions other
      have hpos := List.count_pos_iff.2 hrunning
      by_cases hsame : session = other
      · subst hsame
        simp only [List.count_append, List.count_singleton_self, List.count_erase_self] at hother ⊢
        omega
      · have hne : LoopEvent.ended session ≠ .ended other := fun h => hsame (by cases h; rfl)
        simp only [List.count_append, List.count_erase_of_ne (Ne.symm hsame),
          List.count_singleton, beq_iff_eq, hne, if_false] at hother ⊢
        omega
  | _ =>
    refine ⟨rfl, ?_, by simpa using haccepted, fun session => ?_, by simp_all⟩
    · simp [holdsPermit] at hpermits ⊢
      omega
    · simpa using hsessions session

theorem accounts_step (h : Accounts n past loop) (hstep : loop.step? event = some next) :
    Accounts n (past ++ [event]) next :=
  accounts_move h ((step?_eq_some_iff_moves h.limit).1 hstep)

/-- **A run keeps the accounts.** -/
theorem accounts_steps (h : Accounts n past loop) (hrun : loop.run? events = some last) :
    Accounts n (past ++ events) last := by
  induction events generalizing past loop with
  | nil =>
    cases hrun
    simpa using h
  | cons event events ih =>
    rw [run?_cons] at hrun
    obtain ⟨next, hstep, hrun⟩ := Option.bind_eq_some_iff.1 hrun
    simpa using ih (accounts_step h hstep) hrun

theorem accounts_run (hrun : (new (some n)).run? events = some loop) : Accounts n events loop :=
  accounts_steps (accounts_new n) hrun

/-! ## What may happen next -/

/-- A loop of `n` permits with its events so far, and what may follow them. -/
structure Orderly (n : Nat) (past : List LoopEvent) (loop : AcceptLoop) : Prop where
  accounts : Accounts n past loop
  atMost : loop.running.length ≤ n
  /-- A free permit can be taken, and there is one as long as fewer than `n` sessions run. -/
  acquires : loop.standing = .acquiring →
    ((∃ next, loop.step? .acquire = some next) ↔ loop.running.length < n)
  /-- A connection that comes is handed to a new session together with the permit of the loop. -/
  arrives : loop.standing = .accepting → loop.accepted ∉ loop.running ∧
    .ended loop.accepted ∉ past ∧ loop.step? .arrive = some { loop with
      standing := .acquiring, running := loop.accepted :: loop.running
      accepted := loop.accepted + 1 }
  /-- Where accepting fails, the permit is back behind the pause, and the loop can go on with it. -/
  recovers : loop.standing = .accepting → ∃ again,
    loop.run? [.acceptError, .resume] = some again ∧
    again = { loop with standing := .acquiring, free := loop.free + 1 } ∧
    again.step? .acquire = some loop
  /-- Whatever happens during the pause, the permit comes back and the loop can go on. -/
  resumes : loop.standing = .pausing → ∃ again, loop.step? .resume = some again ∧
    again = { loop with standing := .acquiring, free := loop.free + 1 } ∧
    ∃ next, again.step? .acquire = some next
  /-- The sessions that run can end, at any time and in any order.  That returns one permit and does
  nothing to the loop or to another session. -/
  ends : ∀ session, loop.step? (.ended session) =
    if session ∈ loop.running then
      some { loop with free := loop.free + 1, running := loop.running.erase session }
    else none
  /-- The loop can be stopped without waiting for any session, and no session is the worse for
  it. -/
  stops : loop.standing ≠ .stopped → ∃ turns stopped, loop.run? turns = some stopped ∧
    (∀ turn ∈ turns, turn = .resume ∨ turn = .shutdown) ∧
    stopped = { loop with standing := .stopped, free := loop.free + loop.holdsPermit.toNat }
  /-- Once stopped, it stays so.  No connection is accepted any more, and the sessions that run go on
  until they end. -/
  stays : loop.standing = .stopped → ∀ later last, loop.run? later = some last →
    last.standing = .stopped ∧ last.accepted = loop.accepted ∧ .arrive ∉ later ∧
    ∀ session ∈ loop.running, session ∈ last.running ∨ .ended session ∈ later

/-- The next connection has no session yet. -/
theorem Accounts.accepted_new (h : Accounts n past loop) :
    loop.accepted ∉ loop.running ∧ .ended loop.accepted ∉ past := by
  have hnone := h.sessions loop.accepted
  rw [if_neg (Nat.lt_irrefl _)] at hnone
  exact ⟨List.count_eq_zero.1 (by omega), List.count_eq_zero.1 (by omega)⟩

/-- A session that runs has ended neither before nor twice. -/
theorem step?_ended (hlimit : loop.limit = some n) (session : Nat) :
    loop.step? (.ended session) =
      if session ∈ loop.running then
        some { loop with free := loop.free + 1, running := loop.running.erase session }
      else none := by
  simp [step?, returnPermit, hlimit]

/-- Nothing but the end of a session happens to a loop that has stopped. -/
theorem stays_of_stopped (hlimit : loop.limit = some n) (hstopped : loop.standing = .stopped)
    (hrun : loop.run? events = some last) :
    last.standing = .stopped ∧ last.accepted = loop.accepted ∧ .arrive ∉ events ∧
      ∀ session ∈ loop.running, session ∈ last.running ∨ .ended session ∈ events := by
  induction events generalizing loop with
  | nil =>
    cases hrun
    exact ⟨hstopped, rfl, List.not_mem_nil, fun session hsession => .inl hsession⟩
  | cons event events ih =>
    rw [run?_cons] at hrun
    obtain ⟨next, hstep, hrun⟩ := Option.bind_eq_some_iff.1 hrun
    cases (step?_eq_some_iff_moves hlimit).1 hstep with
    | @ended free accepted ended running standing hrunning =>
      obtain ⟨hstanding, haccepted, harrive, hsessions⟩ :=
        @ih ⟨some n, free + 1, standing, running.erase ended, accepted⟩ rfl hstopped hrun
      refine ⟨hstanding, haccepted, by simpa using harrive, fun session hsession => ?_⟩
      by_cases hsame : session = ended
      · exact .inr (by rw [hsame]; exact List.mem_cons_self)
      · exact (hsessions session ((List.mem_erase_of_ne hsame).2 hsession)).imp_right
          (List.mem_cons_of_mem _)
    | _ => cases hstopped

theorem Accounts.orderly (h : Accounts n past loop) : Orderly n past loop where
  accounts := h
  atMost := by have := h.permits; omega
  acquires hstanding := by
    have hpermits := h.permits
    obtain ⟨limit, free, standing, running, accepted⟩ := loop
    obtain rfl : limit = some n := h.limit
    obtain rfl : standing = .acquiring := hstanding
    cases free with
    | zero => simp [step?, holdsPermit] at hpermits ⊢; omega
    | succ free => simp [step?, holdsPermit] at hpermits ⊢; omega
  arrives hstanding := ⟨h.accepted_new.1, h.accepted_new.2, by simp [step?, hstanding]⟩
  recovers hstanding := by
    obtain ⟨limit, free, standing, running, accepted⟩ := loop
    obtain rfl : limit = some n := h.limit
    obtain rfl : standing = .accepting := hstanding
    exact ⟨_, rfl, rfl, rfl⟩
  resumes hstanding := by
    obtain ⟨limit, free, standing, running, accepted⟩ := loop
    obtain rfl : limit = some n := h.limit
    obtain rfl : standing = .pausing := hstanding
    exact ⟨_, rfl, rfl, _, rfl⟩
  ends := step?_ended h.limit
  stops hstanding := by
    obtain ⟨limit, free, standing, running, accepted⟩ := loop
    obtain rfl : limit = some n := h.limit
    cases standing with
    | acquiring => exact ⟨[.shutdown], _, rfl, by simp, rfl⟩
    | accepting => exact ⟨[.shutdown], _, rfl, by simp, rfl⟩
    | pausing => exact ⟨[.resume, .shutdown], _, rfl, by simp, rfl⟩
    | stopped => exact absurd rfl hstanding
  stays hstopped _ _ := stays_of_stopped h.limit hstopped

/-- **A bridge keeps to its limit and loses neither a permit nor a connection**, whatever the order
in which connections come, accepting fails, sessions end and the bridge is shut down. -/
theorem orderly_run {n : Nat} {events : List LoopEvent} {loop : AcceptLoop}
    (hrun : (new (some n)).run? events = some loop) : Orderly n events loop :=
  (accounts_run hrun).orderly

/-- Two permits: accepting fails once, two sessions run, the first ends, and the second outlasts the
loop. -/
theorem orderly_run_two_permits :
    let events : List LoopEvent := [.acquire, .acceptError, .resume, .acquire, .arrive, .acquire,
      .arrive, .ended 0, .acquire, .shutdown]
    let loop : AcceptLoop := ⟨some 2, 1, .stopped, [1], 2⟩
    (new (some 2)).run? events = some loop ∧ Orderly 2 events loop := by
  intro events loop
  have hrun : (new (some 2)).run? events = some loop := by decide
  exact ⟨hrun, orderly_run hrun⟩

end BatchBridge.AcceptLoop
