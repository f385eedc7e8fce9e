import ServiceChannel.Proofs.Channel.Holdings
import ServiceChannel.Proofs.Channel.Run
import ServiceChannel.Proofs.Kernel.Script

/-!
# Phases of bringing up

What each of the three phases (`start_pre_clone`, `start_child`, `start_pre_exec`) can come to,
whatever the kernel and the container answer. A phase that fails acquires nothing, except the last
one when the container takes no observer: by then the socket listens, and nothing stops it.

- `Holdings.Phased`: the ways in which a phase can end.
- `create_phased`, `bind_phased`, `listen_phased`: the phases end in one of them.
- `Channel.bringUp_cases`: what all three come to.
- `failed_phase_acquires_nothing_iff`: when a failed phase acquires nothing.
-/

namespace ServiceChannel

/-- The container took no observer. -/
def Error.isRegistration : Error → Bool
  | .observerRegistration _ => true
  | _ => false

/-- The call is a phase of bringing up. -/
def EngineCall.isPhase : EngineCall → Bool
  | .create | .bind | .listen => true
  | _ => false

namespace Holdings

/-! ## Ways to end -/

/-- The rendezvous comes into another phase. -/
def move (holdings : Holdings) (rendezvous : Rendezvous) : Holdings :=
  { holdings with engine := { holdings.engine with rendezvous := rendezvous } }

/-- The rendezvous is closed, and its socket was let go of. -/
def giveBack (holdings : Holdings) : Holdings :=
  { holdings.move .closed with
    retired := holdings.retired ++ holdings.engine.rendezvous.socket?.toList }

/-- The engine observes its container. -/
def observe (holdings : Holdings) (container : Container) : Holdings :=
  { holdings with
    engine := { holdings.engine with subscription := some container.observers.next }
    container :=
      some { container with observers := container.observers.register .bridge } }

/-- How a phase can end. -/
inductive Phased (before : Holdings) : EngineCall → Except Error Unit → Holdings → Prop where
  /-- It is not its turn, or the first thing that it asks for is refused. -/
  | refused {call : EngineCall} {error : Error} (other : error.isRegistration = false) :
    Phased before call (.error error) before
  /-- It fails in its turn, before the socket listens. -/
  | failed {call : EngineCall} {error : Error}
    (turn : before.engine.rendezvous.isListening = false)
    (other : error.isRegistration = false) : Phased before call (.error error) before.giveBack
  | created (socket : Handle) (turn : before.engine.rendezvous = .closed) :
    Phased before .create (.ok ()) (before.move (.created socket))
  | bound (socket : Handle) (turn : before.engine.rendezvous = .created socket) :
    Phased before .bind (.ok ()) (before.move (.bound socket))
  /-- It has put the socket to listening when it fails. -/
  | unobserved (socket : Handle) (turn : before.engine.rendezvous = .bound socket)
    (text : String) :
    Phased before .listen (.error (.observerRegistration text)) (before.move (.listening socket))
  | listening (socket : Handle) (turn : before.engine.rendezvous = .bound socket)
    (container : Container) (there : before.container = some container) :
    Phased before .listen (.ok ()) ((before.move (.listening socket)).observe container)

/-- The engine's rendezvous, connection and subscription are as before, or the rendezvous is closed;
and no observer joined. -/
def AcquiresNothing (before after : Holdings) : Prop :=
  ((after.engine.rendezvous = before.engine.rendezvous ∧
      after.engine.connection = before.engine.connection) ∨
    after.engine.rendezvous = .closed) ∧
  after.engine.subscription = before.engine.subscription ∧
  after.container.map (·.observers) = before.container.map (·.observers)

/-! ## Moving the rendezvous -/

/-- All is held as before, but for the rendezvous and its socket. -/
structure Moved (before after : Holdings) : Prop where
  engine : ∃ rendezvous, after.engine = { before.engine with rendezvous := rendezvous }
  container : after.container = before.container

variable {before after : Holdings}

theorem Moved.refl (holdings : Holdings) : holdings.Moved holdings := ⟨⟨_, rfl⟩, rfl⟩

theorem Moved.move (moved : before.Moved after) (rendezvous : Rendezvous) :
    before.Moved (after.move rendezvous) := by
  obtain ⟨⟨earlier, engine⟩, container⟩ := moved
  exact ⟨⟨rendezvous, by rw [Holdings.move, engine]⟩, container⟩

/-- A phase that fails moves the rendezvous at most. -/
theorem Phased.moved_of_error {middle : Holdings} {call : EngineCall} {error : Error}
    (moved : before.Moved middle) (phased : middle.Phased call (.error error) after) :
    before.Moved after := by
  cases phased with
  | refused _ => exact moved
  | failed _ _ => exact ⟨(moved.move .closed).engine, moved.container⟩
  | unobserved socket _ _ => exact moved.move (.listening socket)

/-- A phase that succeeds moves the rendezvous, and the last one observes the container as well. -/
theorem Phased.cases_of_ok {middle : Holdings} {call : EngineCall}
    (moved : before.Moved middle) (phased : middle.Phased call (.ok ()) after) :
    (call ≠ .listen ∧ before.Moved after) ∨ call = .listen ∧ ∃ between container,
      before.Moved between ∧ before.container = some container ∧
        after = between.observe container := by
  cases phased with
  | created socket _ => exact .inl ⟨nofun, moved.move (.created socket)⟩
  | bound socket _ => exact .inl ⟨nofun, moved.move (.bound socket)⟩
  | listening socket _ container there =>
    exact .inr ⟨rfl, _, container, moved.move (.listening socket),
      moved.container.symm.trans there, rfl⟩

end Holdings

/-- A container registers an observer under its next number, or takes none. -/
theorem Container.register_cases (container : Container) (observer : Observer) :
    (∃ error, container.register observer = (.error error, container)) ∨
      container.register observer = (.ok container.observers.next,
        { container with observers := container.observers.register observer }) := by
  unfold register
  dsimp only
  split
  · split
    · exact .inl ⟨_, rfl⟩
    · exact .inr rfl
  · exact .inr rfl

namespace Channel

variable {κ : Type}

/-! ## Steps of a phase -/

@[simp] theorem holdings_setRendezvous (channel : Channel κ) (rendezvous : Rendezvous) :
    (channel.setRendezvous rendezvous).holdings = channel.holdings.move rendezvous := rfl

@[simp] theorem holdings_closeRendezvous (channel : Channel κ) :
    channel.closeRendezvous.holdings = channel.holdings.giveBack := by
  unfold closeRendezvous Holdings.giveBack
  dsimp only
  split <;> rename_i found <;> simp [holdings, retire, onEngine, Holdings.move, found]

/-- So does the container of a channel, if it is there. -/
theorem register_cases (channel : Channel κ) (observer : Observer) :
    (∃ error, channel.register observer = (.error error, channel)) ∨
    ∃ container, channel.container = some container ∧
      channel.register observer = (.ok container.observers.next,
        { channel with
          container :=
            some { container with observers := container.observers.register observer } }) := by
  unfold register
  split
  · exact .inl ⟨_, rfl⟩
  · rename_i container there
    have unchanged : { channel with container := some container } = channel := by rw [← there]
    obtain ⟨error, refused⟩ | registered := container.register_cases observer
    · rw [refused]
      exact .inl ⟨error, congrArg (Prod.mk _) unchanged⟩
    · rw [registered]
      exact .inr ⟨container, there, rfl⟩

/-- The engine observes its container, or the container takes no observer. -/
theorem subscribe_cases (channel : Channel κ) :
    (∃ text, channel.subscribe = (.error (.observerRegistration text), channel)) ∨
    ∃ container, channel.container = some container ∧ channel.subscribe.1 = .ok () ∧
      channel.subscribe.2.holdings = channel.holdings.observe container := by
  unfold subscribe
  obtain ⟨error, refused⟩ | ⟨container, there, registered⟩ := channel.register_cases .bridge
  · rw [refused]
    exact .inl ⟨_, rfl⟩
  · rw [registered]
    exact .inr ⟨container, there, rfl, rfl⟩

variable [Kernel κ]

@[simp] theorem holdings_removeStale (channel : Channel κ) (path : String) :
    (channel.removeStale path).2.holdings = channel.holdings := by
  unfold removeStale
  split
  · rfl
  · split <;> rfl

@[simp] theorem holdings_bindAt (channel : Channel κ) (socket : Handle) (path : String) :
    (channel.bindAt socket path).2.holdings = channel.holdings := by
  unfold bindAt
  have kept := holdings_removeStale channel path
  split <;> rename_i removed <;> rw [removed] at kept
  · exact kept
  · split
    · exact kept
    · split <;> exact kept

@[simp] theorem holdings_listenAt (channel : Channel κ) (socket : Handle) :
    (channel.listenAt socket).2.holdings = channel.holdings := by
  unfold listenAt
  split <;> rfl

/-! ## The phases -/

theorem create_phased (channel : Channel κ) :
    channel.holdings.Phased .create channel.create.1 channel.create.2.holdings := by
  unfold create
  split
  · exact .refused rfl
  · split
    · rename_i turn
      split
      · exact .refused rfl
      · exact .created _ turn
    · exact .refused rfl

theorem bind_phased (channel : Channel κ) :
    channel.holdings.Phased .bind channel.bind.1 channel.bind.2.holdings := by
  unfold bind
  split
  · rename_i socket turn
    have kept := channel.holdings_bindAt socket channel.engine.config.socketPath
    dsimp only
    split <;> rename_i tried <;> rw [tried] at kept
    · dsimp only
      rw [holdings_closeRendezvous, kept]
      exact .failed (congrArg Rendezvous.isListening turn) rfl
    · dsimp only
      rw [holdings_setRendezvous, kept]
      exact .bound socket turn
  · exact .refused rfl

theorem listen_phased (channel : Channel κ) :
    channel.holdings.Phased .listen channel.listen.1 channel.listen.2.holdings := by
  unfold listen
  split
  · rename_i socket turn
    have kept := channel.holdings_listenAt socket
    split <;> rename_i tried <;> rw [tried] at kept
    · dsimp only
      rw [holdings_closeRendezvous, kept]
      exact .failed (congrArg Rendezvous.isListening turn) rfl
    · rename_i after
      -- The socket listens before the container is asked for anything.
      have moved : (after.setRendezvous (.listening socket)).holdings =
          channel.holdings.move (.listening socket) := by
        rw [holdings_setRendezvous, kept]
      obtain ⟨text, refused⟩ | ⟨container, there, done, held⟩ :=
        (after.setRendezvous (.listening socket)).subscribe_cases
      · rw [refused]
        dsimp only
        rw [moved]
        exact .unobserved socket turn text
      · rw [done, held, moved]
        exact .listening socket turn container ((congrArg Holdings.container kept).symm.trans there)
  · exact .refused rfl

/-- A phase that is called ends in one of these ways. -/
theorem call_phased (channel : Channel κ) {call : EngineCall} (phase : call.isPhase = true) :
    ∃ result, (channel.call call).1 = .ofUnit result ∧
      channel.holdings.Phased call result (channel.call call).2.holdings := by
  cases call with
  | create => exact ⟨channel.create.1, rfl, channel.create_phased⟩
  | bind => exact ⟨channel.bind.1, rfl, channel.bind_phased⟩
  | listen => exact ⟨channel.listen.1, rfl, channel.listen_phased⟩
  | _ => cases phase

/-! ## All phases -/

/-- Bringing up fails with the rendezvous somewhere on its way, or it ends with the engine observing
the container. -/
theorem bringUp_cases (channel : Channel κ) :
    (∃ error, channel.bringUp.1 = .error error ∧
      channel.holdings.Moved channel.bringUp.2.holdings) ∨
    channel.bringUp.1 = .ok () ∧ ∃ between container, channel.holdings.Moved between ∧
      channel.container = some container ∧
        channel.bringUp.2.holdings = between.observe container := by
  unfold bringUp
  -- The first two phases do not observe the container, so that a failure of the last one leaves it.
  have creates := channel.create_phased
  split <;> rename_i created result <;> rw [result] at creates
  · exact .inl ⟨_, rfl, creates.moved_of_error (.refl _)⟩
  · obtain ⟨-, moved⟩ | ⟨last, -⟩ := creates.cases_of_ok (.refl _)
    · have binds := created.bind_phased
      split <;> rename_i bound result <;> rw [result] at binds
      · exact .inl ⟨_, rfl, binds.moved_of_error moved⟩
      · obtain ⟨-, moved⟩ | ⟨last, -⟩ := binds.cases_of_ok moved
        · have listens := bound.listen_phased
          generalize bound.listen = ended at listens
          obtain ⟨error | _, ended⟩ := ended
          · exact .inl ⟨error, rfl, listens.moved_of_error moved⟩
          · obtain ⟨other, -⟩ | ⟨-, observed⟩ := listens.cases_of_ok moved
            · exact absurd rfl other
            · exact .inr ⟨rfl, observed⟩
        · cases last
    · cases last

end Channel

/-- Whatever the kernel and the container answer: a phase that fails leaves everything as it was, or
gives the socket back and leaves all else as it was. Only when the container takes no observer does
the socket stay, and it listens. So a failed phase acquires nothing if and only if it is not this
failure. -/
theorem failed_phase_acquires_nothing_iff {κ : Type} [Kernel κ] (channel : Channel κ)
    {call : EngineCall} (phase : call.isPhase = true) {error : Error}
    (failed : (channel.call call).1 = .failed error) :
    let before := channel.holdings
    let after := (channel.call call).2.holdings
    (error.isRegistration = false → after = before ∨ after = before.giveBack) ∧
    (error.isRegistration = true → call = .listen ∧
      ∃ socket, before.engine.rendezvous = .bound socket ∧
        after = before.move (.listening socket)) ∧
    (before.AcquiresNothing after ↔ error.isRegistration = false) := by
  obtain ⟨result, answered, phased⟩ := channel.call_phased phase
  have failure : result = .error error := by
    cases result with
    | ok _ => rw [failed] at answered; cases answered
    | error other => rw [failed] at answered; cases answered; rfl
  subst failure
  intro before after
  change before.Phased _ _ after at phased
  generalize after = left at phased ⊢
  cases phased with
  | refused other =>
    refine ⟨fun _ => .inl rfl, fun registration => ?_, iff_of_true ?_ other⟩
    · exact absurd (other.symm.trans registration) (by decide)
    · exact ⟨.inl ⟨rfl, rfl⟩, rfl, rfl⟩
  | failed _ other =>
    refine ⟨fun _ => .inr rfl, fun registration => ?_, iff_of_true ?_ other⟩
    · exact absurd (other.symm.trans registration) (by decide)
    · exact ⟨.inr rfl, rfl, rfl⟩
  | unobserved socket turn text =>
    refine ⟨fun other => ?_, fun _ => ⟨rfl, socket, turn, rfl⟩, iff_of_false ?_ nofun⟩
    · cases other
    · rintro ⟨⟨same, -⟩ | closed, -⟩
      · have listens : Rendezvous.listening socket = before.engine.rendezvous := same
        rw [turn] at listens
        cases listens
      · cases closed

/-- A backlog that the system refuses: the socket that was bound is given back. -/
theorem failed_listen_gives_back :
    let before := (Channel.fresh (⟨[]⟩ : Script) { backlog := 5000 }
      (some .recording)).setRendezvous (.bound 3)
    EngineCall.listen.isPhase = true ∧
      (before.call .listen).1 = .failed (.listen (.os .invalidArgument)) ∧
      before.holdings.AcquiresNothing (before.call .listen).2.holdings := by
  intro before
  have failed : (before.call .listen).1 = .failed (.listen (.os .invalidArgument)) := by
    decide +kernel
  exact ⟨rfl, failed, (failed_phase_acquires_nothing_iff before rfl failed).2.2.2 rfl⟩

/-- A container that takes no observer: the phase fails, and agents can connect from now on. -/
theorem listening_after_refused_registration :
    let refusing : Container :=
      { Container.recording with role := .recording { refusesObservers := true } }
    let before := (Channel.fresh (⟨[]⟩ : Script) {} (some refusing)).run
      [.call .create, .call .bind]
    (before.call .listen).1 =
        .failed (.observerRegistration "container error: observer registration refused") ∧
      (before.call .listen).2.engine.isListening = true ∧
      ¬ before.holdings.AcquiresNothing (before.call .listen).2.holdings := by
  intro refusing before
  have phase : before.engine.rendezvous = .bound 0 := by decide +kernel
  have after : (before.call .listen).2.engine.rendezvous = .listening 0 := by decide +kernel
  refine ⟨by decide +kernel, by decide +kernel, ?_⟩
  rintro ⟨⟨same, -⟩ | closed, -⟩
  · have listens : (before.call .listen).2.engine.rendezvous = before.engine.rendezvous := same
    rw [after, phase] at listens
    cases listens
  · have closes : (before.call .listen).2.engine.rendezvous = .closed := closed
    rw [after] at closes
    cases closes

end ServiceChannel
