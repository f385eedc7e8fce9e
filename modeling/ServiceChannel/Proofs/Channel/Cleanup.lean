import ServiceChannel.Proofs.Channel.Changes
import ServiceChannel.Proofs.Channel.Tracing
import ServiceChannel.Proofs.Channel.Traffic

/-!
# Letting go of everything

An engine that lets go of everything is left alone by agents, from then on and in the middle of a
read as well, until it is brought up again. Bringing up again takes all three phases, unless the
last one fails because the container takes no observer: then the socket listens all the same.

- `Done`, `BroughtUp`: calls that were answered with success, one after the other.
- `Act.isUnobserved`: the last phase fails for want of an observer.
- `Ties.Shut`: what holds since an engine let go of everything, and `Channel.shut_since`.
- `Channel.CutOff`: nothing comes from an agent, and nothing goes to one.
- `cleanup_is_final`: what letting go does, and how long it lasts.
-/

namespace ServiceChannel

/-! ## Calls -/

/-- The call lets go of everything. -/
def EngineCall.isCleanup : EngineCall → Bool
  | .cleanup | .release => true
  | _ => false

namespace Act

variable {κ : Type} [Kernel κ]

omit [Kernel κ] in
/-- The act lets go of everything. -/
def isCleanup (act : Act κ) : Bool :=
  match act.deed with
  | .called call => call.isCleanup
  | _ => false

/-- The call that was done, if it is one and was answered so. -/
def done? (act : Act κ) : Option EngineCall :=
  match act.deed with
  | .called call => if (act.channel.call call).1 = .done then some call else none
  | _ => none

theorem done?_of_answer {act : Act κ} {call : EngineCall} (called : act.deed = .called call)
    (answered : (act.channel.call call).1 = .done) : act.done? = some call := by
  unfold done?
  rw [called]
  exact if_pos answered

/-- The last phase fails because the container takes no observer. -/
def isUnobserved (act : Act κ) : Bool :=
  match act.deed with
  | .called .listen =>
    match (act.channel.call .listen).1 with
    | .failed error => error.isRegistration
    | _ => false
  | _ => false

theorem isUnobserved_of_answer {act : Act κ} {error : Error} (called : act.deed = .called .listen)
    (answered : (act.channel.call .listen).1 = .failed error)
    (registration : error.isRegistration = true) : act.isUnobserved = true := by
  unfold isUnobserved
  rw [called, answered]
  exact registration

end Act

section Done

variable {κ : Type} [Kernel κ]

/-- Among the acts these calls were done, in this order. -/
def Done (calls : List EngineCall) (acts : List (Act κ)) : Prop :=
  calls.Sublist (acts.filterMap Act.done?)

/-- All three phases were gone through, one after the other. -/
def BroughtUp (acts : List (Act κ)) : Prop := Done [.create, .bind, .listen] acts

variable {calls : List EngineCall} {acts : List (Act κ)}

instance : Decidable (Done calls acts) := inferInstanceAs (Decidable (calls.Sublist _))

instance : Decidable (BroughtUp acts) := inferInstanceAs (Decidable (Done _ acts))

theorem Done.nil (acts : List (Act κ)) : Done [] acts := List.nil_sublist _

theorem Done.more (done : Done calls acts) (act : Act κ) : Done calls (acts ++ [act]) := by
  rw [Done, List.filterMap_append]
  exact done.trans (List.sublist_append_left _ _)

theorem Done.snoc (done : Done calls acts) {act : Act κ} {call : EngineCall}
    (last : act.done? = some call) : Done (calls ++ [call]) (acts ++ [act]) := by
  have one : [act].filterMap Act.done? = [call] := by simp [last]
  rw [Done, List.filterMap_append, one]
  exact done.append (List.Sublist.refl _)

end Done

/-- The phases that lead up to this one. -/
def Rendezvous.phases : Rendezvous → List EngineCall
  | .closed => []
  | .created _ => [.create]
  | .bound _ => [.create, .bind]
  | .listening _ => [.create, .bind, .listen]

/-! ## What holds from then on -/

namespace Ties

/-- The channel has no agent, can get none, and observes nothing; no connection was accepted since
so many were. -/
structure Detached (accepted : Nat) (ties : Ties) : Prop where
  silent : ties.rendezvous.isListening = false
  empty : ties.connection = none
  blind : ties.subscription = none
  accepted : ties.accepted = accepted

variable {κ : Type} [Kernel κ]

/-- What holds of the ties, given the acts since they were cut. -/
structure Shut (accepted : Nat) (since : List (Act κ)) (ties : Ties) : Prop where
  phases : Done ties.rendezvous.phases since
  detached : BroughtUp since ∨
    ties.connection = none ∧ ties.subscription = none ∧ ties.accepted = accepted

namespace Shut

variable {accepted : Nat} {since : List (Act κ)} {ties : Ties}

theorem cut (ties : Ties) : ties.cut.Shut ties.accepted ([] : List (Act κ)) :=
  ⟨.nil [], .inr ⟨rfl, rfl, rfl⟩⟩

/-- It speaks of the engine only. -/
theorem of_sameEngine {other : Ties} (shut : ties.Shut accepted since)
    (same : ties.SameEngine other) : other.Shut accepted since := by
  constructor
  · rw [same.rendezvous]
    exact shut.phases
  · rw [same.connection, same.subscription, same.accepted]
    exact shut.detached

theorem more (shut : ties.Shut accepted since) (act : Act κ) :
    ties.Shut accepted (since ++ [act]) :=
  ⟨shut.phases.more act, shut.detached.imp_left (Done.more · act)⟩

theorem vacate (shut : ties.Shut accepted since) : ties.vacate.Shut accepted since :=
  ⟨shut.phases, shut.detached.imp_right fun ⟨_, blind, same⟩ => ⟨rfl, blind, same⟩⟩

theorem close (shut : ties.Shut accepted since) :
    { ties with rendezvous := .closed }.Shut accepted since :=
  ⟨.nil since, shut.detached⟩

/-- A rendezvous that listens was brought up. -/
theorem broughtUp (shut : ties.Shut accepted since) (listens : ties.rendezvous.isListening = true) :
    BroughtUp since := by
  have phases := shut.phases
  cases phase : ties.rendezvous with
  | listening socket => rwa [phase] at phases
  | _ => rw [phase] at listens; cases listens

/-- What was not brought up since is detached still. -/
theorem detached_of_not (shut : ties.Shut accepted since) (down : ¬ BroughtUp since) :
    ties.Detached accepted := by
  obtain ⟨empty, blind, same⟩ := shut.detached.resolve_left down
  exact ⟨Bool.eq_false_iff.2 fun listens => down (shut.broughtUp listens), empty, blind, same⟩

end Shut
end Ties

namespace Channel

variable {κ : Type} [Kernel κ]

/-- A connection arrives where a socket listens only. -/
def ListensFor (channel : Channel κ) (input : Input κ) : Prop :=
  input.isAccept = true → channel.engine.isListening = true

/-- Nothing between acts undoes it: no connection arrives before the rendezvous listens. -/
theorem shut_outside {accepted : Nat} {since : List (Act κ)} {channel : Channel κ}
    {input : Input κ} (outside : input.isOutside = true) (allowed : channel.ListensFor input)
    (shut : channel.ties.Shut accepted since) : (channel.step input).ties.Shut accepted since := by
  cases input with
  | accept socket =>
    have up : BroughtUp since := shut.broughtUp (allowed rfl)
    rw [step, ties_accept]
    exact ⟨shut.phases, .inl up⟩
  | acceptFailed error =>
    rw [step, ties_acceptFailed]
    exact shut.close
  | container container => exact ⟨shut.phases, shut.detached⟩
  | _ => cases outside

end Channel

/-- An act that lets go of everything cuts the ties. -/
theorem Act.ties_of_isCleanup {κ : Type} [Kernel κ] {act : Act κ} (cleans : act.isCleanup = true) :
    act.after.ties = act.channel.ties.cut := by
  obtain ⟨channel, deed⟩ := act
  cases deed with
  | called call =>
    cases call with
    | cleanup => exact channel.ties_cleanup
    | release => exact channel.ties_release
    | _ => cases cleans
  | _ => cases cleans

/-- An act undoes it only as the last of the three phases, or as one that fails for want of an
observer. -/
theorem Act.shut {κ : Type} [Kernel κ] {accepted : Nat} {since : List (Act κ)} {act : Act κ}
    (possible : act.Possible) (observed : act.isUnobserved = false)
    (shut : act.channel.ties.Shut accepted since) :
    act.after.ties.Shut accepted (since ++ [act]) := by
  have changes := act.changes possible
  generalize act.after.ties = after at changes
  cases changes with
  | keeps _ _ => exact shut.more act
  | exchanges _ _ => exact ⟨(shut.more act).phases, (shut.more act).detached⟩
  | cuts _ _ =>
    exact ⟨.nil _, (shut.more act).detached.imp_right fun ⟨_, _, same⟩ => ⟨rfl, rfl, same⟩⟩
  | phase called answered phased _ =>
    have phases := shut.phases
    cases phased with
    | refused _ => exact shut.more act
    | failed _ _ => exact (shut.more act).close
    | created socket turn =>
      rw [show act.channel.ties.rendezvous = .closed from turn] at phases
      exact ⟨phases.snoc (done?_of_answer called answered), (shut.more act).detached⟩
    | bound socket turn =>
      rw [show act.channel.ties.rendezvous = .created socket from turn] at phases
      exact ⟨phases.snoc (done?_of_answer called answered), (shut.more act).detached⟩
    | unobserved socket _ text =>
      have fails : act.isUnobserved = true := isUnobserved_of_answer called answered rfl
      exact absurd (fails.symm.trans observed) (by decide)
    | listening socket turn container _ =>
      rw [show act.channel.ties.rendezvous = .bound socket from turn] at phases
      have up : BroughtUp (since ++ [act]) := phases.snoc (done?_of_answer called answered)
      exact ⟨up, .inl up⟩

namespace Channel

variable {κ : Type} [Kernel κ]

/-- Since an engine let go of everything it is shut, unless the last phase failed for want of an
observer. -/
def ShutSince (accepted : Nat) (since : List (Act κ)) (channel : Channel κ) : Prop :=
  (∀ later ∈ since, later.isUnobserved = false) → channel.ties.Shut accepted since

/-- Neither an act nor anything between acts undoes it. -/
theorem shutSince_kept (accepted : Nat) : Kept (@ListensFor κ) (ShutSince accepted) where
  quiet since before after quiet shut observed := by
    rcases quiet with same | vacated
    · rw [same]
      exact shut observed
    · rw [vacated]
      exact (shut observed).vacate
  watch since channel name reaction shut observed :=
    (shut observed).of_sameEngine (channel.sameEngine_watch name reaction)
  unwatch since channel name shut observed :=
    (shut observed).of_sameEngine (channel.sameEngine_unwatch name)
  outside since channel input outside allowed shut observed :=
    shut_outside outside allowed (shut observed)
  act since act possible shut observed := by
    simp only [List.mem_append, List.mem_singleton] at observed
    have before := shut fun later mem => observed later (.inl mem)
    exact act.shut possible (observed act (.inr rfl)) before

/-- So it is in every run, from an act that lets go of everything on. -/
theorem shut_since {start : Channel κ} {inputs : List (Input κ)}
    (admits : start.Admits ListensFor inputs) {before since : List (Act κ)} {act : Act κ}
    (split : start.acts inputs = before ++ act :: since) (cleans : act.isCleanup = true) :
    ShutSince act.channel.engine.accepted since (start.run inputs) ∧
      ∀ middle later rest, since = middle ++ later :: rest →
        ShutSince act.channel.engine.accepted middle later.channel := by
  have walk := run_walk admits
  rw [split] at walk
  refine walk.since (shutSince_kept _) fun _ => ?_
  rw [act.ties_of_isCleanup cleans]
  exact .cut act.channel.ties

/-! ## In the middle of a read -/

/-- No act opens a connection, and nothing between the acts of a payload does. -/
theorem empty_kept :
    Kept (fun _ _ => False) fun _ (channel : Channel κ) => channel.engine.connection = none where
  quiet _ before after quiet empty := by
    rcases quiet with same | vacated
    · exact (congrArg Ties.connection same).trans empty
    · exact congrArg Ties.connection vacated
  watch _ channel name reaction empty :=
    (channel.sameEngine_watch name reaction).connection.trans empty
  unwatch _ channel name empty := (channel.sameEngine_unwatch name).connection.trans empty
  outside _ _ _ _ nothing := nothing.elim
  act _ act possible empty := by
    rcases (act.changes possible).connection.1 with same | gone
    · exact same.trans empty
    · exact gone

end Channel

/-- The payload has the engine let go of everything. -/
def Handover.Cleans {κ : Type} [Kernel κ] (handover : Handover κ) : Prop :=
  ∃ act ∈ handover.channel.actsOfPayload handover.payload, act.isCleanup = true

/-- Such a payload leaves no connection. -/
theorem Handover.Cleans.empty {κ : Type} [Kernel κ] {handover : Handover κ}
    (cleans : handover.Cleans) :
    (handover.channel.handlePayload handover.payload).2.engine.connection = none := by
  have walk : Walk (fun _ _ => False) handover.channel
      (handover.channel.actsOfPayload handover.payload)
      (handover.channel.handlePayload handover.payload).2 :=
    handover.channel.handlePayload_walk handover.payload
  obtain ⟨act, mem, lets⟩ := cleans
  obtain ⟨before, since, split⟩ := List.append_of_mem mem
  rw [split] at walk
  refine (walk.since Channel.empty_kept ?_).1
  exact congrArg Ties.connection (act.ties_of_isCleanup lets)

namespace Channel

variable {κ : Type} [Kernel κ]

/-- If the last payload so far had the engine let go of everything, the slot is empty. -/
def EmptyAfter (channel : Channel κ) (past : List (Handover κ)) : Prop :=
  ∀ last ∈ past.getLast?, last.Cleans → channel.engine.connection = none

theorem EmptyAfter.close {past : List (Handover κ)} {channel : Channel κ}
    (empty : channel.EmptyAfter past) (id : Nat) (reason : Teardown) :
    (channel.close id reason).EmptyAfter past := by
  intro last isLast cleans
  have slot := empty last isLast cleans
  unfold Channel.close
  rw [slot]
  exact slot

theorem EmptyAfter.hand (past : List (Handover κ)) (handover : Handover κ) :
    (handover.channel.handlePayload handover.payload).2.EmptyAfter (past ++ [handover]) := by
  intro last isLast cleans
  rw [List.getLast?_concat, Option.mem_some_iff] at isLast
  subst isLast
  exact cleans.empty

/-- It is the last one of its read. -/
theorem last_of_cleans {channel : Channel κ} (sound : channel.occupancy.Sound) {id : Nat}
    {outcome : ReadOutcome} {before later : List (Handover κ)} {handover : Handover κ}
    (split : (channel.traceReceive id outcome).1 = before ++ handover :: later)
    (cleans : handover.Cleans) : later = [] := by
  have start : channel.EmptyAfter [] := by
    intro last isLast
    cases isLast
  have along : Along (fun past channel => channel.EmptyAfter past) [] _ _ :=
    traceReceive_along (fun past channel id payload _ => .hand past ⟨channel, id, payload⟩)
      (fun _ _ id reason empty => empty.close id reason) (fun _ _ _ _ empty => empty)
      (fun _ _ _ empty => empty) start id outcome
  rcases later with _ | ⟨next, later⟩
  · rfl
  · -- The next payload is handed over while its connection is the open one.
    have slot : next.channel.engine.connection = none :=
      along.each (before ++ [handover]) next later (by simp [split]) handover (by simp) cleans
    have handed : next ∈ (channel.traceReceive id outcome).1 := by simp [split]
    obtain ⟨-, current⟩ := traceReceive_current sound outcome next handed
    simp [Engine.isCurrent, slot] at current

/-! ## What letting go leaves -/

omit [Kernel κ] in
/-- Nothing is done where there is nothing to let go of. -/
theorem cleanup_of_cut {channel : Channel κ} (empty : channel.engine.connection = none)
    (closed : channel.engine.rendezvous = .closed) (blind : channel.engine.subscription = none) :
    channel.cleanup = channel := by
  rw [cleanup_of_idle empty blind, closeRendezvous, closed]
  dsimp only [Rendezvous.socket?, onEngine]
  rw [← closed]

omit [Kernel κ] in
/-- The observer that the engine registered is taken off, if the container is there still. -/
theorem container_cleanup (channel : Channel κ) :
    channel.cleanup.container =
      match channel.engine.subscription with
      | some id => channel.container.map (·.unregister id)
      | none => channel.container := by
  let between := channel.releaseConnection.closeRendezvous
  have held : between.holdings = channel.releaseConnection.holdings.giveBack :=
    channel.releaseConnection.holdings_closeRendezvous
  have container : between.container = channel.container := by
    refine (congrArg Holdings.container held).trans ?_
    unfold releaseConnection
    split <;> rfl
  have subscription : between.engine.subscription = channel.engine.subscription := by
    refine (congrArg (·.engine.subscription) held).trans ?_
    unfold releaseConnection
    split <;> rfl
  change between.unsubscribe.container = _
  unfold unsubscribe
  rw [subscription]
  cases channel.engine.subscription with
  | none => exact container
  | some id => exact congrArg (Option.map (·.unregister id)) container

/-- No agent gets through to the channel, and nothing gets through to an agent. -/
structure CutOff (channel : Channel κ) : Prop where
  arrivals : ∀ socket, channel.attend (.arrival socket) = channel
  reads : ∀ id outcome, channel.traceReceive id outcome = ([], channel)
  commands : ∀ command, (channel.sendCommand command).1 =
    if command = .shutdown then .error .notConnected else .ok .deferred

/-- A command without an agent is dropped, but a shutdown fails. -/
theorem sendCommand_of_empty {channel : Channel κ} (empty : channel.engine.connection = none)
    (command : Command) : (channel.sendCommand command).1 =
      if command = .shutdown then .error .notConnected else .ok .deferred := by
  unfold sendCommand
  have slot : (channel.record (.sendingCommand command)).engine.connection = none := empty
  dsimp only
  rw [slot]
  dsimp only
  split <;> rfl

/-- What is detached is cut off. -/
theorem cutOff_of_detached {channel : Channel κ} (sound : channel.occupancy.Sound) {accepted : Nat}
    (detached : channel.ties.Detached accepted) : channel.CutOff where
  arrivals socket := by
    unfold attend
    exact if_neg (Bool.eq_false_iff.1 detached.silent)
  reads id outcome := by
    have nobody : channel.engine.readers = [] := sound.tidy.readers_of_none detached.empty
    refine traceReceive_of_none ?_ outcome
    rw [Engine.reader?, nobody]
    rfl
  commands := sendCommand_of_empty detached.empty

/-- A last phase that fails for want of an observer leaves agents a socket to come to. -/
theorem attended_of_unobserved {channel : Channel κ} {error : Error}
    (failed : channel.listen.1 = .error error) (registration : error.isRegistration = true)
    (socket : Handle) :
    (channel.listen.2.attend (.arrival socket)).engine.connection =
      some ⟨channel.engine.accepted + 1, socket⟩ := by
  have phased := channel.listen_phased
  rw [failed] at phased
  generalize after : channel.listen.2.holdings = held at phased
  cases phased with
  | refused other => exact absurd (registration.symm.trans other) (by decide)
  | failed _ other => exact absurd (registration.symm.trans other) (by decide)
  | unobserved own _ _ =>
    have listens : channel.listen.2.engine.isListening = true :=
      congrArg (·.engine.isListening) after
    have accepted : channel.listen.2.engine.accepted = channel.engine.accepted :=
      congrArg (·.engine.accepted) after
    have arrived := congrArg Ties.connection (channel.listen.2.ties_accept socket)
    rw [accepted] at arrived
    rw [attend, if_pos listens]
    exact arrived

end Channel

/-- Letting go of everything is total, idempotent and final.
Whatever the channel: the connection, the rendezvous and the subscription are gone, the observer
that was registered is taken off the container that is there, and letting go again does nothing.
In every run, wherever in it an act lets go of everything, and unless since then the last phase
failed for want of an observer: until all three phases were gone through the engine has no
connection, accepts none, listens to none and observes nothing; no agent gets through to it, and
nothing to an agent.
A payload that lets go of everything is the last one of its read.
A last phase that fails for want of an observer does accept an agent that comes. -/
theorem cleanup_is_final {κ : Type} [Kernel κ] :
    (∀ channel : Channel κ,
      let after := channel.cleanup
      after.engine.connection = none ∧ after.engine.rendezvous = .closed ∧
        after.engine.subscription = none ∧
        (after.container = match channel.engine.subscription with
          | some id => channel.container.map (·.unregister id)
          | none => channel.container) ∧
        after.cleanup = after) ∧
    (∀ (kernel : κ) config container inputs,
      let start := Channel.fresh kernel config container
      let channel := start.run inputs
      (start.Admits Channel.ListensFor inputs → ∀ before act since,
        start.acts inputs = before ++ act :: since → act.isCleanup = true →
        (∀ later ∈ since, later.isUnobserved = false) →
          (¬ BroughtUp since →
            channel.ties.Detached act.channel.engine.accepted ∧ channel.CutOff) ∧
          ∀ middle later rest, since = middle ++ later :: rest → ¬ BroughtUp middle →
            later.channel.ties.Detached act.channel.engine.accepted) ∧
      ∀ id outcome before handover later,
        (channel.traceReceive id outcome).1 = before ++ handover :: later →
        handover.Cleans → later = []) ∧
    ∀ (channel : Channel κ) error, channel.listen.1 = .error error →
      error.isRegistration = true → ∀ socket,
        (channel.listen.2.attend (.arrival socket)).engine.connection =
          some ⟨channel.engine.accepted + 1, socket⟩ := by
  refine ⟨fun channel => ?_, fun kernel config container inputs => ?_, ?_⟩
  · have ties := channel.ties_cleanup
    have empty : channel.cleanup.engine.connection = none := congrArg Ties.connection ties
    have closed : channel.cleanup.engine.rendezvous = .closed := congrArg Ties.rendezvous ties
    have blind : channel.cleanup.engine.subscription = none := congrArg Ties.subscription ties
    exact ⟨empty, closed, blind, channel.container_cleanup,
      Channel.cleanup_of_cut empty closed blind⟩
  · intro start channel
    have sound : channel.occupancy.Sound :=
      Channel.run_sound (History.Ledger.fresh kernel config container).sound inputs
    refine ⟨?_, fun id outcome before handover later => Channel.last_of_cleans sound⟩
    · intro admits before act since split cleans observed
      obtain ⟨atEnd, atActs⟩ := Channel.shut_since admits split cleans
      refine ⟨fun down => ?_, fun middle later rest parts down => ?_⟩
      · have detached := (atEnd observed).detached_of_not down
        exact ⟨detached, Channel.cutOff_of_detached sound detached⟩
      · subst parts
        refine (atActs middle later rest rfl fun other mem => ?_).detached_of_not down
        exact observed other (List.mem_append_left _ mem)
  · exact fun channel error failed registration socket =>
      Channel.attended_of_unobserved failed registration socket

/-- Two phases after letting go of everything nothing gets through yet. -/
theorem cut_off_until_brought_up :
    let config : Config := { socketDir := "", socketName := "s" }
    let start := Channel.fresh (⟨[]⟩ : Script) config (some .recording)
    let up : List (Input Script) := [.call .create, .call .bind, .call .listen, .accept 7]
    let again : List (Input Script) := [.call .create, .call .bind]
    let channel := start.run (up ++ .call .cleanup :: again)
    start.Admits Channel.ListensFor (up ++ .call .cleanup :: again) ∧
      (start.run up).engine.isConnected = true ∧ channel.engine.rendezvous = .bound 0 ∧
      channel.CutOff := by
  intro config start up again channel
  have admits : start.Admits Channel.ListensFor (up ++ .call .cleanup :: again) := by
    refine ⟨nofun, nofun, nofun, fun _ _ => ?_, nofun, nofun, nofun, trivial⟩
    decide +kernel
  refine ⟨admits, by decide +kernel, by decide +kernel, ?_⟩
  obtain ⟨-, run, -⟩ := @cleanup_is_final Script _
  obtain ⟨lasting, -⟩ := run ⟨[]⟩ config (some .recording) (up ++ .call .cleanup :: again)
  have observed : ∀ later ∈ ((start.run up).step (.call .cleanup)).acts again,
      later.isUnobserved = false := by
    decide +kernel
  have down : ¬ BroughtUp (((start.run up).step (.call .cleanup)).acts again) := by
    decide +kernel
  exact ((lasting admits _ ⟨start.run up, .called .cleanup⟩ _ (start.acts_append up _) rfl
    observed).1 down).2

/-- After letting go of everything the container takes no observer: the last phase fails, but an
agent is accepted, and its report changes the container. -/
theorem accepted_without_being_brought_up :
    let config : Config := { socketDir := "", socketName := "s" }
    let refusing : Container :=
      { Container.recording with role := .recording { refusesObservers := true } }
    let up : List (Input Script) :=
      [.call .create, .call .bind, .call .listen, .accept 7, .call .cleanup]
    let again : List (Input Script) :=
      [.container (some refusing), .call .create, .call .bind, .call .listen, .accept 8]
    let cleaned := (Channel.fresh (⟨[]⟩ : Script) config (some .recording)).run up
    let report := Frame.frame AgentMessage.bootCompleted.encode
    cleaned.engine.connection = none ∧ ¬ BroughtUp (cleaned.acts again) ∧
      (cleaned.run again).engine.connection = some ⟨2, 8⟩ ∧
      (cleaned.run again).state = .stopped ∧
      (cleaned.run (again ++ [.read 2 (.data report)])).state = .running := by
  refine ⟨?_, ?_, ?_, ?_, ?_⟩ <;> decide +kernel

end ServiceChannel
