import Mathlib
import ServiceChannel.Proofs.Channel.Containment
import ServiceChannel.Proofs.Channel.Isolation
import ServiceChannel.Proofs.Channel.Launches
import ServiceChannel.Proofs.Channel.Tracing

/-!
# Programs that an agent asks for

An agent has its container run programs, and this is the one way in which it can. The container is
asked for what the agent's messages say and for nothing else, and one that does not allow programs
runs none, whoever asks.

- `AgentMessage.vector?`, `Handover.vector?`: the arguments that a message asks for.
- `History.Recorded`: what a recording container keeps of a run.
- `Channel.asked`, `Channel.askedAlong`: what a standalone container is asked for.
- `programs_as_asked`: what holds in every run and in every life.
-/

namespace ServiceChannel

/-- The arguments of the program that a message asks for: its path, then its parameters. -/
def AgentMessage.vector? : AgentMessage → Option (List String)
  | .exec path params => some (path :: params)
  | _ => none

/-- The arguments of the program that the container is asked for when a payload is handed over. -/
def Handover.vector? {κ : Type} (handover : Handover κ) : Option (List String) :=
  if handover.channel.container.isSome then
    (AgentMessage.decode handover.payload).toOption.bind AgentMessage.vector?
  else none

/-- A payload asks for a program exactly if its fields carry the message that does, and the
container is there. -/
theorem Handover.vector?_eq_some_iff {κ : Type} {handover : Handover κ} {arguments : List String} :
    handover.vector? = some arguments ↔ handover.channel.container.isSome = true ∧
      ∃ fields path params, AgentFields.SpelledBy fields handover.payload ∧
        (AgentMessage.exec path params).CarriedBy fields ∧ arguments = path :: params := by
  unfold Handover.vector?
  cases alive : handover.channel.container.isSome with
  | false => simp
  | true =>
    rw [if_pos rfl]
    constructor
    · intro asks
      cases read : AgentMessage.decode handover.payload with
      | error error =>
        rw [read] at asks
        cases asks
      | ok message =>
        rw [read] at asks
        obtain ⟨fields, spelled, carried⟩ := AgentMessage.decode_eq_ok_iff.1 read
        cases message with
        | exec path params =>
          cases asks
          exact ⟨rfl, fields, path, params, spelled, carried, rfl⟩
        | _ => cases asks
    · rintro ⟨-, fields, path, params, spelled, carried, rfl⟩
      rw [AgentMessage.decode_eq_ok_iff.2 ⟨fields, spelled, carried⟩]
      rfl

theorem filterMap_vector? {κ : Type} (handover : Handover κ) :
    [handover].filterMap Handover.vector? = handover.vector?.toList := by
  cases asks : handover.vector? <;> simp [asks]

namespace Container

/-- The programs that a container was asked for, if it records them. -/
def execs (container : Container) : List (List String) :=
  match container.role with
  | .recording recording => recording.execs
  | .standalone _ => []

@[simp] theorem execs_estate (container : Container) :
    container.estate.execs = container.execs := by
  obtain ⟨_, _, _, _, _, _, _, _ | _⟩ := container <;> rfl

@[simp] theorem execs_halted (container : Container) (delivered : Bool) :
    (container.halted delivered).execs = container.execs := by
  obtain ⟨_, _, _, _, _, _, _, _ | _⟩ := container <;> rfl

/-- A recording container keeps every program that a message asks for, behind those before. -/
theorem execs_obey {container : Container} (records : container.permission? = none)
    (delivered : Bool) (message : AgentMessage) :
    (container.obey delivered message).execs = container.execs ++ message.vector?.toList := by
  obtain ⟨_, _, _, _, _, _, _, recording | _⟩ := container
  · cases message with
    | shutdown =>
      unfold obey
      dsimp only
      split <;> simp [AgentMessage.vector?]
    | exec path params => rfl
    | _ => exact (List.append_nil _).symm
  · cases records

end Container

/-! ## Recording containers -/

/-- A container that comes from outside takes the place of one that is there, and keeps the programs
that were recorded. One that has gone does not come back. -/
def KeepsExecs {κ : Type} (channel : Channel κ) : Input κ → Prop
  | .container next => ∀ container, next = some container → container.permission? = none ∧
      ∃ before, channel.container = some before ∧ container.execs = before.execs
  | _ => True

namespace Channel

variable {κ : Type}

/-- The container, while it is there, records, and has kept these programs. -/
def Records (channel : Channel κ) (execs : List (List String)) : Prop :=
  ∀ container, channel.estate = some container →
    container.permission? = none ∧ container.execs = execs

namespace Records

variable {channel after : Channel κ} {execs : List (List String)}

theorem of_estate (records : channel.Records execs) (same : after.estate = channel.estate) :
    after.Records execs := by
  rw [Records, same]
  exact records

/-- A change of the estate that adds to what was recorded. -/
theorem of_map (records : channel.Records execs) {change : Container → Container}
    (same : after.estate = channel.estate.map change) {more : List (List String)}
    (adds : ∀ container, container.permission? = none →
      (change container).permission? = none ∧ (change container).execs = container.execs ++ more) :
    after.Records (execs ++ more) := by
  intro container there
  rw [same] at there
  obtain ⟨before, known, rfl⟩ := Option.map_eq_some_iff.1 there
  obtain ⟨kind, rfl⟩ := records before known
  exact adds before kind

theorem of_container {container : Container} (there : channel.container = some container)
    (kind : container.permission? = none) : channel.Records container.execs := by
  intro estate same
  rw [estate_eq, there] at same
  obtain rfl := Option.some.inj same
  exact ⟨container.permission?_estate.trans kind, container.execs_estate⟩

theorem execs_eq (records : channel.Records execs) {container : Container}
    (there : channel.container = some container) : container.execs = execs := by
  have kept := (records container.estate (by rw [estate_eq, there]; rfl)).2
  rwa [container.execs_estate] at kept

variable [Kernel κ]

theorem stopContainer (records : channel.Records execs) : channel.stopContainer.Records execs := by
  have kept : channel.stopContainer.Records (execs ++ []) :=
    records.of_map channel.estate_stopContainer fun container kind => by simpa using kind
  rwa [List.append_nil] at kept

/-- A payload that is handed over leaves what it asks for behind what was recorded. -/
theorem handlePayload (records : channel.Records execs) (id : Nat) (payload : Bytes) :
    (channel.handlePayload payload).2.Records
      (execs ++ [⟨channel, id, payload⟩].filterMap Handover.vector?) := by
  rw [filterMap_vector?]
  have nothing {after : Channel κ} (same : after.estate = channel.estate) :
      after.Records (execs ++ []) := by
    rw [List.append_nil]
    exact records.of_estate same
  unfold Channel.handlePayload Handover.vector?
  dsimp only
  cases AgentMessage.decode payload with
  | error error =>
    simp only [Except.toOption, Option.bind_none, ite_self]
    split <;> exact nothing rfl
  | ok message =>
    have handled := channel.estate_handle message
    cases alive : channel.container.isSome with
    | false =>
      have gone : channel.estate = none := by simpa [estate_eq] using alive
      rw [gone, Option.map_none, ← gone] at handled
      exact nothing handled
    | true =>
      exact records.of_map handled fun container kind =>
        ⟨(container.permission?_obey _ _).trans kind, container.execs_obey kind _ _⟩

end Records
end Channel

namespace History

variable {κ : Type}

/-- The arguments of the programs that were asked for, in order. -/
def vectors (history : History κ) : List (List String) :=
  history.handovers.filterMap Handover.vector?

/-- Those that were asked for on a connection. -/
def vectorsOn (history : History κ) (id : Nat) : List (List String) :=
  (history.handovers.filter (·.connection = id)).filterMap Handover.vector?

/-- What a recording container keeps of a run, in front of which it had kept other programs. -/
structure Recorded (execs : List (List String)) (history : History κ) : Prop where
  records : history.channel.Records (execs ++ history.vectors)
  /-- A container that is there was there all the time. -/
  present : history.channel.container.isSome = true →
    ∀ handover ∈ history.handovers, handover.channel.container.isSome = true

variable [Kernel κ] {execs : List (List String)} {history : History κ}

/-- An input that hands nothing over. -/
theorem Recorded.of_quiet (recorded : history.Recorded execs) {input : Input κ}
    (handovers : history.channel.handovers input = [])
    (records : (history.channel.step input).Records (execs ++ history.vectors))
    (present : (history.channel.step input).container.isSome = true →
      history.channel.container.isSome = true) :
    (history.step input).Recorded execs := by
  have same : (history.step input).handovers = history.handovers := by
    rw [History.step, handovers, List.append_nil]
  refine ⟨?_, ?_⟩
  · rw [vectors, same]
    exact records
  · rw [same]
    exact fun alive => recorded.present (present alive)

theorem Recorded.of_read (recorded : history.Recorded execs) (id : Nat) (outcome : ReadOutcome) :
    (history.step (.read id outcome)).Recorded execs := by
  let motive (past : List (Handover κ)) (channel : Channel κ) : Prop :=
    channel.Records (execs ++ history.vectors ++ past.filterMap Handover.vector?) ∧
      channel.estate.isSome = history.channel.estate.isSome
  have along : Along motive [] (history.channel.traceReceive id outcome).1
      (history.channel.traceReceive id outcome).2 := by
    refine Channel.traceReceive_along ?_ ?_ (fun _ _ _ _ holds => holds)
      (fun _ _ _ holds => holds) ⟨?_, rfl⟩ id outcome
    · rintro past channel id payload ⟨records, present⟩
      refine ⟨?_, ?_⟩
      · rw [List.filterMap_append, ← List.append_assoc]
        exact records.handlePayload id payload
      · exact (channel.isSome_handlePayload payload).trans present
    · rintro past channel id reason ⟨records, present⟩
      have closed := channel.estate_close id reason
      exact ⟨records.of_estate closed, (congrArg Option.isSome closed).trans present⟩
    · simpa using recorded.records
  rw [Channel.traceReceive_snd] at along
  refine ⟨?_, fun alive handover mem => ?_⟩
  · have records := along.last.1
    rw [List.append_assoc, vectors, ← List.filterMap_append] at records
    exact records
  · have before : history.channel.container.isSome = true := by
      have last := along.last.2
      rw [Channel.isSome_estate, Channel.isSome_estate] at last
      rw [← last]
      exact alive
    rcases List.mem_append.1 mem with old | new
    · exact recorded.present before handover old
    · obtain ⟨front, back, split⟩ := List.append_of_mem new
      have here := (along.each front handover back split).2
      rw [Channel.isSome_estate, Channel.isSome_estate] at here
      rw [here, before]

theorem Recorded.step (recorded : history.Recorded execs) {input : Input κ}
    (allows : input.isOutside = true → KeepsExecs history.channel input) :
    (history.step input).Recorded execs := by
  have quiet (handovers : history.channel.handovers input = [])
      (same : (history.channel.step input).estate = history.channel.estate) :
      (history.step input).Recorded execs := by
    refine recorded.of_quiet handovers (recorded.records.of_estate same) fun alive => ?_
    rwa [← Channel.isSome_estate, same, Channel.isSome_estate] at alive
  cases input with
  | accept socket => exact quiet rfl (history.channel.estate_accept socket)
  | acceptFailed error => exact quiet rfl (history.channel.estate_acceptFailed error)
  | read id outcome => exact recorded.of_read id outcome
  | call call => exact quiet rfl (history.channel.estate_call call)
  | stop =>
    refine recorded.of_quiet rfl recorded.records.stopContainer fun alive => ?_
    have stopped := congrArg Option.isSome history.channel.estate_stopContainer
    rw [Option.isSome_map, Channel.isSome_estate, Channel.isSome_estate] at stopped
    rwa [← stopped]
  | container next =>
    have allowed := allows rfl
    refine recorded.of_quiet rfl (fun estate there => ?_) fun alive => ?_
    · obtain ⟨container, rfl, rfl⟩ := Option.map_eq_some_iff.1 there
      obtain ⟨kind, before, found, same⟩ := allowed container rfl
      refine ⟨container.permission?_estate.trans kind, ?_⟩
      rw [Container.execs_estate, same]
      exact recorded.records.execs_eq found
    · obtain ⟨container, rfl⟩ := Option.isSome_iff_exists.1 alive
      obtain ⟨-, before, found, -⟩ := allowed container rfl
      rw [found]
      rfl
  | watch name reaction => exact quiet rfl (history.channel.estate_watch name reaction)
  | unwatch name => exact quiet rfl (history.channel.estate_unwatch name)
  | sweep => exact quiet rfl rfl
  | elapse kernel => exact quiet rfl rfl

theorem Recorded.run (recorded : history.Recorded execs) {inputs : List (Input κ)}
    (admits : history.channel.Admits KeepsExecs inputs) : (history.run inputs).Recorded execs := by
  induction inputs generalizing history with
  | nil => exact recorded
  | cons input inputs ih => exact ih (recorded.step admits.1) admits.2

omit [Kernel κ] in
/-- What a connection asked for, while the container was there all the time, is what its messages
ask for. -/
theorem vectorsOn_eq
    (present : ∀ handover ∈ history.handovers, handover.channel.container.isSome = true)
    (id : Nat) : history.vectorsOn id = (history.messages id).filterMap AgentMessage.vector? := by
  unfold vectorsOn messages payloads
  rw [List.filterMap_map, List.filterMap_filterMap]
  refine List.filterMap_congr fun handover mem => ?_
  rw [Handover.vector?, if_pos (present handover (List.mem_of_mem_filter mem))]
  rfl

end History

/-! ## Standalone containers -/

namespace Channel

section Asked

variable {κ : Type} [Kernel κ]

/-- The programs that the container is asked for when this is done, or comes. -/
def asked (channel : Channel κ) : Affair κ → List (List String)
  | .chore (.traffic (.read id outcome)) =>
    (channel.traceReceive id outcome).1.filterMap Handover.vector?
  | .exec arguments => [arguments]
  | _ => []

end Asked

variable {κ : Type} [Kernel κ]

/-- Does what is to be done with a kernel that notes programs; the notes stay when the kernel inside
goes on. -/
def conductNoting (channel : Channel (Launching κ)) (affair : Affair κ) : Channel (Launching κ) :=
  channel.conduct (affair.map channel.kernel.resume)

/-- Does it all, one after the other. -/
def conductAllNoting (channel : Channel (Launching κ)) (affairs : List (Affair κ)) :
    Channel (Launching κ) :=
  affairs.foldl conductNoting channel

/-- The programs that the container is asked for in all that is done and comes. -/
def askedAlong (channel : Channel (Launching κ)) : List (Affair κ) → List (List String)
  | [] => []
  | affair :: affairs =>
    channel.asked (affair.map channel.kernel.resume) ++
      (channel.conductNoting affair).askedAlong affairs

namespace StandsAlone

variable {channel : Channel (Launching κ)} {allowExec : Bool}

theorem launched_handleFor (alone : channel.StandsAlone allowExec) (container : Container)
    (message : AgentMessage) : (channel.handleFor container message).launched =
      channel.launched ++ launchesOf allowExec message.vector?.toList := by
  have nothing : channel.launched = channel.launched ++ launchesOf allowExec [] := by
    rw [launchesOf_nil, List.append_nil]
  cases message with
  | exec path params =>
    have recorded : (channel.record (.executing (path :: params))).StandsAlone allowExec := alone
    have ran := recorded.launched_exec (path :: params)
    dsimp only [handleFor]
    split <;> rename_i result <;> rw [result] at ran <;> exact ran
  | shutdown =>
    refine Eq.trans ?_ nothing
    dsimp only [handleFor, handleShutdown]
    split
    · rfl
    · rfl
    · have requested : (channel.record .shutdownRequested).StandsAlone allowExec := alone
      exact requested.launched_stopContainer
  | nameRequest =>
    refine Eq.trans ?_ nothing
    have sent := channel.launched_sendName
    dsimp only [handleFor]
    split <;> rename_i result <;> rw [result] at sent <;> exact sent
  | dnsRequest =>
    refine Eq.trans ?_ nothing
    have sent := channel.launched_sendDns
    dsimp only [handleFor]
    split <;> rename_i result <;> rw [result] at sent <;> exact sent
  | _ =>
    refine Eq.trans ?_ nothing
    simp [handleFor]

/-- A message has the container run the program that it asks for, if it allows that. -/
theorem launched_handle (alone : channel.StandsAlone allowExec) (message : AgentMessage) :
    (channel.handle message).launched =
      channel.launched ++ launchesOf allowExec message.vector?.toList := by
  obtain ⟨container, standalone, there, -⟩ := alone.container
  have received : (channel.record (.received message.code)).StandsAlone allowExec := alone
  unfold Channel.handle
  rw [there]
  exact received.launched_handleFor container message

theorem launched_handlePayload (alone : channel.StandsAlone allowExec) (id : Nat)
    (payload : Bytes) : (channel.handlePayload payload).2.launched = channel.launched ++
      launchesOf allowExec ([⟨channel, id, payload⟩].filterMap Handover.vector?) := by
  obtain ⟨container, standalone, there, -⟩ := alone.container
  have asks : Handover.vector? (⟨channel, id, payload⟩ : Handover (Launching κ)) =
      (AgentMessage.decode payload).toOption.bind AgentMessage.vector? := by
    rw [Handover.vector?, if_pos (by rw [there]; rfl)]
  rw [filterMap_vector?, asks]
  unfold Channel.handlePayload
  cases AgentMessage.decode payload with
  | ok message => exact alone.launched_handle message
  | error error =>
    dsimp only [Except.toOption, Option.bind_none, Option.toList]
    rw [launchesOf_nil, List.append_nil]
    split <;> rfl

/-- The programs that a read has the container run. -/
theorem launched_traceReceive (alone : channel.StandsAlone allowExec) (id : Nat)
    (outcome : ReadOutcome) : (channel.receive id outcome).launched = channel.launched ++
      launchesOf allowExec ((channel.traceReceive id outcome).1.filterMap Handover.vector?) := by
  let motive (past : List (Handover (Launching κ))) (after : Channel (Launching κ)) : Prop :=
    after.StandsAlone allowExec ∧ after.launched =
      channel.launched ++ launchesOf allowExec (past.filterMap Handover.vector?)
  have along : Along motive [] (channel.traceReceive id outcome).1
      (channel.traceReceive id outcome).2 := by
    refine traceReceive_along ?_ ?_ (fun _ _ _ _ holds => holds) (fun _ _ _ holds => holds)
      ⟨alone, ?_⟩ id outcome
    · rintro past after id payload ⟨alone, launched⟩
      refine ⟨alone.handlePayload payload, ?_⟩
      rw [alone.launched_handlePayload id payload, launched, List.append_assoc,
        ← launchesOf_append, ← List.filterMap_append]
    · rintro past after id reason ⟨alone, launched⟩
      exact ⟨alone.of_estate (after.estate_close id reason),
        (after.launched_close id reason).trans launched⟩
    · simp [launchesOf_nil]
  rw [← channel.traceReceive_snd]
  exact along.last.2

/-- What comes has the container run the programs that it asks for. -/
theorem launched_attend (alone : channel.StandsAlone allowExec) (traffic : Traffic κ) :
    (channel.attend (traffic.map channel.kernel.resume)).launched = channel.launched ++
      launchesOf allowExec
        (channel.asked (.chore (.traffic (traffic.map channel.kernel.resume)))) := by
  have nothing : channel.launched = channel.launched ++ launchesOf allowExec [] := by
    rw [launchesOf_nil, List.append_nil]
  cases traffic with
  | read id outcome => exact alone.launched_traceReceive id outcome
  | arrival socket =>
    refine Eq.trans ?_ nothing
    dsimp only [Traffic.map, Channel.attend]
    split
    · unfold accept
      dsimp only
      split <;> rfl
    · rfl
  | refusal error =>
    refine Eq.trans ?_ nothing
    dsimp only [Traffic.map, Channel.attend]
    split
    · exact launched_closeRendezvous _
    · rfl
  | sweep => exact channel.launched_closeRetired.trans nothing
  | elapse kernel => exact nothing

/-- Whatever is done has the container run the programs that it asks for. -/
theorem launched_conductNoting (alone : channel.StandsAlone allowExec) (affair : Affair κ) :
    (channel.conductNoting affair).launched = channel.launched ++
      launchesOf allowExec (channel.asked (affair.map channel.kernel.resume)) := by
  have nothing : channel.launched = channel.launched ++ launchesOf allowExec [] := by
    rw [launchesOf_nil, List.append_nil]
  cases affair with
  | chore chore =>
    cases chore with
    | traffic traffic => exact alone.launched_attend traffic
    | start config => exact (channel.launched_start config).trans nothing
    | stop => exact alone.launched_stopContainer.trans nothing
    | setConnectivity connectivity =>
      exact (channel.launched_setConnectivity connectivity).trans nothing
    | wipe => exact channel.launched_wipe.trans nothing
    | beginFinish =>
      refine Eq.trans ?_ nothing
      dsimp only [conductNoting, Affair.map, Chore.map, Channel.conduct, Channel.undertake,
        beginFinish]
      split <;> rfl
    | endFinish =>
      refine Eq.trans ?_ nothing
      dsimp only [conductNoting, Affair.map, Chore.map, Channel.conduct, Channel.undertake,
        Channel.endFinish]
      split <;> simp
  | exec arguments => exact alone.launched_exec arguments
  | setState state => exact (channel.launched_setState state).trans nothing
  | setScreenOn on => exact (channel.launched_setScreenOn on).trans nothing
  | identify update => exact (channel.launched_applyIdentity update).trans nothing
  | acknowledge ack => exact (channel.launched_acknowledgeAudit ack).trans nothing
  | watch name reaction => exact (channel.launched_watch name reaction).trans nothing
  | unwatch name => exact (channel.launched_unwatch name).trans nothing
  | takeStopRequest =>
    obtain ⟨container, standalone, there, role, -⟩ := alone.container
    refine Eq.trans ?_ nothing
    dsimp only [conductNoting, Affair.map, Channel.conduct, Channel.takeStopRequest]
    rw [there]
    dsimp only
    rw [role]
    rfl

/-- So it is in a whole life. -/
theorem launched_conductAllNoting (alone : channel.StandsAlone allowExec)
    (affairs : List (Affair κ)) : (channel.conductAllNoting affairs).launched =
      channel.launched ++ launchesOf allowExec (channel.askedAlong affairs) := by
  induction affairs generalizing channel with
  | nil => rw [askedAlong, launchesOf_nil, List.append_nil, conductAllNoting, List.foldl_nil]
  | cons affair affairs ih =>
    have next : (channel.conductNoting affair).StandsAlone allowExec := alone.conduct _
    have later := ih next
    rw [conductAllNoting] at later ⊢
    rw [List.foldl_cons, later, alone.launched_conductNoting affair, askedAlong,
      launchesOf_append, List.append_assoc]

end StandsAlone

/-! ## Requests that fail -/

/-- Running a program, or failing to, is no business of the engine. -/
theorem engine_handle_exec (channel : Channel κ) (path : String) (params : List String) :
    (channel.handle (.exec path params)).engine = channel.engine := by
  have spawned (channel : Channel κ) (arguments : List String) :
      (channel.spawn arguments).2.engine = channel.engine := by
    unfold spawn
    split
    · rfl
    · split
      · rfl
      · split <;> rfl
  have ran (channel : Channel κ) (arguments : List String) :
      (channel.exec arguments).2.engine = channel.engine := by
    unfold exec
    split
    · rfl
    · split
      · rfl
      · split
        · exact spawned channel arguments
        · rfl
  unfold handle
  split
  · rfl
  · rename_i container _
    have same := ran (((channel.record (.received (AgentMessage.exec path params).code))).record
      (.executing (path :: params))) (path :: params)
    dsimp only [handleFor]
    split <;> rename_i result <;> rw [result] at same <;> exact same

end Channel

/-- Programs that are run are those that were asked for, in every run and in every life.
A recording container that is there has kept, in order and once each, the programs that payloads
asked for; those of a connection are the ones that its own bytes say when they are read in one
piece, or the first of these if the engine let go of it. A payload asks for what the message that
its fields carry says: the path and then every parameter as it is.
A request changes nothing about the engine, whether the program could be run or not, and the frames
behind it are handled.
A standalone container runs what it is asked for if it allows programs, but for arguments with a
zero in them, and otherwise nothing, whatever is done with it and whatever comes. -/
theorem programs_as_asked {κ : Type} [Kernel κ] (kernel : κ) (config : Config) :
    (∀ container inputs, container.permission? = none →
      (Channel.fresh kernel config (some container)).Admits KeepsExecs inputs →
      let history :=
        (⟨Channel.fresh kernel config (some container), [], []⟩ : History κ).run inputs
      ∀ last, history.channel.container = some last →
        last.execs = container.execs ++ history.vectors ∧
        ∀ id,
          let said := (saidIn config.maxMessageSize (history.bytes id)).filterMap
            AgentMessage.vector?
          history.vectorsOn id <+: said ∧
            (.released ∉ history.channel.occupancy.departuresOf id →
              history.vectorsOn id = said)) ∧
    (∀ (handover : Handover κ) arguments, handover.vector? = some arguments ↔
      handover.channel.container.isSome = true ∧ ∃ fields path params,
        AgentFields.SpelledBy fields handover.payload ∧
          (AgentMessage.exec path params).CarriedBy fields ∧ arguments = path :: params) ∧
    (∀ (channel : Channel κ) path params,
      (channel.handle (.exec path params)).engine = channel.engine ∧
        ∀ fields payload, AgentFields.SpelledBy fields payload →
          (AgentMessage.exec path params).CarriedBy fields →
          ∀ id buffer rest, channel.engine.isCurrent id = true →
            Frame.split channel.engine.config.maxMessageSize buffer = .complete payload rest →
            channel.handleFrames id buffer =
              (channel.handle (.exec path params)).handleFrames id rest) ∧
    ∀ name dnsServer allowExec (affairs : List (Affair κ)),
      let start := Channel.unstarted (⟨kernel, []⟩ : Launching κ) config name dnsServer allowExec
      (start.conductAllNoting affairs).launched =
        if allowExec then (start.askedAlong affairs).filter runnable else [] := by
  refine ⟨?_, fun _ _ => Handover.vector?_eq_some_iff, ?_, ?_⟩
  · intro container inputs kind admits history last there
    have apart : history.Apart config.maxMessageSize :=
      (History.Apart.fresh kernel config (some container)).run inputs
    have start : (⟨Channel.fresh kernel config (some container), [], []⟩ : History κ).Recorded
        container.execs := by
      refine ⟨?_, fun _ _ none => by cases none⟩
      have records : (Channel.fresh kernel config (some container)).Records container.execs :=
        .of_container rfl kind
      simpa [History.vectors] using records
    have recorded : history.Recorded container.execs := start.run admits
    refine ⟨recorded.records.execs_eq there, fun id => ?_⟩
    have alive : history.channel.container.isSome = true := by rw [there]; rfl
    obtain ⟨front, whole⟩ := apart.messages id
    dsimp only
    rw [history.vectorsOn_eq (recorded.present alive) id]
    exact ⟨front.filterMap _, fun kept => by rw [whole kept]⟩
  · intro channel path params
    refine ⟨channel.engine_handle_exec path params, ?_⟩
    intro fields payload spelled carried id buffer rest current found
    refine Channel.handleFrames_of_carried spelled carried found ?_
    rw [channel.engine_handle_exec path params, current]
  · intro name dnsServer allowExec affairs start
    have alone : start.StandsAlone allowExec :=
      Channel.standsAlone_unstarted _ config name dnsServer allowExec
    exact (alone.launched_conductAllNoting affairs).trans (List.nil_append _)

/-- Two requests in one read: the container has kept both, empty parameters among them, though it
fails to run any program, and the connection is open. -/
theorem two_programs_in_one_read :
    let config : Config := { socketDir := "", socketName := "s" }
    let container : Container :=
      { Container.recording with role := .recording { failsExec := true } }
    let bytes := [AgentMessage.exec "/bin/date" ["-s", ""], .exec "" []].flatMap fun message =>
      Frame.frame message.encode
    let inputs : List (Input Script) := [.accept 7, .read 1 (.data bytes)]
    let start := Channel.fresh (⟨[]⟩ : Script) config (some container)
    let history := (⟨start, [], []⟩ : History Script).run inputs
    start.Admits KeepsExecs inputs ∧ history.channel.engine.isCurrent 1 = true ∧
      history.vectorsOn 1 = [["/bin/date", "-s", ""], [""]] ∧
      ∀ last, history.channel.container = some last → last.execs = history.vectors := by
  refine ⟨⟨fun _ => trivial, nofun, trivial⟩, ?_, ?_, fun last there => ?_⟩
  · cbv
  · cbv
  · refine ((programs_as_asked (⟨[]⟩ : Script) _).1 _ _ rfl ?_ last there).1
    exact ⟨fun _ => trivial, nofun, trivial⟩

end ServiceChannel
