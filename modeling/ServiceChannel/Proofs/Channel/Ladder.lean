import ServiceChannel.Proofs.Channel.Changes
import ServiceChannel.Proofs.Session.Turns

/-!
# The ladder of bringing up

The rendezvous climbs one phase at a time, with one socket, and falls to the ground from wherever it
is. So a socket that listens was made, bound and put to listening since, in this order.

- `Climbed`: how the rendezvous came to its phase, by the acts so far.
- `Climbed.entrance`: the act that took it there, and all since.
- `Standing`: the invariant.
- `Channel.call_out_of_turn`: a phase that is called out of turn.
- `bring_up_ladder`: what holds in every run.
-/

namespace ServiceChannel

/-! ## Climbing -/

/-- The phase that leads here, and where it leads from. -/
def Rendezvous.entrance? : Rendezvous → Option (EngineCall × Rendezvous)
  | .closed => none
  | .created _ => some (.create, .closed)
  | .bound socket => some (.bind, .created socket)
  | .listening socket => some (.listen, .bound socket)

/-- The act is this call, and it takes the rendezvous from one phase to another. -/
structure Act.Takes {κ : Type} [Kernel κ] (act : Act κ) (call : EngineCall)
    (source target : Rendezvous) : Prop where
  called : act.deed = .called call
  found : act.channel.engine.rendezvous = source
  left : act.after.engine.rendezvous = target

/-- The act finds the rendezvous in a phase and leaves it there. -/
structure Act.Rests {κ : Type} [Kernel κ] (act : Act κ) (rendezvous : Rendezvous) : Prop where
  found : act.channel.engine.rendezvous = rendezvous
  left : act.after.engine.rendezvous = rendezvous

/-- How the rendezvous came to its phase, by the acts so far: it is closed, or one of the acts took
it there from the phase before, and none has moved it since. -/
inductive Climbed {κ : Type} [Kernel κ] : Rendezvous → List (Act κ) → Prop where
  | closed (past : List (Act κ)) : Climbed .closed past
  | enter {past : List (Act κ)} {act : Act κ} {call : EngineCall} {source target : Rendezvous}
    (leads : target.entrance? = some (call, source)) (before : Climbed source past)
    (takes : act.Takes call source target) : Climbed target (past ++ [act])
  | rest {past : List (Act κ)} {act : Act κ} {rendezvous : Rendezvous}
    (before : Climbed rendezvous past) (rests : act.Rests rendezvous) :
    Climbed rendezvous (past ++ [act])

variable {κ : Type} [Kernel κ]

/-- The act that took the rendezvous to its phase, with all acts since. -/
theorem Climbed.entrance {rendezvous source : Rendezvous} {acts : List (Act κ)} {call : EngineCall}
    (climbed : Climbed rendezvous acts) (leads : rendezvous.entrance? = some (call, source)) :
    ∃ before act since, acts = before ++ act :: since ∧ Climbed source before ∧
      act.Takes call source rendezvous ∧ ∀ other ∈ since, other.Rests rendezvous := by
  induction climbed with
  | closed past => cases leads
  | @enter past act other earlier target known before takes =>
    have same := known.symm.trans leads
    simp only [Option.some.injEq, Prod.mk.injEq] at same
    obtain ⟨rfl, rfl⟩ := same
    exact ⟨past, act, [], rfl, before, takes, by simp⟩
  | @rest past act rendezvous before rests ih =>
    obtain ⟨earlier, entering, since, rfl, climbed, takes, resting⟩ := ih leads
    refine ⟨earlier, entering, since ++ [act], by simp, climbed, takes, fun other mem => ?_⟩
    rcases List.mem_append.1 mem with old | new
    · exact resting other old
    · rw [List.mem_singleton.1 new]
      exact rests

/-! ## The invariant -/

/-- The rendezvous climbed to where it is, and it left the ground with a valid configuration
only. -/
structure Standing (config : Config) (past : List (Act κ)) (ties : Ties) : Prop where
  made : ties.config = config
  climbed : Climbed ties.rendezvous past
  valid : ties.rendezvous ≠ .closed → config.validate = .ok ()

namespace Standing

variable {config : Config} {past : List (Act κ)} {ties after : Ties}

/-- Nothing was done, and the rendezvous is where it was. -/
theorem of_eq (standing : Standing config past ties) (sameConfig : after.config = ties.config)
    (same : after.rendezvous = ties.rendezvous) : Standing config past after where
  made := sameConfig.trans standing.made
  climbed := same ▸ standing.climbed
  valid := same ▸ standing.valid

/-- The rendezvous falls. -/
theorem fall (standing : Standing config past ties) (past : List (Act κ))
    (sameConfig : after.config = ties.config) (closed : after.rendezvous = .closed) :
    Standing config past after where
  made := sameConfig.trans standing.made
  climbed := closed ▸ .closed past
  valid notClosed := absurd closed notClosed

theorem of_quiet {before after : Channel κ} (standing : Standing config past before.ties)
    (quiet : Quiet before after) : Standing config past after.ties := by
  obtain same | same := quiet
  · exact standing.of_eq (congrArg Ties.config same) (congrArg Ties.rendezvous same)
  · exact standing.of_eq ((congrArg Ties.config same).trans rfl)
      ((congrArg Ties.rendezvous same).trans rfl)

/-- An act that does not move the rendezvous. -/
theorem rest {act : Act κ} (standing : Standing config past act.channel.ties)
    (sameConfig : act.after.ties.config = act.channel.ties.config)
    (same : act.after.ties.rendezvous = act.channel.ties.rendezvous) :
    Standing config (past ++ [act]) act.after.ties where
  made := sameConfig.trans standing.made
  climbed := by
    rw [same]
    exact .rest standing.climbed ⟨rfl, same⟩
  valid := same ▸ standing.valid

end Standing

/-- A phase that succeeds from the ground has found the configuration valid. -/
theorem Channel.valid_of_created {channel : Channel κ}
    (answered : (channel.call .create).1 = .ofUnit (.ok ())) :
    channel.engine.config.validate = .ok () := by
  simp only [Channel.call, create] at answered
  split at answered
  · cases answered
  · assumption

theorem Standing.act {config : Config} {past : List (Act κ)} {act : Act κ}
    (standing : Standing config past act.channel.ties) (possible : act.Possible) :
    Standing config (past ++ [act]) act.after.ties := by
  have changes := act.changes possible
  generalize left : act.after.ties = after at changes
  cases changes with
  | keeps _ _ =>
    rw [← left]
    exact standing.rest (congrArg Ties.config left) (congrArg Ties.rendezvous left)
  | exchanges _ _ =>
    rw [← left]
    exact standing.rest ((congrArg Ties.config left).trans rfl)
      ((congrArg Ties.rendezvous left).trans rfl)
  | cuts _ _ => exact standing.fall _ rfl rfl
  | @phase call result after called answered phased _ =>
    have moved {target source : Rendezvous} (leads : target.entrance? = some (call, source))
        (turn : act.channel.engine.rendezvous = source)
        (arrived : after.ties.rendezvous = target) : Climbed target (past ++ [act]) := by
      refine .enter leads (turn ▸ standing.climbed) ⟨called, turn, ?_⟩
      exact (congrArg Ties.rendezvous left).trans arrived
    have above {source : Rendezvous} (turn : act.channel.engine.rendezvous = source)
        (higher : source ≠ .closed) : config.validate = .ok () :=
      standing.valid fun closed => higher (turn.symm.trans closed)
    cases phased with
    | refused _ =>
      rw [← left]
      exact standing.rest (congrArg Ties.config left) (congrArg Ties.rendezvous left)
    | failed _ _ => exact standing.fall _ rfl rfl
    | created socket turn =>
      have valid := Channel.valid_of_created answered
      rw [show act.channel.engine.config = config from standing.made] at valid
      exact ⟨standing.made, moved rfl turn rfl, fun _ => valid⟩
    | bound socket turn => exact ⟨standing.made, moved rfl turn rfl, fun _ => above turn nofun⟩
    | unobserved socket turn text =>
      exact ⟨standing.made, moved rfl turn rfl, fun _ => above turn nofun⟩
    | listening socket turn container there =>
      exact ⟨standing.made, moved rfl turn rfl, fun _ => above turn nofun⟩

/-- What comes from outside does not move the rendezvous, or closes it. -/
theorem Standing.outside {config : Config} {past : List (Act κ)} {channel : Channel κ}
    {input : Input κ} (standing : Standing config past channel.ties)
    (comes : input.isOutside = true) : Standing config past (channel.step input).ties := by
  cases input with
  | accept socket =>
    have same := channel.ties_accept socket
    exact standing.of_eq ((congrArg Ties.config same).trans rfl)
      ((congrArg Ties.rendezvous same).trans rfl)
  | acceptFailed error =>
    have same := channel.ties_acceptFailed error
    exact standing.fall past ((congrArg Ties.config same).trans rfl)
      ((congrArg Ties.rendezvous same).trans rfl)
  | container container => exact standing.of_eq rfl rfl
  | _ => cases comes

theorem standing_kept (config : Config) (allowed : Channel κ → Input κ → Prop) :
    Kept allowed fun (past : List (Act κ)) channel => Standing config past channel.ties where
  quiet _ _ _ quiet standing := standing.of_quiet quiet
  watch _ channel name reaction standing := by
    have same := channel.sameEngine_watch name reaction
    exact standing.of_eq same.config same.rendezvous
  unwatch _ channel name standing := by
    have same := channel.sameEngine_unwatch name
    exact standing.of_eq same.config same.rendezvous
  outside _ _ _ comes _ standing := standing.outside comes
  act _ _ possible standing := standing.act possible

/-! ## Out of turn -/

/-- The phase in which a call is in its turn. -/
def EngineCall.turn? : EngineCall → Option String
  | .create => some "closed"
  | .bind => some "created"
  | .listen => some "bound"
  | _ => none

namespace Channel

/-- A phase that is called out of turn says so, and does nothing. -/
theorem call_out_of_turn {channel : Channel κ}
    (valid : channel.engine.rendezvous ≠ .closed → channel.engine.config.validate = .ok ())
    {call : EngineCall} {expected : String} (turn : call.turn? = some expected)
    (other : channel.engine.rendezvous.phase ≠ expected) :
    channel.call call =
      (.failed (.invalidState expected channel.engine.rendezvous.phase), channel) := by
  cases call with
  | create =>
    cases turn
    have raised : channel.engine.rendezvous ≠ .closed := fun closed => other (by rw [closed]; rfl)
    simp only [Channel.call, create, valid raised]
    cases found : channel.engine.rendezvous with
    | closed => exact absurd found raised
    | _ => rfl
  | bind =>
    cases turn
    simp only [Channel.call, bind]
    cases found : channel.engine.rendezvous with
    | created socket => exact absurd (congrArg Rendezvous.phase found) other
    | _ => rfl
  | listen =>
    cases turn
    simp only [Channel.call, listen]
    cases found : channel.engine.rendezvous with
    | bound socket => exact absurd (congrArg Rendezvous.phase found) other
    | _ => rfl
  | _ => cases turn

omit [Kernel κ] in
/-- An accept that fails closes the rendezvous, and nothing else. -/
theorem acceptFailed_only (channel : Channel κ) (error : SystemError) :
    let after := channel.acceptFailed error
    after.engine = { channel.engine with rendezvous := .closed } ∧
      after.container = channel.container ∧ after.kernel = channel.kernel ∧
      after.watchers = channel.watchers ∧ after.notes = channel.notes := by
  unfold acceptFailed closeRendezvous
  dsimp only
  split <;> exact ⟨rfl, rfl, rfl, rfl, rfl⟩

end Channel

/-- A rendezvous that listens was made, bound and put to listening, by three acts in this order and
with one socket, and no act has moved it otherwise since the first of them found it closed. -/
theorem Climbed.of_listening {socket : Handle} {acts : List (Act κ)}
    (climbed : Climbed (.listening socket) acts) :
    ∃ before create waiting bind pausing listen since,
      acts = before ++ create :: (waiting ++ bind :: (pausing ++ listen :: since)) ∧
      create.Takes .create .closed (.created socket) ∧
      (∀ act ∈ waiting, act.Rests (.created socket)) ∧
      bind.Takes .bind (.created socket) (.bound socket) ∧
      (∀ act ∈ pausing, act.Rests (.bound socket)) ∧
      listen.Takes .listen (.bound socket) (.listening socket) ∧
      ∀ act ∈ since, act.Rests (.listening socket) := by
  obtain ⟨toBound, listen, since, rfl, bound, listened, listening⟩ := climbed.entrance rfl
  obtain ⟨toCreated, bind, pausing, rfl, created, took, paused⟩ := bound.entrance rfl
  obtain ⟨before, create, waiting, rfl, -, made, waited⟩ := created.entrance rfl
  exact ⟨before, create, waiting, bind, pausing, listen, since, by simp, made, waited, took,
    paused, listened, listening⟩

/-- The ladder of bringing up, in every run.
The rendezvous listens only if it was made, bound and put to listening since it was last closed, in
this order, each time with the same socket and from one phase to the next.
A phase that is called at any moment out of its turn says which phase it needs and which it found,
and does nothing.
A connection is accepted only when it arrives where a socket listens; nothing that is called accepts
one, and turns, agents and accepts that are made to fail bring nothing but traffic.
An accept that fails closes the rendezvous, and nothing else. -/
theorem bring_up_ladder (kernel : κ) (config : Config) (container : Option Container)
    (inputs : List (Input κ)) :
    let start := Channel.fresh kernel config container
    let channel := start.run inputs
    (∀ socket, channel.engine.rendezvous = .listening socket →
      ∃ before create waiting bind pausing listen since,
        start.acts inputs =
          before ++ create :: (waiting ++ bind :: (pausing ++ listen :: since)) ∧
        create.Takes .create .closed (.created socket) ∧
        (∀ act ∈ waiting, act.Rests (.created socket)) ∧
        bind.Takes .bind (.created socket) (.bound socket) ∧
        (∀ act ∈ pausing, act.Rests (.bound socket)) ∧
        listen.Takes .listen (.bound socket) (.listening socket) ∧
        ∀ act ∈ since, act.Rests (.listening socket)) ∧
    (∀ here ∈ channel :: (start.acts inputs).map (·.channel), ∀ call expected,
      call.turn? = some expected → here.engine.rendezvous.phase ≠ expected →
      here.call call = (.failed (.invalidState expected here.engine.rendezvous.phase), here)) ∧
    ((∀ (here : Channel κ) (traffic : Traffic κ),
        (here.attend traffic).engine.accepted = here.engine.accepted ∨
          here.engine.isListening = true ∧ (∃ socket, traffic = .arrival socket) ∧
            (here.attend traffic).engine.accepted = here.engine.accepted + 1) ∧
      (∀ input, input.isAccept = false →
        (channel.step input).engine.accepted = channel.engine.accepted) ∧
      ∀ world : Session.World, Session.Attends world.host world.turn.2.host ∧
        Session.Attends world.host world.failAccept.2.host ∧
        ∀ name step, Session.Attends world.host (world.takeAgent name step).2.host) ∧
    ∀ error,
      let after := channel.acceptFailed error
      after.engine = { channel.engine with rendezvous := .closed } ∧
        after.container = channel.container ∧ after.kernel = channel.kernel ∧
        after.watchers = channel.watchers ∧ after.notes = channel.notes := by
  intro start channel
  have opening : Standing config ([] : List (Act κ)) start.ties :=
    ⟨rfl, .closed [], fun raised => absurd rfl raised⟩
  have walk := Channel.run_walk (start.admits_all inputs)
  obtain ⟨standing, everywhere⟩ := walk.invariant (standing_kept config _) opening
  have sound : channel.occupancy.Sound :=
    Channel.run_sound (History.Ledger.fresh kernel config container).sound inputs
  refine ⟨?_, ?_, ⟨Channel.accepted_attend, ?_, ?_⟩, channel.acceptFailed_only⟩
  · intro socket listens
    have climbed := standing.climbed
    rw [show channel.ties.rendezvous = .listening socket from listens] at climbed
    exact climbed.of_listening
  · intro here mem call expected turn other
    have stands : ∃ past : List (Act κ), Standing config past here.ties := by
      rcases List.mem_cons.1 mem with rfl | mem
      · exact ⟨_, standing⟩
      · obtain ⟨act, acted, rfl⟩ := List.mem_map.1 mem
        obtain ⟨before, later, split⟩ := List.append_of_mem acted
        exact ⟨before, (everywhere before act later split).2⟩
    obtain ⟨past, stands⟩ := stands
    refine Channel.call_out_of_turn (fun raised => ?_) turn other
    rw [show here.engine.config = config from stands.made]
    exact stands.valid raised
  · intro input other
    have counted := Channel.accepted_step sound input
    rw [other] at counted
    exact counted
  · exact fun world => ⟨world.turn_attends, world.failAccept_attends, world.takeAgent_attends⟩

end ServiceChannel
