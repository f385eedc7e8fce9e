import Mathlib
import ServiceChannel.Proofs.Channel.Cleanup
import ServiceChannel.Proofs.Channel.Output
import ServiceChannel.Proofs.Channel.SendOutcomes
import ServiceChannel.Session.Agents

/-!
# Headers

A header has room for lengths below two to the thirty-second, and framing (`encode_frame`) keeps no
more of a length than that. No header is cut short nevertheless: an engine has a connection only
once its configuration was found valid (`validate`, in `start_pre_clone`), and a valid bound fits a
header.

- `Frame.Announces`, `Frame.Headed`: a payload behind a header with its length, and bytes whose own
  first four are such a header.
- `Channel.Sealed`: an engine that is connected, or can be, has a valid configuration.
- `Sealed.everywhere`, `Sealed.conductAll`: so it is anywhere in a run, and in every life.
- `Sealed.announces_call`: the header that a send writes is that of the payload it was called with.
- `Sealed.writes`: whatever else is done, each buffer that is begun is headed.
- `headers_announce_lengths`: what is written, on either end.
-/

namespace ServiceChannel

/-! ## Frames -/

/-- The bytes are a header, which announces the length of the payload, and the payload behind it. -/
def Frame.Announces (payload bytes : Bytes) : Prop :=
  ∃ header : Bytes, header.length = headerLength ∧ Bytes.toNat header = payload.length ∧
    bytes = header ++ payload

theorem Frame.announces_frame {payload : Bytes} (fits : payload.length ≤ lengthLimit) :
    Announces payload (frame payload) :=
  ⟨Bytes.bigEndian headerLength payload.length, rfl, toNat_header_of_le fits, rfl⟩

/-- The first four bytes are the number of the bytes behind them. -/
def Frame.Headed (bytes : Bytes) : Prop :=
  headerLength ≤ bytes.length ∧
    Bytes.toNat (bytes.take headerLength) = (bytes.drop headerLength).length

instance (bytes : Bytes) : Decidable (Frame.Headed bytes) := inferInstanceAs (Decidable (_ ∧ _))

theorem Frame.Announces.headed {payload bytes : Bytes} (announces : Announces payload bytes) :
    Headed bytes := by
  obtain ⟨header, length, announced, rfl⟩ := announces
  refine ⟨?_, ?_⟩
  · rw [List.length_append, length]
    exact Nat.le_add_right _ _
  · rw [List.take_left' length, List.drop_left' length]
    exact announced

/-- A header must announce neither more nor less. -/
example : Frame.Headed [0, 0, 0, 2, 8, 2] ∧ ¬ Frame.Headed [0, 0, 0, 3, 8, 2] ∧
    ¬ Frame.Headed [0, 0, 0, 1, 8, 2] := by decide

/-- A payload that no header has room for gets a wrong one. -/
theorem Frame.encode_of_roomless {max : Nat} {payload : Bytes}
    (large : lengthLimit < payload.length) (fits : payload.length ≤ max) :
    ∃ header : Bytes, header.length = headerLength ∧ encode max payload = .ok (header ++ payload) ∧
      Bytes.toNat header = payload.length % UInt32.size ∧ Bytes.toNat header ≠ payload.length := by
  refine ⟨Bytes.bigEndian headerLength payload.length, rfl, encode_of_fits fits, toNat_header _, ?_⟩
  rw [toNat_header]
  have below : payload.length % UInt32.size < UInt32.size := Nat.mod_lt _ (by decide)
  have limit : lengthLimit = UInt32.size - 1 := rfl
  omega

/-- The length of a frame is a number of sixty-four bits, whatever its header announces. -/
theorem Frame.toNat_headerLength_add (a b c d : UInt8) :
    let size := Bytes.toNat [a, b, c, d]
    (UInt64.ofNat headerLength + UInt64.ofNat size).toNat = headerLength + size := by
  intro size
  have bound : size ≤ lengthLimit := toNat_header_le a b c d
  have room : headerLength + lengthLimit < 2 ^ 64 := by decide
  rw [UInt64.toNat_add, UInt64.toNat_ofNat', UInt64.toNat_ofNat']
  omega

/-- An agent sends no payload that a header has no room for. -/
theorem Client.announces_of_frame {payload bytes : Bytes} (framed : frame payload = .ok bytes) :
    Frame.Announces payload bytes := by
  rcases Nat.lt_or_ge maxMessageSize payload.length with large | fits
  · rw [frame_of_large large] at framed
    cases framed
  · rw [frame_of_fits fits] at framed
    obtain rfl := Except.ok.inj framed
    exact Frame.announces_frame (Nat.le_trans fits (by decide))

theorem Session.World.writePayload_announces (world : World) (agent : Agent) (payload : Bytes) :
    (∃ error, world.writePayload agent payload = (.error error, world)) ∨
      ∃ bytes, Frame.Announces payload bytes ∧
        world.writePayload agent payload = world.write agent bytes := by
  unfold writePayload
  cases framed : Client.frame payload with
  | error error => exact .inl ⟨error, rfl⟩
  | ok bytes => exact .inr ⟨bytes, Client.announces_of_frame framed, rfl⟩

/-- A valid bound fits a header. -/
theorem Config.maxMessageSize_le_of_valid {config : Config} (valid : config.validate = .ok ()) :
    config.maxMessageSize ≤ Frame.lengthLimit :=
  Nat.le_pred_of_lt (maxMessageSize_of_valid valid).2

theorem Frame.Within.headed {max : Nat} (fits : max ≤ lengthLimit) {buffer : Bytes}
    (within : Within max buffer) : Headed buffer := by
  obtain ⟨payload, small, rfl⟩ := within
  exact (announces_frame (Nat.le_trans small fits)).headed

namespace Channel

variable {κ : Type}

/-! ## Sealed engines -/

/-- An engine that is connected, or can be, has a valid configuration. -/
def Sealed (channel : Channel κ) : Prop :=
  channel.engine.connection ≠ none ∨ channel.engine.rendezvous ≠ .closed →
    channel.engine.config.validate = .ok ()

namespace Sealed

variable {channel after : Channel κ}

theorem of_ties (sealed : channel.Sealed) (same : after.ties = channel.ties) : after.Sealed := by
  have config : after.engine.config = channel.engine.config := congrArg Ties.config same
  have rendezvous : after.engine.rendezvous = channel.engine.rendezvous :=
    congrArg Ties.rendezvous same
  have connection : after.engine.connection = channel.engine.connection :=
    congrArg Ties.connection same
  unfold Sealed
  rw [config, rendezvous, connection]
  exact sealed

/-- An engine on the ground may have any configuration. -/
theorem of_ground (unconnected : channel.engine.connection = none)
    (closed : channel.engine.rendezvous = .closed) : channel.Sealed := by
  rintro (connected | raised)
  · exact absurd unconnected connected
  · exact absurd closed raised

/-- The bound of a connected engine. -/
theorem bound (sealed : channel.Sealed) (connected : channel.engine.isConnected = true) :
    0 < channel.engine.config.maxMessageSize ∧
      channel.engine.config.maxMessageSize ≤ Frame.lengthLimit := by
  have there : channel.engine.connection ≠ none := by
    intro empty
    rw [Engine.isConnected, empty] at connected
    cases connected
  have valid := sealed (.inl there)
  exact ⟨(Config.maxMessageSize_of_valid valid).1, Config.maxMessageSize_le_of_valid valid⟩

theorem proceed {channel after : Channel (Offering κ)} (sealed : channel.Sealed)
    (proceeds : channel.Proceeds after) : after.Sealed := by
  intro reachable
  have config : after.engine.config = channel.engine.config := proceeds.config
  rw [config]
  rcases reachable with there | raised
  · obtain same | gone := proceeds.connection
    · exact sealed (.inl fun empty => there (same.trans empty))
    · exact absurd gone there
  · obtain higher | valid := proceeds.raised raised
    · exact sealed (.inr higher)
    · exact valid

/-- A connection arrives where the rendezvous listens, so that the configuration is valid. -/
theorem accept (sealed : channel.Sealed) (listens : channel.engine.isListening = true)
    (socket : Handle) : (channel.accept socket).Sealed := by
  have ties := channel.ties_accept socket
  have config : (channel.accept socket).engine.config = channel.engine.config :=
    (congrArg Ties.config ties).trans rfl
  intro _
  rw [config]
  refine sealed (.inr fun closed => ?_)
  rw [Engine.isListening, closed] at listens
  cases listens

end Sealed

end Channel

/-! ## Writing -/

/-- From one moment to a later one only the open connection is offered anything, and whatever it is
offered is headed, or is what it did not take of that before. -/
def Channel.WritesHeaded {κ : Type} (before after : Channel (Offering κ)) : Prop :=
  Offering.Offered before.outlet.Reaches Frame.Headed [] before.kernel after.kernel

/-- With an agent, the payload that the operation is called with is offered behind a header that
announces it, and the answer is what becomes of that. A payload beyond the bound is not offered at
all, and neither is anything without a payload. -/
def Channel.AnnouncesPayload {κ : Type} [Kernel κ] (channel : Channel κ) (call : EngineCall) :
    Prop :=
  let answer := (channel.call call).1
  let after := (channel.call call).2
  ∀ connection, channel.engine.connection = some connection →
    (call.payload? channel.container = none → after.kernel = channel.kernel) ∧
    ∀ payload, call.payload? channel.container = some payload →
      (channel.engine.config.maxMessageSize < payload.length → after.kernel = channel.kernel) ∧
      (payload.length ≤ channel.engine.config.maxMessageSize → ∃ bytes answers result,
        Frame.Announces payload bytes ∧
        Attempts connection.socket channel.kernel bytes answers after.kernel ∧
        Concludes bytes.length answers result ∧
        answer = match result with
          | .ok () => .delivery .sent
          | .error error => .failed (.send error.message))

namespace Channel

variable {κ : Type}

theorem WritesHeaded.of_offers {before after : Channel (Offering κ)}
    (offers : after.kernel.offers = before.kernel.offers) : before.WritesHeaded after :=
  Offering.Offered.of_eq offers

/-- A sealed engine writes within a bound that fits a header. -/
theorem Sealed.writes {before after : Channel (Offering κ)} (sealed : before.Sealed)
    (proceeds : before.Proceeds after) : before.WritesHeaded after := by
  refine proceeds.offered.mono fun socket reached => ⟨reached, fun _ => Frame.Within.headed ?_⟩
  have connected : before.engine.connection ≠ none := by
    intro empty
    have nowhere : before.outlet.connection = none := empty
    rw [Outlet.Reaches, nowhere] at reached
    cases reached
  exact Config.maxMessageSize_le_of_valid (sealed (.inl connected))

variable [Kernel κ]

/-- The header that a sealed engine writes in front of the payload of a send is the right one. -/
theorem Sealed.announces_call {channel : Channel κ} (sealed : channel.Sealed) {call : EngineCall}
    (sends : call.isSend = true) : channel.AnnouncesPayload call := by
  intro connection current
  have connected : channel.engine.isConnected = true := by simp [Engine.isConnected, current]
  have attended : call.isPlain = true → channel.engine.connection ≠ none := by simp [current]
  refine ⟨fun without => ?without, fun payload carries => ?carries⟩
  case without =>
    -- Either the container is gone that the send would ask, or the command is never written.
    by_cases gone : call.asksContainer = true ∧ channel.container = none
    · exact congrArg (·.2.kernel) (call_of_gone gone.1 gone.2)
    · have unwritten : call = .command .audioResume := by
        by_contra written
        obtain ⟨payload, carries⟩ := EngineCall.exists_payload sends
          (fun asks empty => gone ⟨asks, empty⟩) written
        rw [without] at carries
        cases carries
      subst unwritten
      exact (call_audioResume_of_connected current).2
  case carries =>
    obtain ⟨answered, asked⟩ := call_of_payload carries attended
    refine ⟨fun large => ?_, fun fits => ?_⟩
    · rw [sendPayload_of_oversized large] at asked
      exact asked
    · obtain ⟨answers, result, attempts, concludes, delivered⟩ := sendPayload_writes fits current
      refine ⟨Frame.frame payload, answers, result,
        Frame.announces_frame (Nat.le_trans fits (sealed.bound connected).2), ?_, concludes, ?_⟩
      · rw [← asked] at attempts
        exact attempts
      · rw [delivered] at answered
        refine answered.trans ?_
        cases result <;> rfl

/-! ## Runs -/

/-- Every payload is handed over to a sealed engine, and sealed it stays. -/
theorem Sealed.traceReceive {channel : Channel (Offering κ)} (sealed : channel.Sealed) (id : Nat)
    (outcome : ReadOutcome) :
    Along (fun _ after => after.Sealed) [] (channel.traceReceive id outcome).1
      (channel.traceReceive id outcome).2 :=
  traceReceive_along
    (fun _ channel _ payload sealed => sealed.proceed (channel.handlePayload_proceeds payload))
    (fun _ channel id reason sealed => sealed.proceed (channel.close_proceeds id reason))
    (fun _ _ _ _ sealed => sealed) (fun _ _ _ sealed => sealed) sealed id outcome

/-- An engine stays sealed whatever happens, if connections arrive where a socket listens only. -/
theorem Sealed.step {channel : Channel (Offering κ)} (sealed : channel.Sealed)
    {input : Input (Offering κ)} (allows : input.isOutside = true → channel.ListensFor input) :
    (channel.step input).Sealed := by
  by_cases arrives : ∃ socket, input = .accept socket
  · obtain ⟨socket, rfl⟩ := arrives
    exact sealed.accept (allows rfl rfl) socket
  · by_cases goes : ∃ kernel, input = .elapse kernel
    · obtain ⟨kernel, rfl⟩ := goes
      exact sealed
    · exact sealed.proceed (channel.step_proceeds (not_exists.1 arrives) (not_exists.1 goes))

theorem Sealed.run {channel : Channel (Offering κ)} (sealed : channel.Sealed)
    {inputs : List (Input (Offering κ))} (admits : channel.Admits ListensFor inputs) :
    (channel.run inputs).Sealed := by
  induction inputs generalizing channel with
  | nil => exact sealed
  | cons input inputs ih => exact ih (sealed.step admits.1) admits.2

/-- An engine is sealed at every act. -/
theorem sealed_kept : Kept (@ListensFor (Offering κ)) fun _ channel => channel.Sealed where
  quiet _ before after quiet sealed := by
    obtain same | vacated := quiet
    · exact sealed.of_ties same
    · intro reachable
      have config : after.engine.config = before.engine.config :=
        (congrArg Ties.config vacated).trans rfl
      have rendezvous : after.engine.rendezvous = before.engine.rendezvous :=
        (congrArg Ties.rendezvous vacated).trans rfl
      have gone : after.engine.connection = none :=
        (congrArg Ties.connection vacated).trans rfl
      rw [config]
      rw [rendezvous] at reachable
      exact sealed (.inr (reachable.resolve_left (absurd gone)))
  watch _ channel name reaction sealed := sealed.proceed (channel.watch_proceeds name reaction)
  unwatch _ channel name sealed := sealed.proceed (channel.unwatch_proceeds name)
  outside _ _ _ comes allows sealed := sealed.step fun _ => allows
  act _ act _ sealed := by
    obtain ⟨channel, called | _ | connectivity⟩ := act
    · exact sealed.proceed (channel.call_proceeds _)
    · unfold Act.after
      dsimp only
      split
      · exact sealed
      · exact sealed.proceed (channel.notifyEngine_proceeds _)
    · exact sealed

/-- Whatever an input makes an engine write, its headers are right. -/
theorem Sealed.writes_step {channel : Channel (Offering κ)} (sealed : channel.Sealed)
    {input : Input (Offering κ)} (goes : ∀ kernel, input ≠ .elapse kernel) :
    channel.WritesHeaded (channel.step input) := by
  by_cases arrives : ∃ socket, input = .accept socket
  · obtain ⟨socket, rfl⟩ := arrives
    exact .of_offers (congrArg Offering.offers (channel.kernel_accept socket))
  · exact sealed.writes (channel.step_proceeds (not_exists.1 arrives) goes)

/-! ## Lives -/

/-- An engine is made on the ground. -/
theorem Sealed.start {channel : Channel (Offering κ)} (sealed : channel.Sealed) (config : Config) :
    (channel.start config).2.Sealed := by
  cases released : channel.engine.released with
  | false =>
    rw [start_of_active released]
    exact sealed
  | true =>
    have begun : (channel.begun config).Sealed := .of_ground rfl rfl
    have brought := begun.proceed (channel.begun config).bringUp_proceeds
    cases done : (channel.begun config).bringUp with
    | mk result after =>
      rw [done] at brought
      cases result with
      | error error =>
        rw [start_of_failed released done]
        exact (brought.proceed after.release_proceeds).proceed (setState_proceeds _ _)
      | ok _ =>
        rw [start_of_done released done]
        exact brought.proceed (setState_proceeds (after.record _) _)

theorem Sealed.conduct {channel : Channel (Offering κ)} (sealed : channel.Sealed)
    (affair : Affair (Offering κ)) : (channel.conduct affair).Sealed := by
  cases turn : affair.isTurn with
  | false => exact sealed.proceed (channel.conduct_proceeds turn)
  | true =>
    unfold Affair.isTurn at turn
    split at turn
    · exact sealed.start _
    · dsimp only [Channel.conduct, undertake, attend]
      split
      · exact sealed.accept ‹_› _
      · exact sealed
    · exact sealed
    · cases turn

theorem Sealed.conductAll {channel : Channel (Offering κ)} (sealed : channel.Sealed)
    (affairs : List (Affair (Offering κ))) : (channel.conductAll affairs).Sealed := by
  induction affairs generalizing channel with
  | nil => exact sealed
  | cons affair affairs ih => exact ih (sealed.conduct affair)

/-- Whatever is done in a life that stands alone, or comes, makes an engine write, its headers are
right. -/
theorem Sealed.writes_conduct {channel : Channel (Offering κ)} (sealed : channel.Sealed)
    {affair : Affair (Offering κ)} (goes : ∀ kernel, affair ≠ .chore (.traffic (.elapse kernel))) :
    channel.WritesHeaded (channel.conduct affair) := by
  cases turn : affair.isTurn with
  | false => exact sealed.writes (channel.conduct_proceeds turn)
  | true =>
    unfold Affair.isTurn at turn
    split at turn
    · exact .of_offers (untouched_offers.after_start channel _)
    · dsimp only [Channel.conduct, undertake, attend]
      split
      · exact .of_offers (congrArg Offering.offers (channel.kernel_accept _))
      · exact .of_offers rfl
    · exact absurd rfl (goes _)
    · cases turn

end Channel

/-- Every payload of a run is handed over to a sealed engine. -/
theorem History.sealed_run {κ : Type} [Kernel κ] {history : History (Offering κ)}
    (sealed : history.channel.Sealed)
    (earlier : ∀ handover ∈ history.handovers, handover.channel.Sealed)
    {inputs : List (Input (Offering κ))}
    (admits : history.channel.Admits Channel.ListensFor inputs) :
    ∀ handover ∈ (history.run inputs).handovers, handover.channel.Sealed := by
  induction inputs generalizing history with
  | nil => exact earlier
  | cons input inputs ih =>
    refine ih (sealed.step admits.1) (List.forall_mem_append.2 ⟨earlier, ?_⟩) admits.2
    cases input with
    | read id outcome =>
      intro handover mem
      obtain ⟨front, back, split⟩ := List.append_of_mem mem
      exact (sealed.traceReceive id outcome).each front handover back split
    | _ => exact fun _ mem => by cases mem

/-- An engine is sealed at the end of a run, at every act and whenever a payload is handed over. -/
theorem Channel.Sealed.everywhere {κ : Type} [Kernel κ] {start : Channel (Offering κ)}
    (sealed : start.Sealed) {inputs : List (Input (Offering κ))}
    (admits : start.Admits ListensFor inputs) :
    ∀ here ∈ start.run inputs :: (start.acts inputs).map (·.channel) ++
      ((⟨start, [], []⟩ : History (Offering κ)).run inputs).handovers.map (·.channel),
      here.Sealed := by
  obtain ⟨atEnd, atActs⟩ := (run_walk admits).invariant sealed_kept sealed
  refine List.forall_mem_append.2 ⟨List.forall_mem_cons.2 ⟨atEnd, ?acts⟩, ?handovers⟩
  case acts =>
    refine List.forall_mem_map.2 fun act mem => ?_
    obtain ⟨before, later, split⟩ := List.append_of_mem mem
    exact (atActs before act later split).2
  case handovers =>
    exact List.forall_mem_map.2 (History.sealed_run sealed (List.forall_mem_nil _) admits)

/-! ## The wire -/

/-- No header is cut short on the wire.
In every run in which connections arrive where a socket listens, at its end, at every act and
whenever a payload is handed over, the bound of a connected engine fits a header; and whatever send
is called there, the header that the agent is offered is the length of the payload of that send,
which stands behind it. Whatever operation is called there, and whatever happens next in the run,
the open connection alone is offered anything, and that is a header with exactly what it announces,
or what was not taken of that before. So it is in a life that stands alone, whatever is done or
comes.
Framing by itself would write a wrong header before a payload that no header has room for, under a
bound that lets it through.
An agent writes no such header. And the length of a frame, the header included, is a number of
sixty-four bits whatever the header announces. -/
theorem headers_announce_lengths {κ : Type} [Kernel κ] (kernel : Offering κ) (config : Config)
    (container : Option Container) (inputs : List (Input (Offering κ))) :
    let start := Channel.fresh kernel config container
    let channel := start.run inputs
    let handovers := ((⟨start, [], []⟩ : History (Offering κ)).run inputs).handovers
    (start.Admits Channel.ListensFor inputs →
      (∀ here ∈ channel :: (start.acts inputs).map (·.channel) ++ handovers.map (·.channel),
        (here.engine.isConnected = true → 0 < here.engine.config.maxMessageSize ∧
          here.engine.config.maxMessageSize ≤ Frame.lengthLimit) ∧
        ∀ call, (call.isSend = true → here.AnnouncesPayload call) ∧
          here.WritesHeaded (here.call call).2) ∧
      ∀ input, (∀ kernel, input ≠ .elapse kernel) → channel.WritesHeaded (channel.step input)) ∧
    (∀ name dnsServer allowExec affairs,
      let life := (Channel.unstarted kernel config name dnsServer allowExec).conductAll affairs
      (life.engine.isConnected = true → 0 < life.engine.config.maxMessageSize ∧
        life.engine.config.maxMessageSize ≤ Frame.lengthLimit) ∧
      (∀ call, call.isSend = true → life.AnnouncesPayload call) ∧
      ∀ affair, (∀ kernel, affair ≠ .chore (.traffic (.elapse kernel))) →
        life.WritesHeaded (life.conduct affair)) ∧
    (∀ max payload, Frame.lengthLimit < payload.length → payload.length ≤ max →
      ∃ header : Bytes, header.length = Frame.headerLength ∧
        Frame.encode max payload = .ok (header ++ payload) ∧
        Bytes.toNat header = payload.length % UInt32.size ∧
        Bytes.toNat header ≠ payload.length) ∧
    ((∀ payload bytes, Client.frame payload = .ok bytes → Frame.Announces payload bytes) ∧
      ∀ (world : Session.World) agent payload,
        (∃ error, world.writePayload agent payload = (.error error, world)) ∨
        ∃ bytes, Frame.Announces payload bytes ∧
          world.writePayload agent payload = world.write agent bytes) ∧
    ∀ a b c d : UInt8, let size := Bytes.toNat [a, b, c, d]
      (UInt64.ofNat Frame.headerLength + UInt64.ofNat size).toNat = Frame.headerLength + size := by
  intro start channel handovers
  have fresh : start.Sealed := .of_ground rfl rfl
  refine ⟨fun admits => ⟨fun here mem => ?run, fun input goes => ?next⟩,
    fun name dnsServer allowExec affairs => ?life, fun _ _ => Frame.encode_of_roomless,
    ⟨fun _ _ => Client.announces_of_frame, Session.World.writePayload_announces⟩,
    Frame.toNat_headerLength_add⟩
  case run =>
    have sealed := fresh.everywhere admits here mem
    exact ⟨sealed.bound, fun call =>
      ⟨sealed.announces_call, sealed.writes (here.call_proceeds call)⟩⟩
  case next => exact (fresh.run admits).writes_step goes
  case life =>
    have unstarted : (Channel.unstarted kernel config name dnsServer allowExec).Sealed :=
      .of_ground rfl rfl
    have sealed := unstarted.conductAll affairs
    exact ⟨sealed.bound, fun call => sealed.announces_call,
      fun affair goes => sealed.writes_conduct goes⟩

/-- A connection that outlives the rendezvous it arrived at: the bound still fits a header, and what
is offered is headed, over a part that was taken and an interruption. -/
theorem header_after_failed_accept :
    let start := Channel.fresh (⟨⟨[.wrote 3, .interrupted]⟩, []⟩ : Offering Script)
      { socketDir := "", socketName := "s" } (some .recording)
    let inputs : List (Input (Offering Script)) :=
      [.call .create, .call .bind, .call .listen, .accept 7, .acceptFailed (.os .wouldBlock)]
    let channel := start.run inputs
    let call : EngineCall := .command .suspend
    start.Admits Channel.ListensFor inputs ∧ channel.engine.connection = some ⟨1, 7⟩ ∧
      channel.engine.isListening = false ∧
      channel.engine.config.maxMessageSize ≤ Frame.lengthLimit ∧
      call.payload? channel.container = some [8, 2] ∧ channel.AnnouncesPayload call ∧
      (channel.call call).2.kernel.offers =
        [⟨7, [0, 0, 0, 2, 8, 2], .wrote 3⟩, ⟨7, [2, 8, 2], .interrupted⟩,
          ⟨7, [2, 8, 2], .wrote 3⟩] := by
  have announced (inputs : List (Input (Offering Script))) := (headers_announce_lengths
    ⟨⟨[.wrote 3, .interrupted]⟩, []⟩ { socketDir := "", socketName := "s" } (some .recording)
    inputs).1
  have atEnd {inputs : List (Input (Offering Script))} (admits) :=
    (announced inputs admits).1 _ (List.mem_append_left _ List.mem_cons_self)
  refine ⟨?admits, ?current, ?deaf, ((atEnd ?admits).1 ?connected).2, ?payload,
    ((atEnd ?admits).2 _).1 rfl, ?offers⟩
  case admits =>
    refine ⟨nofun, nofun, nofun, fun _ _ => ?_, nofun, trivial⟩
    decide +kernel
  case current => decide +kernel
  case connected => decide +kernel
  case deaf => decide +kernel
  case payload => decide +kernel
  case offers => cbv

end ServiceChannel
