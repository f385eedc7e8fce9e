import ServiceChannel.Client
import ServiceChannel.Proofs.Channel.Affairs
import ServiceChannel.Proofs.Frame.Draining

/-!
# What is kept between reads

An engine and its agent pull frames off what they have read, and keep what they left. Between two
reads that is part of a frame at most, whatever the other end sends and however it is cut.

- `Channel.handleFrames_eq_pull`, `Client.poll_eq_pull`: both ends look at their buffers by pulling.
- `Occupancy.Unfinished`: no reader keeps anything that a pull would give.
- `unfinished_conductAll`: so it is in every life; in runs it is part of `Occupancy.Sound`.
- `frames_pulled_exactly`: what a pull gives, and how little is kept.
-/

namespace ServiceChannel

/-! ## Both ends -/

/-- A client polls by pulling, and keeps what is left. -/
theorem Client.poll_eq_pull (client : Client) :
    client.poll =
      let (pulled, left) := Frame.pull maxMessageSize client.buffered
      ((match pulled with
        | .ok none => none
        | .ok (some payload) => some (decode payload)
        | .error error => some (.error (.ofMessage error))), ⟨left⟩) := by
  unfold poll Frame.pull
  cases Frame.split maxMessageSize client.buffered <;> rfl

namespace Channel

variable {κ : Type} [Kernel κ]

/-- An engine handles what it pulls as long as the connection stays open. It gives what is left, or
closes the connection when a header is refused. -/
theorem handleFrames_eq_pull (channel : Channel κ) (id : Nat) (buffer : Bytes) :
    channel.handleFrames id buffer =
      match Frame.pull channel.engine.config.maxMessageSize buffer with
      | (.ok none, left) => (some left, channel)
      | (.error error, _) => (none, channel.close id (.decodeFailed error))
      | (.ok (some payload), left) =>
        match channel.handlePayload payload with
        | (.error error, after) => (none, after.close id (.decodeFailed error))
        | (.ok (), after) =>
          if after.engine.isCurrent id then after.handleFrames id left else (none, after) := by
  unfold Frame.pull
  cases found : Frame.split channel.engine.config.maxMessageSize buffer with
  | incomplete => exact handleFrames_of_incomplete id found
  | oversized size => exact handleFrames_of_oversized id found
  | complete payload rest => exact handleFrames_of_complete id found

end Channel

/-! ## Lives -/

namespace Occupancy

/-- No reader keeps a complete frame, or a header that announces too much. -/
def Unfinished (occupancy : Occupancy) : Prop :=
  ∀ reader ∈ occupancy.readers,
    Frame.split occupancy.config.maxMessageSize reader.buffered = .incomplete

namespace Unfinished

variable {occupancy after : Occupancy}

theorem vacate (unfinished : occupancy.Unfinished) (cause : Cause) :
    (occupancy.vacate cause).Unfinished := by
  unfold Occupancy.vacate
  split
  · exact unfinished
  · exact fun reader mem => unfinished reader (List.mem_filter.1 mem).1

theorem handled (unfinished : occupancy.Unfinished) (handled : occupancy.Handled after) :
    after.Unfinished := by
  cases handled with
  | kept => exact unfinished
  | released => exact unfinished.vacate .released

theorem close (unfinished : occupancy.Unfinished) (id : Nat) (reason : Teardown) :
    (occupancy.close id reason).Unfinished := by
  unfold Occupancy.close
  split
  · exact unfinished.vacate _
  · exact unfinished

/-- A connection arrives with nothing read. -/
theorem enter (unfinished : occupancy.Unfinished) (socket : Handle) :
    (occupancy.enter socket).Unfinished := by
  have config : (occupancy.vacate .replaced).config = occupancy.config :=
    Occupancy.config_vacate _ _
  intro reader mem
  obtain old | new := List.mem_append.1 mem
  · exact unfinished.vacate .replaced reader old
  · rw [List.mem_singleton.1 new]
    rfl

theorem buffer (unfinished : occupancy.Unfinished) (id : Nat) {bytes : Bytes}
    (incomplete : Frame.split occupancy.config.maxMessageSize bytes = .incomplete) :
    (occupancy.buffer id bytes).Unfinished := by
  intro reader mem
  obtain ⟨before, known, rfl⟩ := List.mem_map.1 mem
  split
  · exact incomplete
  · exact unfinished before known

end Unfinished

end Occupancy

namespace Channel

variable {κ : Type} [Kernel κ]

/-- Whatever is read, no reader keeps more than part of a frame. -/
theorem unfinished_receive {channel : Channel κ} (unfinished : channel.occupancy.Unfinished)
    (id : Nat) (outcome : ReadOutcome) : (channel.receive id outcome).occupancy.Unfinished := by
  let keeps (after : Channel κ) : Prop := after.occupancy.Unfinished
  have handles (after : Channel κ) (payload : Bytes) (kept : keeps after) :
      keeps (after.handlePayload payload).2 :=
    Occupancy.Unfinished.handled kept (after.handlePayload_handled payload)
  have closes (after : Channel κ) (other : Nat) (reason : Teardown) (kept : keeps after) :
      keeps (after.close other reason) := by
    have closed := Occupancy.Unfinished.close kept other reason
    rwa [← occupancy_close] at closed
  exact receive_induction_of_incomplete handles closes
    (fun _ id _ incomplete kept => Occupancy.Unfinished.buffer kept id incomplete)
    (fun _ _ kept => kept) unfinished id outcome

theorem unfinished_attend {channel : Channel κ} (unfinished : channel.occupancy.Unfinished)
    (traffic : Traffic κ) : (channel.attend traffic).occupancy.Unfinished := by
  unfold attend
  cases traffic with
  | arrival socket =>
    dsimp only
    split
    · rw [occupancy_accept]
      exact unfinished.enter socket
    · exact unfinished
  | refusal error =>
    dsimp only
    split
    · rw [occupancy_acceptFailed]
      exact unfinished
    · exact unfinished
  | read id outcome => exact unfinished_receive unfinished id outcome
  | sweep => exact unfinished
  | elapse kernel => exact unfinished

theorem occupancy_bringUp (channel : Channel κ) :
    channel.bringUp.2.occupancy = channel.occupancy := by
  have created := channel.occupancy_create
  unfold bringUp
  split <;> rename_i done <;> rw [done] at created
  · exact created
  · rename_i between
    have bound := between.occupancy_bind
    split <;> rename_i done <;> rw [done] at bound
    · exact bound.trans created
    · exact (occupancy_listen _).trans (bound.trans created)

/-- A start that is not refused makes a new engine, which has read nothing. -/
theorem unfinished_start {channel : Channel κ} (unfinished : channel.occupancy.Unfinished)
    (config : Config) : (channel.start config).2.occupancy.Unfinished := by
  cases released : channel.engine.released with
  | false =>
    rw [start_of_active released]
    exact unfinished
  | true =>
    have begun : (channel.begun config).occupancy.Unfinished := fun reader mem => nomatch mem
    rw [← occupancy_bringUp] at begun
    cases done : (channel.begun config).bringUp with
    | mk result after =>
      rw [done] at begun
      cases result with
      | error error =>
        rw [start_of_failed released done, occupancy_setState, occupancy_release]
        exact begun.vacate .released
      | ok _ =>
        rw [start_of_done released done, occupancy_setState, occupancy_record]
        exact begun

omit [Kernel κ] in
theorem unfinished_endFinish {channel : Channel κ} (unfinished : channel.occupancy.Unfinished) :
    channel.endFinish.occupancy.Unfinished := by
  unfold endFinish
  dsimp only
  rw [occupancy_setState]
  split
  · exact unfinished
  · rw [occupancy_release]
    exact unfinished.vacate .released

omit [Kernel κ] in
theorem occupancy_takeStopRequest (channel : Channel κ) :
    channel.takeStopRequest.2.occupancy = channel.occupancy := by
  unfold takeStopRequest
  split
  · rfl
  · dsimp only
    split <;> rfl

theorem unfinished_undertake {channel : Channel κ} (unfinished : channel.occupancy.Unfinished)
    (chore : Chore κ) : (channel.undertake chore).occupancy.Unfinished := by
  cases chore with
  | start config => exact unfinished_start unfinished config
  | stop => exact unfinished.handled channel.stopContainer_handled
  | setConnectivity connectivity =>
    rwa [undertake, occupancy_setConnectivity]
  | wipe => rwa [undertake, occupancy_wipe]
  | beginFinish => rwa [undertake, occupancy_beginFinish]
  | endFinish => exact unfinished_endFinish unfinished
  | traffic traffic => exact unfinished_attend unfinished traffic

theorem unfinished_conduct {channel : Channel κ} (unfinished : channel.occupancy.Unfinished)
    (affair : Affair κ) : (channel.conduct affair).occupancy.Unfinished := by
  cases affair with
  | chore chore => exact unfinished_undertake unfinished chore
  | setState state => rwa [conduct, occupancy_setState]
  | setScreenOn on => rwa [conduct, occupancy_setScreenOn]
  | identify update => rwa [conduct, occupancy_applyIdentity]
  | exec arguments => rwa [conduct, occupancy_exec]
  | acknowledge ack => rwa [conduct, occupancy_acknowledgeAudit]
  | watch name reaction => rwa [conduct, occupancy_watch]
  | unwatch name => rwa [conduct, occupancy_unwatch]
  | takeStopRequest => rwa [conduct, occupancy_takeStopRequest]

/-- Whatever is done with a container, and whatever comes to its engine. -/
theorem unfinished_conductAll {channel : Channel κ} (unfinished : channel.occupancy.Unfinished)
    (affairs : List (Affair κ)) : (channel.conductAll affairs).occupancy.Unfinished := by
  induction affairs generalizing channel with
  | nil => exact unfinished
  | cons affair affairs ih => exact ih (unfinished_conduct unfinished affair)

end Channel

/-! ## Reads -/

theorem Occupancy.Unfinished.length_lt {occupancy : Occupancy} (unfinished : occupancy.Unfinished)
    {reader : Reader} (mem : reader ∈ occupancy.readers) :
    reader.buffered.length < Frame.headerLength + occupancy.config.maxMessageSize :=
  Frame.length_lt_of_incomplete (unfinished reader mem)

/-- A pull refuses a buffer exactly when the four bytes at its front announce too much, and then
leaves it alone; it gives a payload exactly when the buffer is its length, within the limit, the
payload and a rest, and then leaves the rest; and else it gives nothing and leaves the buffer alone.
Bytes that come behind change nothing that it gives. Pulls that follow one another take a header
each, so that they come to an end, and where they do is decided; without a refusal less is left
than a header and the limit. An engine looks for frames by pulling. So it keeps no more for a
connection between two reads, whatever happens to it and to its container. -/
theorem frames_pulled_exactly (max : Nat) (buffer : Bytes) :
    (∀ error left, Frame.pull max buffer = (.error error, left) ↔
      Frame.headerLength ≤ buffer.length ∧ max < Frame.announced buffer ∧
        error = .tooLarge (Frame.announced buffer) max ∧ left = buffer) ∧
    (∀ payload left, Frame.pull max buffer = (.ok (some payload), left) ↔
      buffer = Bytes.bigEndian Frame.headerLength payload.length ++ payload ++ left ∧
        payload.length ≤ max ∧ payload.length ≤ Frame.lengthLimit) ∧
    (∀ left, Frame.pull max buffer = (.ok none, left) ↔
      (buffer.length < Frame.headerLength ∨ Frame.announced buffer ≤ max ∧
        buffer.length < Frame.headerLength + Frame.announced buffer) ∧ left = buffer) ∧
    (∀ more, (Frame.pull max buffer).1 ≠ .ok none → Frame.pull max (buffer ++ more) =
      ((Frame.pull max buffer).1, (Frame.pull max buffer).2 ++ more)) ∧
    (∀ payloads left, Frame.Drains max buffer payloads left →
      Frame.headerLength * payloads.length ≤ buffer.length ∧
      ((∀ payload, (Frame.pull max left).1 ≠ .ok (some payload)) →
        payloads = (Frame.cut max buffer).payloads ∧ left = (Frame.cut max buffer).rest) ∧
      ((Frame.pull max left).1 = .ok none → left.length < Frame.headerLength + max)) ∧
    Frame.Drains max buffer (Frame.cut max buffer).payloads (Frame.cut max buffer).rest ∧
    (∀ payload, (Frame.pull max (Frame.cut max buffer).rest).1 ≠ .ok (some payload)) ∧
    ∀ {κ : Type} [Kernel κ],
      (∀ (channel : Channel κ) (id : Nat), channel.handleFrames id buffer =
        match Frame.pull channel.engine.config.maxMessageSize buffer with
        | (.ok none, left) => (some left, channel)
        | (.error error, _) => (none, channel.close id (.decodeFailed error))
        | (.ok (some payload), left) =>
          match channel.handlePayload payload with
          | (.error error, after) => (none, after.close id (.decodeFailed error))
          | (.ok (), after) =>
            if after.engine.isCurrent id then after.handleFrames id left else (none, after)) ∧
      (∀ (kernel : κ) (config : Config) (container : Option Container) (inputs : List (Input κ)),
        ∀ reader ∈ ((Channel.fresh kernel config container).run inputs).engine.readers,
          reader.buffered.length < Frame.headerLength + config.maxMessageSize) ∧
      ∀ (kernel : κ) (config : Config) (name : String) (dnsServer : Option String)
        (allowExec : Bool) (affairs : List (Affair κ)),
        let channel := (Channel.unstarted kernel config name dnsServer allowExec).conductAll affairs
        ∀ reader ∈ channel.engine.readers,
          reader.buffered.length < Frame.headerLength + channel.engine.config.maxMessageSize := by
  refine ⟨fun _ _ => Frame.pull_error_iff, fun _ _ => Frame.pull_some_iff,
    fun _ => Frame.pull_none_iff, fun more => Frame.pull_append more,
    fun payloads left drains => ⟨?_, drains.eq_cut, fun waits => ?_⟩, .of_cut max buffer,
    Frame.pull_rest max buffer, fun {κ} _ => ⟨fun channel id => ?_,
      fun kernel config container inputs => ?_,
      fun kernel config name dnsServer allowExec affairs => ?_⟩⟩
  · have taken := drains.length_eq
    omega
  · obtain ⟨short, -⟩ := Frame.pull_none_iff.1 (Prod.ext waits rfl)
    exact Frame.length_lt_of_incomplete (Frame.split_eq_incomplete_iff.2 short)
  · exact channel.handleFrames_eq_pull id buffer
  · intro reader mem
    have fresh : (Channel.fresh kernel config container).occupancy.Sound :=
      (History.Ledger.fresh kernel config container).sound
    have kept : ((Channel.fresh kernel config container).run inputs).occupancy.Unfinished :=
      (Channel.run_sound fresh inputs).unfinished
    have same : ((Channel.fresh kernel config container).run inputs).occupancy.config = config :=
      Channel.config_run fresh inputs
    exact same ▸ kept.length_lt mem
  · intro channel reader mem
    have unread :
        (Channel.unstarted kernel config name dnsServer allowExec).occupancy.Unfinished :=
      fun reader mem => nomatch mem
    exact (Channel.unfinished_conductAll unread affairs).length_lt mem

/-- Frames without a payload and at the limit, and then a header above it, which nothing follows. -/
example :
    Frame.Drains 2 [0, 0, 0, 0, 0, 0, 0, 2, 7, 8, 0, 0, 0, 3] [[], [7, 8]] [0, 0, 0, 3] ∧
      Frame.pull 2 [0, 0, 0, 3] = (.error (.tooLarge 3 2), [0, 0, 0, 3]) :=
  ⟨.next rfl (.next rfl (.stop _)), rfl⟩

end ServiceChannel
