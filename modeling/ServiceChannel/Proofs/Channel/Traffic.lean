import ServiceChannel.Proofs.Channel.Generations

/-!
# Traffic

What comes to a channel by itself, between the operations that are called on it: connections
arrive, reads give what they give, sockets are closed and the kernel goes on. A connection can only
arrive where a socket listens: `accept_task` lives as long as the rendezvous that `start_pre_exec`
put to listening, and `connection_task` as long as its connection.

- `Traffic`, `Channel.attend`, `Channel.attendAll`: what comes, and what the channel makes of it.
- `Channel.receive_induction`: what holds whatever is read.
- `Channel.tidy_attend`: only the open connection is read.
- `Channel.accepted_attend`: connections are accepted while the rendezvous listens, one at a time.
-/

namespace ServiceChannel

/-- What comes to a channel by itself. -/
inductive Traffic (κ : Type) where
  /-- A connection waits at the rendezvous, and `accept_task` accepts it at this socket. -/
  | arrival (socket : Handle)
  /-- A connection waits at the rendezvous, and `accept_task` cannot accept it. -/
  | refusal (error : SystemError)
  /-- One read of the `connection_task` of a connection gives this. -/
  | read (id : Nat) (outcome : ReadOutcome)
  /-- The sockets that were let go of are closed. -/
  | sweep
  /-- The kernel goes on. -/
  | elapse (kernel : κ)

/-- The same with another kernel around the one that goes on. -/
def Traffic.map {κ ι : Type} (wrap : κ → ι) : Traffic κ → Traffic ι
  | .arrival socket => .arrival socket
  | .refusal error => .refusal error
  | .read id outcome => .read id outcome
  | .sweep => .sweep
  | .elapse kernel => .elapse (wrap kernel)

namespace Channel

variable {κ : Type} [Kernel κ]

/-- What the channel makes of one thing that comes. Where no socket listens nobody waits. -/
def attend (channel : Channel κ) : Traffic κ → Channel κ
  | .arrival socket => if channel.engine.isListening then channel.accept socket else channel
  | .refusal error => if channel.engine.isListening then channel.acceptFailed error else channel
  | .read id outcome => channel.receive id outcome
  | .sweep => channel.closeRetired
  | .elapse kernel => { channel with kernel := kernel }

/-- What the channel makes of all that comes, one after the other. -/
def attendAll (channel : Channel κ) (traffic : List (Traffic κ)) : Channel κ :=
  traffic.foldl attend channel

theorem attendAll_append (channel : Channel κ) (first second : List (Traffic κ)) :
    channel.attendAll (first ++ second) = (channel.attendAll first).attendAll second :=
  List.foldl_append

/-! ## Reads -/

theorem handleFrames_induction {motive : Channel κ → Prop}
    (handles : ∀ channel payload, motive channel → motive (channel.handlePayload payload).2)
    (closes : ∀ channel id reason, motive channel → motive (channel.close id reason))
    {channel : Channel κ} (start : motive channel) (id : Nat) (buffer : Bytes) :
    motive (channel.handleFrames id buffer).2 := by
  generalize limit : channel.engine.config.maxMessageSize = max
  induction buffer using Frame.splitInduction max generalizing channel with
  | incomplete buffer found =>
    subst limit
    rw [handleFrames_of_incomplete id found]
    exact start
  | oversized buffer size found =>
    subst limit
    rw [handleFrames_of_oversized id found]
    exact closes _ id (.decodeFailed _) start
  | complete buffer payload rest found ih =>
    subst limit
    have next := handles channel payload start
    have config := config_handlePayload channel payload
    rw [handleFrames_of_complete id found]
    split
    · rename_i error after handled
      rw [handled] at next
      exact closes after id (.decodeFailed error) next
    · rename_i after handled
      rw [handled] at next config
      split
      · exact ih next (by rw [config])
      · exact next

/-- What is left of a buffer in the end gives nothing more. -/
theorem split_of_handleFrames {channel after : Channel κ} {id : Nat} {buffer left : Bytes}
    (handled : channel.handleFrames id buffer = (some left, after)) :
    Frame.split after.engine.config.maxMessageSize left = .incomplete := by
  generalize limit : channel.engine.config.maxMessageSize = max at *
  induction buffer using Frame.splitInduction max generalizing channel with
  | incomplete buffer found =>
    subst limit
    rw [handleFrames_of_incomplete id found] at handled
    cases handled
    exact found
  | oversized buffer size found =>
    subst limit
    rw [handleFrames_of_oversized id found] at handled
    cases handled
  | complete buffer payload rest found ih =>
    subst limit
    have config := config_handlePayload channel payload
    rw [handleFrames_of_complete id found] at handled
    split at handled
    · cases handled
    · rename_i next done
      rw [done] at config
      split at handled
      · exact ih handled (by rw [config])
      · cases handled

/-- What holds whatever is read: it stays when a payload is handled, when a connection is closed,
when part of a frame is left in a buffer, and when a line is logged. -/
theorem receive_induction_of_incomplete {motive : Channel κ → Prop}
    (handles : ∀ channel payload, motive channel → motive (channel.handlePayload payload).2)
    (closes : ∀ channel id reason, motive channel → motive (channel.close id reason))
    (buffers : ∀ channel id bytes,
      Frame.split channel.engine.config.maxMessageSize bytes = .incomplete → motive channel →
        motive (channel.onEngine (·.setBuffered id bytes)))
    (records : ∀ channel event, motive channel → motive (channel.record event))
    {channel : Channel κ} (start : motive channel) (id : Nat) (outcome : ReadOutcome) :
    motive (channel.receive id outcome) := by
  unfold receive
  split
  · exact start
  · rename_i reader _
    split
    · rename_i bytes
      have handled := handleFrames_induction handles closes
        (buffers _ reader.connection [] rfl start) reader.connection (reader.buffered ++ bytes)
      unfold handleBytes
      dsimp only
      split <;> rename_i result <;> rw [result] at handled
      · exact handled
      · exact buffers _ _ _ (split_of_handleFrames result) handled
    · have handled := handleFrames_induction handles closes start reader.connection reader.buffered
      unfold handleEnd
      split <;> rename_i result <;> rw [result] at handled
      · exact handled
      · dsimp only
        split
        · exact closes _ _ _ handled
        · exact closes _ _ _ (records _ _ handled)
    · exact start
    · exact start
    · exact closes _ _ _ start

/-- So it is if it stays whatever is left in a buffer. -/
theorem receive_induction {motive : Channel κ → Prop}
    (handles : ∀ channel payload, motive channel → motive (channel.handlePayload payload).2)
    (closes : ∀ channel id reason, motive channel → motive (channel.close id reason))
    (buffers : ∀ channel id bytes, motive channel →
      motive (channel.onEngine (·.setBuffered id bytes)))
    (records : ∀ channel event, motive channel → motive (channel.record event))
    {channel : Channel κ} (start : motive channel) (id : Nat) (outcome : ReadOutcome) :
    motive (channel.receive id outcome) :=
  receive_induction_of_incomplete handles closes
    (fun channel id bytes _ => buffers channel id bytes) records start id outcome

/-! ## Readers -/

/-- The open connection has a reader and there is no other, whatever is read. -/
theorem tidy_receive {channel : Channel κ} (tidy : channel.occupancy.Tidy) (id : Nat)
    (outcome : ReadOutcome) : (channel.receive id outcome).occupancy.Tidy := by
  let keeps (after : Channel κ) : Prop := after.occupancy.Tidy
  have handles (after : Channel κ) (payload : Bytes) (kept : keeps after) :
      keeps (after.handlePayload payload).2 :=
    Occupancy.Tidy.handled kept (after.handlePayload_handled payload)
  have closes (after : Channel κ) (other : Nat) (reason : Teardown) (kept : keeps after) :
      keeps (after.close other reason) := by
    have closed := Occupancy.Tidy.close kept other reason
    rwa [← occupancy_close] at closed
  exact receive_induction handles closes
    (fun _ _ _ kept => Occupancy.Tidy.buffer kept _ _) (fun _ _ kept => kept) tidy id outcome

/-- So it is whatever comes. -/
theorem tidy_attend {channel : Channel κ} (tidy : channel.occupancy.Tidy) (traffic : Traffic κ) :
    (channel.attend traffic).occupancy.Tidy := by
  cases traffic with
  | arrival socket =>
    unfold attend
    dsimp only
    split
    · rw [occupancy_accept]
      exact tidy.enter socket
    · exact tidy
  | refusal error =>
    unfold attend
    dsimp only
    split
    · rw [occupancy_acceptFailed]
      exact tidy
    · exact tidy
  | read id outcome => exact tidy_receive tidy id outcome
  | sweep => exact tidy
  | elapse kernel => exact tidy

/-! ## Arrivals -/

/-- Reading accepts no connection. -/
theorem accepted_receive (channel : Channel κ) (id : Nat) (outcome : ReadOutcome) :
    (channel.receive id outcome).engine.accepted = channel.engine.accepted := by
  let keeps (after : Channel κ) : Prop := after.occupancy.accepted = channel.occupancy.accepted
  have handles (after : Channel κ) (payload : Bytes) (kept : keeps after) :
      keeps (after.handlePayload payload).2 := by
    have handled := handlePayload_handled after payload
    refine Eq.trans ?_ kept
    generalize (after.handlePayload payload).2.occupancy = next at handled
    cases handled with
    | kept => rfl
    | released => exact Occupancy.accepted_vacate _ _
  have closes (after : Channel κ) (other : Nat) (reason : Teardown) (kept : keeps after) :
      keeps (after.close other reason) := by
    refine Eq.trans ?_ kept
    rw [occupancy_close, Occupancy.close]
    split
    · exact Occupancy.accepted_vacate _ _
    · rfl
  exact receive_induction handles closes (fun _ _ _ kept => kept) (fun _ _ kept => kept) rfl id
    outcome

/-- A connection is accepted when it arrives where a socket listens, and otherwise none is. -/
theorem accepted_attend (channel : Channel κ) (traffic : Traffic κ) :
    (channel.attend traffic).engine.accepted = channel.engine.accepted ∨
      channel.engine.isListening = true ∧ (∃ socket, traffic = .arrival socket) ∧
        (channel.attend traffic).engine.accepted = channel.engine.accepted + 1 := by
  cases traffic with
  | arrival socket =>
    unfold attend
    dsimp only
    split
    · rename_i listens
      refine .inr ⟨listens, ⟨socket, rfl⟩, ?_⟩
      exact congrArg Occupancy.accepted (occupancy_accept channel socket)
    · exact .inl rfl
  | refusal error =>
    unfold attend
    dsimp only
    split
    · exact .inl (congrArg Occupancy.accepted (occupancy_acceptFailed channel error))
    · exact .inl rfl
  | read id outcome => exact .inl (accepted_receive channel id outcome)
  | sweep => exact .inl rfl
  | elapse kernel => exact .inl rfl

end Channel
end ServiceChannel
