import ServiceChannel.Proofs.Channel.Phases
import ServiceChannel.Proofs.Channel.Untouched

/-!
# Binding to a path

Binding (`bind_rendezvous`) asks the kernel for two things: that the way to the path is cleared of a
socket that was left there (`remove_stale_socket`), and that the socket gets an entry. Before it
asks for either, it looks at the path itself.

- `Kernel.clear`: clearing the way, as the kernel takes it.
- `Channel.bindAt_of_zero`, `Channel.bindAt_of_named`: what is asked of the kernel, and what the
  answers come to.
- `Channel.bind_of_created`, `Channel.listen_ok_iff`: the phases in their turn.
-/

namespace ServiceChannel

/-- Clears the way to a path: a socket that was left there is removed, and nothing else is. -/
def Kernel.clear {κ : Type} [Kernel κ] (kernel : κ) (path : String) :
    Except SystemError Unit × κ :=
  match Kernel.entry kernel path with
  | (.error error, kernel) => (if error = .os .noEntry then .ok () else .error error, kernel)
  | (.ok .socket, kernel) => Kernel.remove kernel path
  | (.ok _, kernel) => (.error .notSocket, kernel)

namespace Channel

variable {κ : Type} [Kernel κ] (channel : Channel κ) {socket : Handle} {path : String}

/-! ## Clearing the way -/

/-- A path with a zero in it is refused before the kernel is asked. -/
theorem removeStale_of_zero (zero : hasZero path = true) :
    channel.removeStale path = (.error .zeroInFileName, channel) :=
  if_pos zero

/-- Else the kernel clears the way. -/
theorem removeStale_of_named (named : hasZero path = false) :
    ((channel.removeStale path).1, (channel.removeStale path).2.kernel) =
      Kernel.clear channel.kernel path := by
  unfold removeStale Kernel.clear
  rw [if_neg (by rw [named]; nofun)]
  generalize Kernel.entry channel.kernel path = answer
  rcases answer with ⟨_ | kind, kernel⟩
  · rfl
  · cases kind <;> rfl

/-! ## Binding -/

theorem bindAt_of_zero (socket : Handle) (zero : hasZero path = true) :
    channel.bindAt socket path = (.error .zeroInFileName, channel) := by
  rw [bindAt, channel.removeStale_of_zero zero]

/-- What binding comes to, once the path is looked at: the kernel clears the way, the path has to be
an address, and the kernel binds the socket. -/
theorem bindAt_of_named (socket : Handle) (named : hasZero path = false) :
    ((channel.bindAt socket path).1, (channel.bindAt socket path).2.kernel) =
      match Kernel.clear channel.kernel path, addressFault? path with
      | (.error error, kernel), _ => (.error error, kernel)
      | (.ok (), kernel), some errno => (.error (.os errno), kernel)
      | (.ok (), kernel), none => Kernel.bind kernel socket path := by
  have cleared := channel.removeStale_of_named named
  rw [← cleared, bindAt]
  generalize channel.removeStale path = answer
  rcases answer with ⟨_ | _, after⟩
  · rfl
  · dsimp only
    cases addressFault? path with
    | some errno => rfl
    | none =>
      dsimp only
      generalize Kernel.bind after.kernel socket path = bound
      rcases bound with ⟨_ | _, kernel⟩ <;> rfl

/-- A path that is an address is bound if the kernel does its part. -/
theorem bindAt_ok_iff (socket : Handle) (named : hasZero path = false)
    (fits : addressFault? path = none) :
    (channel.bindAt socket path).1 = .ok () ↔ (Kernel.clear channel.kernel path).1 = .ok () ∧
      (Kernel.bind (Kernel.clear channel.kernel path).2 socket path).1 = .ok () := by
  have bound := congrArg Prod.fst (channel.bindAt_of_named socket named)
  dsimp only at bound
  rw [bound, fits]
  generalize Kernel.clear channel.kernel path = cleared
  rcases cleared with ⟨_ | _, kernel⟩ <;> simp

/-! ## The phases in their turn -/

omit [Kernel κ] in
theorem rendezvous_closeRendezvous : channel.closeRendezvous.engine.rendezvous = .closed :=
  congrArg (·.engine.rendezvous) channel.holdings_closeRendezvous

theorem bind_of_created (turn : channel.engine.rendezvous = .created socket) :
    channel.bind =
      match channel.bindAt socket channel.engine.config.socketPath with
      | (.error error, after) =>
        (.error (.bind channel.engine.config.socketPath error), after.closeRendezvous)
      | (.ok (), after) => (.ok (), after.setRendezvous (.bound socket)) := by
  unfold bind
  split
  · rename_i other created
    obtain rfl := Rendezvous.created.inj (turn.symm.trans created)
    rfl
  · rename_i other
    exact absurd turn (other socket)

/-- The phase says why binding failed, beside the path. -/
theorem bind_fst (turn : channel.engine.rendezvous = .created socket) :
    channel.bind.1 = (channel.bindAt socket channel.engine.config.socketPath).1.mapError
      (.bind channel.engine.config.socketPath) := by
  rw [channel.bind_of_created turn]
  generalize channel.bindAt socket channel.engine.config.socketPath = tried
  rcases tried with ⟨_ | _, _⟩ <;> rfl

/-- What the kernel is asked for is what binding asks for. -/
theorem kernel_bind (turn : channel.engine.rendezvous = .created socket) :
    channel.bind.2.kernel =
      (channel.bindAt socket channel.engine.config.socketPath).2.kernel := by
  rw [channel.bind_of_created turn]
  generalize channel.bindAt socket channel.engine.config.socketPath = tried
  rcases tried with ⟨_ | _, after⟩
  · exact after.kernel_closeRendezvous
  · rfl

/-- A rendezvous that is not bound is closed. -/
theorem rendezvous_bind (turn : channel.engine.rendezvous = .created socket) :
    channel.bind.2.engine.rendezvous = if channel.bind.1.isOk then .bound socket else .closed := by
  rw [channel.bind_of_created turn]
  generalize channel.bindAt socket channel.engine.config.socketPath = tried
  rcases tried with ⟨_ | _, after⟩
  · exact after.rendezvous_closeRendezvous
  · rfl

omit [Kernel κ] in
/-- Whether the container takes an observer is up to the container alone. -/
theorem isOk_register_of_container {after : Channel κ} (same : after.container = channel.container)
    (observer : Observer) :
    (after.register observer).1.isOk = (channel.register observer).1.isOk := by
  unfold register
  rw [same]
  split <;> rfl

/-- The phase succeeds if the backlog is one, the kernel does its part and the container takes an
observer. -/
theorem listen_ok_iff (turn : channel.engine.rendezvous = .bound socket) :
    channel.listen.1 = .ok () ↔
      backlogFault? channel.engine.config.backlog = none ∧
        (Kernel.listen channel.kernel socket channel.engine.config.backlog).1 = .ok () ∧
        (channel.register .bridge).1.isOk = true := by
  rw [listen, turn]
  dsimp only
  unfold listenAt
  cases backlogFault? channel.engine.config.backlog with
  | some errno => simp
  | none =>
    dsimp only
    generalize Kernel.listen channel.kernel socket channel.engine.config.backlog = answer
    rcases answer with ⟨error | _, kernel⟩
    · simp
    · dsimp only
      generalize moved : { channel with kernel := kernel }.setRendezvous (.listening socket) = next
      have same : next.container = channel.container := by rw [← moved]; rfl
      rw [← channel.isOk_register_of_container same, subscribe]
      generalize next.register .bridge = registered
      rcases registered with ⟨error | id, after⟩ <;> simp [Except.isOk, Except.toBool]

/-- A backlog that is none is refused before the kernel is asked. -/
theorem listen_of_fault (turn : channel.engine.rendezvous = .bound socket) {errno : Errno}
    (fault : backlogFault? channel.engine.config.backlog = some errno) :
    channel.listen = (.error (.listen (.os errno)), channel.closeRendezvous) := by
  rw [listen, turn]
  dsimp only
  rw [listenAt, fault]

end Channel
end ServiceChannel
