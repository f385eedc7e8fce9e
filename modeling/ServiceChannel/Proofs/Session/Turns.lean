import ServiceChannel.Proofs.Channel.Ties
import ServiceChannel.Proofs.Channel.Traffic
import ServiceChannel.Session.Run

/-!
# Turns as traffic

Whatever a session lets happen between the operations on its host is traffic to the host: turns go
by, and agents connect, write, read and leave. Connections are accepted in turns only, and there
only at the socket that listens.

- `Attends`: the host comes to be as some traffic leaves it.
- `World.turn_attends`, `World.settle_attends`: turns.
- `World.takeAgent_attends`, `World.failAccept_attends`: what agents do.
-/

namespace ServiceChannel.Session

/-- The host comes to be as some traffic leaves it. -/
def Attends (before after : Host) : Prop :=
  ∃ traffic, after = before.attendAll traffic

namespace Attends

theorem of_eq {before after : Host} (same : after = before) : Attends before after := ⟨[], same⟩

theorem refl (host : Host) : Attends host host := .of_eq rfl

theorem one (host : Host) (traffic : Traffic Network) : Attends host (host.attend traffic) :=
  ⟨[traffic], rfl⟩

theorem trans {first second third : Host} (before : Attends first second)
    (after : Attends second third) : Attends first third := by
  obtain ⟨early, rfl⟩ := before
  obtain ⟨late, rfl⟩ := after
  exact ⟨early ++ late, (Channel.attendAll_append first early late).symm⟩

/-- The network goes on. -/
theorem elapse (host : Host) (network : Network) : Attends host { host with kernel := network } :=
  one host (.elapse network)

theorem sweep (host : Host) : Attends host host.closeRetired := one host .sweep

theorem read (host : Host) (id : Nat) (outcome : ReadOutcome) :
    Attends host (host.receive id outcome) := one host (.read id outcome)

theorem arrival {host : Host} (listens : host.engine.isListening = true) (socket : Handle) :
    Attends host (host.accept socket) := ⟨[.arrival socket], (if_pos listens).symm⟩

theorem refusal {host : Host} (listens : host.engine.isListening = true) (error : SystemError) :
    Attends host (host.acceptFailed error) := ⟨[.refusal error], (if_pos listens).symm⟩

/-- Changes that follow one another are traffic if each of them is. -/
theorem foldl {State Item : Type} {host : State → Host} {change : State → Item → State}
    (each : ∀ state item, Attends (host state) (host (change state item)))
    (state : State) (items : List Item) :
    Attends (host state) (host (items.foldl change state)) := by
  induction items generalizing state with
  | nil => exact refl _
  | cons item items ih => exact (each state item).trans (ih (change state item))

end Attends

namespace World

/-! ## Turns -/

theorem isListening_accept (host : Host) (socket : Handle) :
    (host.accept socket).engine.isListening = host.engine.isListening :=
  congrArg (·.rendezvous.isListening) (host.ties_accept socket)

theorem isListening_of_listensAt {world : World} {socket : Handle}
    (listens : world.listensAt socket = true) : world.host.engine.isListening = true := by
  unfold listensAt at listens
  unfold Engine.isListening
  split at listens
  · rename_i found
    rw [found]
    rfl
  · cases listens

/-- Accepting all that wait: the rendezvous goes on listening meanwhile. -/
theorem acceptUpTo_attends (count : Nat) {world : World}
    (listens : world.host.engine.isListening = true) (listener : Handle) :
    Attends world.host (acceptUpTo count world listener).host := by
  induction count generalizing world with
  | zero => exact .refl _
  | succ count ih =>
    unfold acceptUpTo
    split
    · rename_i socket network _
      let next := world.withNetwork network
      have listens : next.host.engine.isListening = true := listens
      have arrived : Attends world.host (next.host.accept socket) :=
        (Attends.elapse world.host network).trans (.arrival listens socket)
      have still : (next.onHost (·.accept socket)).host.engine.isListening = true :=
        (isListening_accept next.host socket).trans listens
      exact arrived.trans (ih still)
    · exact .refl _

theorem acceptAll_attends {world : World} (listens : world.host.engine.isListening = true)
    (listener : Handle) : Attends world.host (world.acceptAll listener).host := by
  unfold acceptAll
  split
  · exact .refusal listens _
  · split
    · exact acceptUpTo_attends _ listens listener
    · exact .refl _

theorem readUpTo_attends (count : Nat) (world : World) (socket : Handle) :
    Attends world.host (readUpTo count world socket).host := by
  induction count generalizing world with
  | zero => exact .refl _
  | succ count ih =>
    unfold readUpTo
    split
    · exact .refl _
    · rename_i reader _
      dsimp only
      generalize world.network.read socket _ = brought
      obtain ⟨outcome, network⟩ := brought
      have received : Attends world.host
          ((world.withNetwork network).onHost (·.receive reader.connection outcome)).host :=
        (Attends.elapse world.host network).trans (.read _ reader.connection outcome)
      dsimp only
      split
      · exact received.trans (ih _)
      · exact received

theorem readAll_attends (world : World) (socket : Handle) :
    Attends world.host (world.readAll socket).host := by
  unfold readAll
  split
  · exact readUpTo_attends _ world socket
  · exact .refl _

theorem attendTo_attends (world : World) (socket : Handle) :
    Attends world.host (world.attendTo socket).host := by
  have worked : Attends world.host
      (if world.listensAt socket then world.acceptAll socket else world.readAll socket).host := by
    split
    · rename_i listens
      exact acceptAll_attends (isListening_of_listensAt listens) socket
    · exact world.readAll_attends socket
  exact worked.trans (.sweep _)

theorem work_attends (world : World) : Attends world.host world.work.host :=
  (Attends.sweep world.host).trans (Attends.foldl attendTo_attends _ world.woken)

/-- Telling of what happened leaves the host alone. -/
theorem host_tell (world : World) (socket : Handle) : (world.tell socket).2.host = world.host := by
  unfold tell
  split
  · split <;> rfl
  · split
    · rfl
    · split <;> rfl
  · rfl

theorem tellAll_attends (world : World) : Attends world.host world.tellAll.2.host := by
  let next (state : Bool × World) (socket : Handle) : Bool × World :=
    (state.1 || (state.2.tell socket).1, (state.2.tell socket).2)
  have told (state : Bool × World) (socket : Handle) :
      Attends state.2.host (next state socket).2.host := .of_eq (host_tell state.2 socket)
  have taken : Attends world.host (world.withNetwork world.network.takeNews.2).host := .elapse _ _
  exact taken.trans (@Attends.foldl (Bool × World) Handle (·.2.host) next told
    (false, world.withNetwork world.network.takeNews.2) world.network.takeNews.1)

theorem turn_attends (world : World) : Attends world.host world.turn.2.host :=
  world.work_attends.trans world.work.tellAll_attends

theorem turns_attends (count : Nat) (world : World) :
    Attends world.host (turns count world).host := by
  induction count generalizing world with
  | zero => exact .refl _
  | succ count ih =>
    have turned := world.turn_attends
    unfold turns
    split <;> rename_i next result <;> rw [result] at turned
    · exact turned.trans (ih next)
    · exact turned

theorem settle_attends (world : World) : Attends world.host world.settle.host :=
  turns_attends world.patience world

/-! ## Agents -/

/-- The network goes on, and nothing else of the host does. -/
theorem onNetwork_attends (world : World) (change : Network → Network) :
    Attends world.host (world.onNetwork change).host := .elapse _ _

theorem dropAgent_attends (world : World) (name : String) :
    Attends world.host (world.dropAgent name).host := by
  unfold dropAgent
  split
  · exact .elapse _ _
  · exact .refl _

theorem dial_attends {world after : World} {path : String} {socket : Handle}
    (dialed : world.dial path = .ok (socket, after)) : Attends world.host after.host := by
  unfold dial at dialed
  split at dialed
  · cases dialed
  · split at dialed
    · cases dialed
    · cases dialed
      exact .elapse _ _

theorem connect_attends (world : World) (name : String) :
    Attends world.host (world.connect name).2.host := by
  unfold connect
  split
  · exact .refl _
  · rename_i socket dialed found
    have turned := (dial_attends found).trans dialed.turn_attends
    dsimp only
    split
    · exact turned.trans (onNetwork_attends _ _)
    · exact turned.trans (dropAgent_attends _ _)

theorem writeUpTo_attends (count : Nat) (world : World) (socket : Handle) (bytes : Bytes) :
    Attends world.host (writeUpTo count world socket bytes).2.host := by
  induction count generalizing world bytes with
  | zero => exact .refl _
  | succ count ih =>
    unfold writeUpTo
    split
    · exact .refl _
    · split
      · rename_i written network _
        have wrote : Attends world.host (world.withNetwork network).host := .elapse _ _
        exact wrote.trans (ih _ _)
      · exact world.turn_attends.trans (ih _ _)
      · exact .refl _
      · exact ih _ _

theorem write_attends (world : World) (agent : Agent) (bytes : Bytes) :
    Attends world.host (world.write agent bytes).2.host :=
  writeUpTo_attends (writePatience bytes) world agent.socket bytes

theorem writePayload_attends (world : World) (agent : Agent) (payload : Bytes) :
    Attends world.host (world.writePayload agent payload).2.host := by
  unfold writePayload
  split
  · exact .refl _
  · exact world.write_attends agent _

theorem receiveUpTo_attends (count : Nat) (world : World) (agent : Agent) :
    Attends world.host (receiveUpTo count world agent).2.2.host := by
  induction count generalizing world agent with
  | zero => exact .refl _
  | succ count ih =>
    unfold receiveUpTo
    split
    · dsimp only
      have read : Attends world.host (world.withNetwork _).host :=
        .elapse world.host (world.network.read agent.socket
          ((readyWindow agent).room agent.client.buffered.length)).2
      split
      · exact read
      · split
        · exact read
        · exact read.trans (ih _ _)
    · exact .refl _

theorem receiveNow_attends (world : World) (name : String) :
    Attends world.host (world.receiveNow name).2.host := by
  unfold receiveNow
  split
  · exact .refl _
  · split
    · exact .refl _
    · dsimp only
      exact receiveUpTo_attends _ world _

theorem receiveWithin_attends (count : Nat) (world : World) (name : String) :
    Attends world.host (receiveWithin count world name).2.host := by
  induction count generalizing world with
  | zero => exact world.receiveNow_attends name
  | succ count ih =>
    have looked := world.receiveNow_attends name
    unfold receiveWithin
    split <;> rename_i after result <;> rw [result] at looked
    · exact looked
    · have turned := looked.trans after.turn_attends
      split <;> rename_i next result <;> rw [result] at turned
      · exact turned.trans (ih next)
      · exact turned

theorem takeConnected_attends (world : World) (name : String) (agent : Agent) (step : AgentStep) :
    Attends world.host (world.takeConnected name agent step).2.host := by
  cases step with
  | connect => exact .refl _
  | drop => exact .refl _
  | send message => exact world.writePayload_attends agent message.encode
  | sendPayload payload => exact world.writePayload_attends agent payload
  | sendBytes bytes => exact world.write_attends agent bytes
  | halfClose => exact world.onNetwork_attends _
  | receive =>
    have received : Attends world.host (world.receive name).2.host :=
      receiveWithin_attends _ world name
    rw [takeConnected]
    split <;> rename_i result <;> rw [result] at received <;> exact received

/-- Whatever an agent does is traffic to the host. -/
theorem takeAgent_attends (world : World) (name : String) (step : AgentStep) :
    Attends world.host (world.takeAgent name step).2.host := by
  cases step with
  | connect => exact world.connect_attends name
  | drop => exact world.dropAgent_attends name
  | _ =>
    unfold takeAgent
    dsimp only
    split
    · exact world.takeConnected_attends name _ _
    · exact .refl _

/-- So is an arrival that cannot be accepted. -/
theorem failAccept_attends (world : World) : Attends world.host world.failAccept.2.host := by
  unfold failAccept
  split
  · exact .refl _
  · rename_i socket dialed found
    have settled := (onNetwork_attends dialed _).trans (settle_attends (dialed.setExhausted true))
    exact (dial_attends found).trans
      (settled.trans ((onNetwork_attends _ _).trans (onNetwork_attends _ _)))

end World
end ServiceChannel.Session
