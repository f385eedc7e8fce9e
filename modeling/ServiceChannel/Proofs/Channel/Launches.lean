import ServiceChannel.Proofs.Channel.Untouched
import ServiceChannel.Proofs.Kernel.Launching

/-!
# Who runs programs

Whatever a channel does, programs are run by one operation alone. Bringing up, sending, observing
and letting go run none, and so does stopping a standalone container.

- `Channel.launched`: the programs that the kernel was asked to run so far.
- `launchesOf`: the programs that are run of those that a container is asked for.
- `Channel.launched_spawn`: the operation that runs one.
- `Channel.launched_start`, `Channel.launched_setConnectivity`: the long ones that run none.
-/

namespace ServiceChannel

/-- A program can be run with these arguments: the first is its name, and none has a zero in it. -/
def runnable (arguments : List String) : Bool := !arguments.isEmpty && !arguments.any hasZero

/-- The programs that are run when a container that allows them, or does not, is asked for these. -/
def launchesOf (allowExec : Bool) (asked : List (List String)) : List (List String) :=
  if allowExec then asked.filter runnable else []

theorem launchesOf_append (allowExec : Bool) (first second : List (List String)) :
    launchesOf allowExec (first ++ second) =
      launchesOf allowExec first ++ launchesOf allowExec second := by
  unfold launchesOf
  split
  · exact List.filter_append _ _
  · rfl

theorem launchesOf_nil (allowExec : Bool) : launchesOf allowExec [] = [] := by
  cases allowExec <;> rfl

namespace Channel

variable {κ : Type}

/-- The programs that the kernel was asked to run so far. -/
def launched (channel : Channel (Launching κ)) : List (List String) := channel.kernel.launched

theorem launched_of_kernel {before after : Channel (Launching κ)}
    (same : after.kernel = before.kernel) : after.launched = before.launched :=
  congrArg Launching.launched same

/-! ## Parts of the state -/

@[simp] theorem launched_record (channel : Channel (Launching κ)) (event : Event) :
    (channel.record event).launched = channel.launched := rfl

@[simp] theorem launched_onEngine (channel : Channel (Launching κ)) (change : Engine → Engine) :
    (channel.onEngine change).launched = channel.launched := rfl

@[simp] theorem launched_onContainer (channel : Channel (Launching κ))
    (change : Container → Container) : (channel.onContainer change).launched = channel.launched :=
  rfl

@[simp] theorem launched_setState (channel : Channel (Launching κ)) (state : Lifecycle) :
    (channel.setState state).launched = channel.launched :=
  launched_of_kernel (channel.kernel_setState state)

@[simp] theorem launched_setScreenOn (channel : Channel (Launching κ)) (on : Bool) :
    (channel.setScreenOn on).launched = channel.launched :=
  launched_of_kernel (channel.kernel_setScreenOn on)

@[simp] theorem launched_wipe (channel : Channel (Launching κ)) :
    channel.wipe.launched = channel.launched :=
  launched_of_kernel channel.kernel_wipe

@[simp] theorem launched_acknowledgeAudit (channel : Channel (Launching κ)) (ack : Bytes) :
    (channel.acknowledgeAudit ack).launched = channel.launched :=
  launched_of_kernel (channel.kernel_acknowledgeAudit ack)

@[simp] theorem launched_applyIdentity (channel : Channel (Launching κ)) (update : Identity) :
    (channel.applyIdentity update).launched = channel.launched :=
  launched_of_kernel (channel.kernel_applyIdentity update)

/-! ## Letting go -/

@[simp] theorem launched_close (channel : Channel (Launching κ)) (id : Nat) (reason : Teardown) :
    (channel.close id reason).launched = channel.launched :=
  launched_of_kernel (channel.kernel_close id reason)

@[simp] theorem launched_closeRendezvous (channel : Channel (Launching κ)) :
    channel.closeRendezvous.launched = channel.launched :=
  launched_of_kernel channel.kernel_closeRendezvous

@[simp] theorem launched_release (channel : Channel (Launching κ)) :
    channel.release.launched = channel.launched :=
  launched_of_kernel channel.kernel_release

/-! ## Watchers -/

@[simp] theorem launched_watch (channel : Channel (Launching κ)) (name : String)
    (reaction : Reaction) : (channel.watch name reaction).2.launched = channel.launched :=
  launched_of_kernel (channel.kernel_watch name reaction)

@[simp] theorem launched_unwatch (channel : Channel (Launching κ)) (name : String) :
    (channel.unwatch name).launched = channel.launched :=
  launched_of_kernel (channel.kernel_unwatch name)

variable [Kernel κ]

/-! ## Sending -/

/-- Writing runs no program. -/
theorem unwritten_launched : Unwritten (Launching.launched : Launching κ → List (List String)) :=
  fun _ _ _ => rfl

@[simp] theorem launched_sendPayload (channel : Channel (Launching κ)) (payload : Bytes) :
    (channel.sendPayload payload).2.launched = channel.launched :=
  unwritten_launched.after_sendPayload channel payload

@[simp] theorem launched_sendMessage (channel : Channel (Launching κ)) (message : HostMessage) :
    (channel.sendMessage message).2.launched = channel.launched :=
  channel.launched_sendPayload message.encode

@[simp] theorem launched_sendCommand (channel : Channel (Launching κ)) (command : Command) :
    (channel.sendCommand command).2.launched = channel.launched := by
  unfold sendCommand
  dsimp only
  split
  · split <;> rfl
  · split
    · rfl
    · rename_i message _
      have kept := (channel.record (.sendingCommand command)).launched_sendMessage message
      split <;> rename_i sent <;> rw [sent] at kept <;> exact kept

@[simp] theorem launched_sendName (channel : Channel (Launching κ)) :
    channel.sendName.2.launched = channel.launched := by
  unfold sendName
  split <;> simp

@[simp] theorem launched_sendDns (channel : Channel (Launching κ)) :
    channel.sendDns.2.launched = channel.launched := by
  unfold sendDns
  split <;> simp

/-! ## Setting the connectivity -/

@[simp] theorem launched_setConnectivity (channel : Channel (Launching κ))
    (connectivity : Connectivity) :
    (channel.setConnectivity connectivity).launched = channel.launched :=
  unwritten_launched.after_setConnectivity channel connectivity

/-! ## Bringing up -/

/-- Which programs were run is no business of sockets. -/
theorem untouched_launched : Untouched (Launching.launched : Launching κ → List (List String)) where
  openSocket _ := rfl
  entry _ _ := rfl
  remove _ _ := rfl
  bind _ _ _ := rfl
  listen _ _ _ := rfl
  close _ _ := rfl

@[simp] theorem launched_closeRetired (channel : Channel (Launching κ)) :
    channel.closeRetired.launched = channel.launched :=
  untouched_launched.after_closeRetired channel

@[simp] theorem launched_start (channel : Channel (Launching κ)) (config : Config) :
    (channel.start config).2.launched = channel.launched :=
  untouched_launched.after_start channel config

/-! ## Running programs -/

/-- A program is run if it has a name and no argument has a zero in it. -/
theorem launched_spawn (channel : Channel (Launching κ)) (arguments : List String) :
    (channel.spawn arguments).2.launched = channel.launched ++ [arguments].filter runnable := by
  unfold spawn
  cases empty : arguments.isEmpty with
  | true => simp [runnable, empty]
  | false =>
    cases zero : arguments.any hasZero with
    | true => simp [runnable, empty, zero]
    | false =>
      rw [List.filter_cons_of_pos (by simp [runnable, empty, zero]), if_neg nofun, if_neg nofun]
      split <;> rename_i ran <;> obtain ⟨-, rfl⟩ := Prod.mk.inj ran <;> rfl

/-- A container that stands on its own runs a program if it allows them, and else does nothing. -/
theorem StandsAlone.launched_exec {channel : Channel (Launching κ)} {allowExec : Bool}
    (alone : channel.StandsAlone allowExec) (arguments : List String) :
    (channel.exec arguments).2.launched =
      channel.launched ++ launchesOf allowExec [arguments] := by
  obtain ⟨container, standalone, there, role, rfl⟩ := alone.container
  unfold exec launchesOf
  rw [there]
  dsimp only
  rw [role]
  dsimp only
  split
  · exact channel.launched_spawn arguments
  · exact (List.append_nil _).symm

theorem StandsAlone.launched_stopContainer {channel : Channel (Launching κ)} {allowExec : Bool}
    (alone : channel.StandsAlone allowExec) :
    channel.stopContainer.launched = channel.launched := by
  obtain ⟨container, standalone, there, role, -⟩ := alone.container
  have asked : channel.requestShutdown.2.launched = channel.launched := by
    unfold requestShutdown
    split <;> simp
  unfold stopContainer requestStop
  rw [there]
  dsimp only
  rw [role]
  dsimp only
  split <;> rename_i answered <;> rw [answered] at asked <;> simpa using asked

end Channel
end ServiceChannel
