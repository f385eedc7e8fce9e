import ServiceChannel.Proofs.Channel.Acts
import ServiceChannel.Proofs.Channel.Affairs

/-!
# What operations leave alone in a kernel

Bringing up, letting go and observing neither write nor run programs. So what of a kernel only
writing or running a program can change is the same after them; and what writing does not change is
the same after all that only writes.

- `Untouched`: what only writing and running programs can change.
- `Untouched.after_start`, `Untouched.after_closeRetired`: the operations that ask the kernel for
  other things.
- `Unwritten`: what writing does not change.
- `Unwritten.after_sendPayload`, `Unwritten.after_setConnectivity`: the operations that write.
- `Channel.kernel_release`, `Channel.kernel_watch`, `Channel.kernel_unwatch`: those that do not ask.
- `Channel.kernel_create_cases`, `Channel.kernel_listen_cases`: those that ask for one thing.
-/

namespace ServiceChannel

/-- Only writing and running programs can change this part of a kernel. -/
structure Untouched {κ Part : Type} [Kernel κ] (part : κ → Part) : Prop where
  openSocket : ∀ kernel, part (Kernel.openSocket kernel).2 = part kernel
  entry : ∀ kernel path, part (Kernel.entry kernel path).2 = part kernel
  remove : ∀ kernel path, part (Kernel.remove kernel path).2 = part kernel
  bind : ∀ kernel socket path, part (Kernel.bind kernel socket path).2 = part kernel
  listen : ∀ kernel socket backlog, part (Kernel.listen kernel socket backlog).2 = part kernel
  close : ∀ kernel socket, part (Kernel.close kernel socket) = part kernel

/-- Writing does not change this part of a kernel. -/
def Unwritten {κ Part : Type} [Kernel κ] (part : κ → Part) : Prop :=
  ∀ kernel socket buffer, part (Kernel.send kernel socket buffer).2 = part kernel

namespace Channel

variable {κ : Type}

/-! ## Letting go -/

@[simp] theorem kernel_close (channel : Channel κ) (id : Nat) (reason : Teardown) :
    (channel.close id reason).kernel = channel.kernel := by
  unfold close
  split
  · rfl
  · split <;> rfl

@[simp] theorem kernel_closeRendezvous (channel : Channel κ) :
    channel.closeRendezvous.kernel = channel.kernel := by
  unfold closeRendezvous
  dsimp only
  split <;> rfl

@[simp] theorem kernel_cleanup (channel : Channel κ) : channel.cleanup.kernel = channel.kernel := by
  have released : channel.releaseConnection.kernel = channel.kernel := by
    unfold releaseConnection
    split <;> rfl
  have unsubscribed (channel : Channel κ) : channel.unsubscribe.kernel = channel.kernel := by
    unfold unsubscribe
    split <;> rfl
  rw [cleanup, unsubscribed, kernel_closeRendezvous, released]

@[simp] theorem kernel_release (channel : Channel κ) : channel.release.kernel = channel.kernel :=
  channel.kernel_cleanup

@[simp] theorem kernel_accept (channel : Channel κ) (socket : Handle) :
    (channel.accept socket).kernel = channel.kernel := by
  unfold accept
  cases channel.engine.connection <;> rfl

/-! ## Watchers -/

@[simp] theorem kernel_watch (channel : Channel κ) (name : String) (reaction : Reaction) :
    (channel.watch name reaction).2.kernel = channel.kernel := by
  unfold watch
  obtain ⟨error, refused⟩ | ⟨container, there, registered⟩ :=
    channel.register_cases (.watcher name reaction)
  · rw [refused]
  · rw [registered]

@[simp] theorem kernel_unwatch (channel : Channel κ) (name : String) :
    (channel.unwatch name).kernel = channel.kernel := by
  unfold unwatch
  split <;> rfl

@[simp] theorem kernel_hear (channel : Channel κ) (connectivity : Connectivity) (name : String)
    (reaction : Reaction) :
    (channel.hear connectivity name reaction).kernel = channel.kernel := by
  unfold hear
  dsimp only
  split <;> simp [note]

@[simp] theorem kernel_subscribe (channel : Channel κ) :
    channel.subscribe.2.kernel = channel.kernel := by
  unfold subscribe
  obtain ⟨error, refused⟩ | ⟨container, there, registered⟩ := channel.register_cases .bridge
  · rw [refused]
  · rw [registered]
    rfl

variable [Kernel κ]

/-! ## Asking for one thing -/

/-- Making the rendezvous asks for a socket at most. -/
theorem kernel_create_cases (channel : Channel κ) :
    channel.create.2.kernel = channel.kernel ∨
      channel.create.2.kernel = (Kernel.openSocket channel.kernel).2 := by
  unfold create
  split
  · exact .inl rfl
  · split
    · split <;> rename_i opened <;> rw [opened] <;> exact .inr rfl
    · exact .inl rfl

/-- Putting it to listening asks for that at most. -/
theorem kernel_listen_cases (channel : Channel κ) :
    channel.listen.2.kernel = channel.kernel ∨ ∃ socket backlog,
      channel.listen.2.kernel = (Kernel.listen channel.kernel socket backlog).2 := by
  unfold listen
  split
  · rename_i socket _
    have asked : (channel.listenAt socket).2.kernel = channel.kernel ∨ ∃ asked backlog,
        (channel.listenAt socket).2.kernel = (Kernel.listen channel.kernel asked backlog).2 := by
      unfold listenAt
      split
      · exact .inl rfl
      · exact .inr ⟨socket, _, rfl⟩
    split <;> rename_i tried <;> rw [tried] at asked
    · rwa [kernel_closeRendezvous]
    · rwa [kernel_subscribe]
  · exact .inl rfl

/-- What closing a socket does not change, closing any number of them does not. -/
theorem part_closeRetired {Part : Type} {part : κ → Part}
    (kept : ∀ kernel socket, part (Kernel.close kernel socket) = part kernel)
    (channel : Channel κ) : part channel.closeRetired.kernel = part channel.kernel := by
  have closed (sockets : List Handle) (kernel : κ) :
      part (sockets.foldl Kernel.close kernel) = part kernel := by
    induction sockets generalizing kernel with
    | nil => rfl
    | cons socket sockets ih => exact (ih _).trans (kept kernel socket)
  exact closed channel.retired channel.kernel

end Channel

namespace Untouched

variable {κ Part : Type} [Kernel κ] {part : κ → Part}

/-! ## Bringing up -/

theorem after_closeRetired (untouched : Untouched part) (channel : Channel κ) :
    part channel.closeRetired.kernel = part channel.kernel :=
  channel.part_closeRetired untouched.close

theorem after_create (untouched : Untouched part) (channel : Channel κ) :
    part channel.create.2.kernel = part channel.kernel := by
  obtain same | asked := channel.kernel_create_cases
  · rw [same]
  · rw [asked, untouched.openSocket]

theorem after_removeStale (untouched : Untouched part) (channel : Channel κ) (path : String) :
    part (channel.removeStale path).2.kernel = part channel.kernel := by
  have asked := untouched.entry channel.kernel path
  unfold Channel.removeStale
  split
  · rfl
  · split <;> rename_i looked <;> rw [looked] at asked
    · exact asked
    · exact (untouched.remove _ path).trans asked
    · exact asked

theorem after_bindAt (untouched : Untouched part) (channel : Channel κ) (socket : Handle)
    (path : String) : part (channel.bindAt socket path).2.kernel = part channel.kernel := by
  have removed := untouched.after_removeStale channel path
  unfold Channel.bindAt
  split <;> rename_i cleared <;> rw [cleared] at removed
  · exact removed
  · rename_i after
    have asked := untouched.bind after.kernel socket path
    split
    · exact removed
    · split <;> rename_i bound <;> rw [bound] at asked <;> exact asked.trans removed

theorem after_bind (untouched : Untouched part) (channel : Channel κ) :
    part channel.bind.2.kernel = part channel.kernel := by
  unfold Channel.bind
  split
  · rename_i socket _
    have kept := untouched.after_bindAt channel socket channel.engine.config.socketPath
    dsimp only
    split <;> rename_i tried <;> rw [tried] at kept
    · exact (congrArg part (Channel.kernel_closeRendezvous _)).trans kept
    · exact kept
  · rfl

theorem after_listen (untouched : Untouched part) (channel : Channel κ) :
    part channel.listen.2.kernel = part channel.kernel := by
  obtain same | ⟨socket, backlog, asked⟩ := channel.kernel_listen_cases
  · rw [same]
  · rw [asked, untouched.listen]

theorem after_bringUp (untouched : Untouched part) (channel : Channel κ) :
    part channel.bringUp.2.kernel = part channel.kernel := by
  have creates := untouched.after_create channel
  unfold Channel.bringUp
  split <;> rename_i created result <;> rw [result] at creates
  · exact creates
  · have binds := untouched.after_bind created
    split <;> rename_i bound result <;> rw [result] at binds
    · exact binds.trans creates
    · exact ((untouched.after_listen bound).trans binds).trans creates

theorem after_start (untouched : Untouched part) (channel : Channel κ) (config : Config) :
    part (channel.start config).2.kernel = part channel.kernel := by
  have begun : part (channel.begun config).kernel = part channel.kernel :=
    congrArg part (channel.kernel_setState .starting)
  have brought := (untouched.after_bringUp (channel.begun config)).trans begun
  cases released : channel.engine.released with
  | false => rw [Channel.start_of_active released]
  | true =>
    cases done : (channel.begun config).bringUp with
    | mk result after =>
      rw [done] at brought
      cases result with
      | error error =>
        rw [Channel.start_of_failed released done, Channel.kernel_setState,
          Channel.kernel_release]
        exact brought
      | ok _ =>
        rw [Channel.start_of_done released done, Channel.kernel_setState]
        exact brought

end Untouched

namespace Unwritten

variable {κ Part : Type} [Kernel κ] {part : κ → Part}

/-! ## Sending -/

/-- Writing a buffer changes nothing either, however often it is taken up again. -/
theorem after_sendAll (unwritten : Unwritten part) (kernel : κ) (socket : Handle)
    (buffer : Bytes) : part (sendAll kernel socket buffer).2 = part kernel := by
  have answered {kernel after : κ} {buffer : Bytes} {answer : SendAnswer}
      (sent : Kernel.send kernel socket buffer = (answer, after)) : part after = part kernel := by
    rw [← unwritten kernel socket buffer, sent]
  fun_induction sendAll kernel socket buffer with
  | case1 kernel => rfl
  | case2 kernel byte rest after sent => exact answered sent
  | case3 kernel byte rest more after sent ih => exact ih.trans (answered sent)
  | case4 kernel byte rest after sent ih => exact ih.trans (answered sent)
  | case5 kernel byte rest error after sent => exact answered sent

theorem after_sendPayload (unwritten : Unwritten part) (channel : Channel κ) (payload : Bytes) :
    part (channel.sendPayload payload).2.kernel = part channel.kernel := by
  unfold Channel.sendPayload
  split
  · rfl
  · split
    · rfl
    · rename_i frame _ _ connection _
      have kept := unwritten.after_sendAll channel.kernel connection.socket frame
      split <;> rename_i sent <;> rw [sent] at kept <;> exact kept

/-! ## Setting the connectivity -/

theorem after_sendConnectivity (unwritten : Unwritten part) (channel : Channel κ)
    (connectivity : Connectivity) :
    part (channel.sendConnectivity connectivity).2.kernel = part channel.kernel := by
  unfold Channel.sendConnectivity
  have kept := unwritten.after_sendPayload (channel.record (.sendingConnectivity connectivity))
    (HostMessage.connectivityChange connectivity).encode
  split <;> rename_i sent <;> rw [Channel.sendMessage] at sent <;> rw [sent] at kept <;> exact kept

theorem after_bridge (unwritten : Unwritten part) (channel : Channel κ)
    (connectivity : Connectivity) :
    part (channel.bridge connectivity).2.kernel = part channel.kernel := by
  by_cases same : connectivity = channel.engine.connectivity
  · rw [Channel.bridge_of_eq same]
    rfl
  · rw [Channel.bridge_of_ne same]
    exact unwritten.after_sendConnectivity channel connectivity

theorem after_reconcile (unwritten : Unwritten part) (channel : Channel κ) :
    part channel.reconcile.2.kernel = part channel.kernel := by
  unfold Channel.reconcile
  split
  · rfl
  · exact unwritten.after_bridge channel _

theorem after_notifyEngine (unwritten : Unwritten part) (channel : Channel κ)
    (connectivity : Connectivity) :
    part (channel.notifyEngine connectivity).kernel = part channel.kernel := by
  rw [Channel.kernel_notifyEngine]
  split
  · rfl
  · exact unwritten.after_bridge channel connectivity

theorem after_setConnectivity (unwritten : Unwritten part) (channel : Channel κ)
    (connectivity : Connectivity) :
    part (channel.setConnectivity connectivity).kernel = part channel.kernel :=
  Channel.setConnectivityWithin_induction
    (motive := fun after => part after.kernel = part channel.kernel)
    (fun after connectivity kept =>
      (congrArg part (after.kernel_storeConnectivity connectivity)).trans kept)
    (fun after connectivity kept => (unwritten.after_notifyEngine after connectivity).trans kept)
    (fun after connectivity name reaction kept =>
      (congrArg part (after.kernel_hear connectivity name reaction)).trans kept)
    (fun after name reaction kept => (congrArg part (after.kernel_watch name reaction)).trans kept)
    _ rfl connectivity

end Unwritten
end ServiceChannel
