import ServiceChannel.Network
import ServiceChannel.Proofs.Kernel.Tapped

/-!
# Ends that write no more

An end of a connection that writes no more still reads. Whoever writes at the other end gets the
answers that it would get otherwise, and the same bytes arrive.

- `Network.Alike`: what a writer cannot tell apart.
- `Network.sendAll_alike`: writing at networks that are alike.
- `Network.alike_halfClose`: a network is like itself after an end has stopped writing.
-/

namespace ServiceChannel

/-- What arrived at an end and was not read, and where it came from. -/
def Stream.intake (stream : Stream) : Handle × Bytes × List Parcel :=
  (stream.peer, stream.inbox, stream.parcels)

namespace Network

theorem stream?_onStream (network : Network) (handle other : Handle) (change : Stream → Stream) :
    (network.onStream handle change).stream? other =
      if other = handle then (network.stream? handle).map change else network.stream? other := by
  unfold onStream stream?
  cases found : network.socket handle with
  | stream stream =>
    have inBounds : handle < network.sockets.size := by
      refine Nat.lt_of_not_le fun beyond => ?_
      simp [socket, Array.getElem?_eq_none beyond] at found
    by_cases same : other = handle
    · subst same
      simp [socket, setSocket, inBounds]
    · simp [socket, setSocket, same, Ne.symm same]
  | fresh | listening _ _ | closed =>
    by_cases same : other = handle
    · subst same
      simp [found]
    · simp [same]

@[simp] theorem stream?_notice (network : Network) (handle other : Handle) :
    (network.notice handle).stream? other = network.stream? other := by
  unfold notice
  split <;> rfl

/-- Nothing differs on which a write at this end depends, or that it changes. -/
structure Alike (writer : Handle) (first second : Network) : Prop where
  intake : ∀ handle,
    (first.stream? handle).map Stream.intake = (second.stream? handle).map Stream.intake
  muted : (first.stream? writer).map (·.muted) = (second.stream? writer).map (·.muted)

variable {writer : Handle} {first second : Network}

theorem Alike.deliver (alike : Alike writer first second) {here there : Stream}
    (peer : here.peer = there.peer) (bytes : Bytes) (parcels : List Parcel) :
    Alike writer (first.deliver here bytes parcels) (second.deliver there bytes parcels) := by
  constructor
  · intro handle
    have before := alike.intake handle
    simp only [Network.deliver, stream?_notice, stream?_onStream, peer]
    split
    · rename_i same
      subst same
      revert before
      cases first.stream? there.peer <;> cases second.stream? there.peer <;>
        simp +contextual [Stream.intake]
    · exact before
  · have before := alike.muted
    simp only [Network.deliver, stream?_notice, stream?_onStream, peer]
    split
    · rename_i same
      subst same
      simpa [Option.map_map, Function.comp_def] using before
    · exact before

/-- A write gets the same answer, and brings the same bytes. -/
theorem Alike.writeSome (alike : Alike writer first second) (bytes : Bytes) :
    (first.writeSome writer bytes).1 = (second.writeSome writer bytes).1 ∧
      Alike writer (first.writeSome writer bytes).2 (second.writeSome writer bytes).2 := by
  have intake := alike.intake writer
  have muted := alike.muted
  unfold Network.writeSome
  cases here : first.stream? writer with
  | none =>
    cases there : second.stream? writer with
    | none => exact ⟨rfl, alike⟩
    | some _ => simp [here, there] at intake
  | some near =>
    cases there : second.stream? writer with
    | none => simp [here, there] at intake
    | some far =>
      simp only [here, there, Option.map_some, Option.some.injEq, Stream.intake,
        Prod.mk.injEq] at intake muted
      obtain ⟨peer, -, -⟩ := intake
      have waiting := alike.intake near.peer
      dsimp only
      rw [← peer]
      cases mine : first.stream? near.peer with
      | none =>
        cases theirs : second.stream? near.peer with
        | none => exact ⟨rfl, alike⟩
        | some _ => simp [mine, theirs] at waiting
      | some target =>
        cases theirs : second.stream? near.peer with
        | none => simp [mine, theirs] at waiting
        | some other =>
          simp only [mine, theirs, Option.map_some, Option.some.injEq, Stream.intake,
            Prod.mk.injEq] at waiting
          obtain ⟨-, -, parcels⟩ := waiting
          dsimp only
          rw [← muted, ← parcels]
          split
          · exact ⟨rfl, alike⟩
          · split
            · exact ⟨rfl, alike⟩
            · exact ⟨rfl, alike.deliver peer _ _⟩

theorem Alike.send (alike : Alike writer first second) {bytes : Bytes} {answer : SendAnswer}
    {after : Network} (sent : Kernel.send first writer bytes = (answer, after)) :
    Kernel.send second writer bytes = (answer, (second.writeSome writer bytes).2) ∧
      Alike writer after (second.writeSome writer bytes).2 := by
  obtain ⟨same, next⟩ := alike.writeSome bytes
  rw [show first.writeSome writer bytes = (answer, after) from sent] at same next
  exact ⟨Prod.ext same.symm rfl, next⟩

/-- So does a whole buffer. -/
theorem sendAll_alike (alike : Alike writer first second) (buffer : Bytes) :
    (sendAll first writer buffer).1 = (sendAll second writer buffer).1 ∧
      Alike writer (sendAll first writer buffer).2 (sendAll second writer buffer).2 := by
  fun_induction sendAll first writer buffer generalizing second with
  | case1 first =>
    rw [sendAll]
    exact ⟨rfl, alike⟩
  | case2 first byte rest after sent =>
    obtain ⟨same, next⟩ := alike.send sent
    rw [sendAll_cons same]
    exact ⟨rfl, next⟩
  | case3 first byte rest more after sent ih =>
    obtain ⟨same, next⟩ := alike.send sent
    rw [sendAll_cons same]
    exact ih next
  | case4 first byte rest after sent ih =>
    obtain ⟨same, next⟩ := alike.send sent
    rw [sendAll_cons same]
    exact ih next
  | case5 first byte rest error after sent =>
    obtain ⟨same, next⟩ := alike.send sent
    rw [sendAll_cons same]
    exact ⟨rfl, next⟩

/-- An end is changed in a way that those who write do not see. -/
theorem alike_onStream (network : Network) {handle : Handle} {change : Stream → Stream}
    (keeps : ∀ stream, (change stream).intake = stream.intake)
    (speaks : writer = handle → ∀ stream, (change stream).muted = stream.muted) :
    Alike writer (network.onStream handle change) network := by
  constructor
  · intro other
    rw [stream?_onStream]
    split
    · rename_i same
      rw [same, Option.map_map]
      exact congrArg (Option.map · _) (funext keeps)
    · rfl
  · rw [stream?_onStream]
    split
    · rename_i same
      rw [same, Option.map_map]
      exact congrArg (Option.map · _) (funext (speaks same))
    · rfl

/-- To those who write at other ends it makes no difference that an end writes no more. -/
theorem alike_halfClose (network : Network) {agent : Handle} (other : writer ≠ agent) :
    Alike writer (network.halfClose agent) network := by
  unfold halfClose
  split
  · rename_i stream _
    have muted : Alike writer (network.onStream agent fun stream => { stream with muted := true })
        network :=
      network.alike_onStream (fun _ => rfl) fun same => absurd same other
    have ended : Alike writer
        ((network.onStream agent fun stream => { stream with muted := true }).onStream stream.peer
          fun peer => { peer with ended := true })
        (network.onStream agent fun stream => { stream with muted := true }) :=
      alike_onStream _ (fun _ => rfl) fun _ _ => rfl
    constructor
    · intro handle
      rw [stream?_notice]
      exact (ended.intake handle).trans (muted.intake handle)
    · rw [stream?_notice]
      exact ended.muted.trans muted.muted
  · exact ⟨fun _ => rfl, rfl⟩

end Network
end ServiceChannel
