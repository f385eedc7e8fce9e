import ServiceChannel.Parcel
import ServiceChannel.Tree

/-!
# Networks

A kernel in memory: a directory tree and the stream sockets of one machine, with both ends of every
connection.

- `Network`: the state.
- `Network.connect`, `Network.accept`: two ends come together.
- `Network.read`: what arrived at an end; `Network.halfClose`: an end that writes no more.
- `Network.takeNews`: the sockets at which something happened.

An end that is closed while bytes wait there resets its other end, once that has read all that was
sent to it; so does an end that was never accepted. An end whose other end is closed cannot be
written to.
-/

namespace ServiceChannel

/-! ## Sockets -/

/-- One end of a connection. -/
structure Stream where
  /-- The other end. -/
  peer : Handle
  /-- Bytes that arrived and were not read. -/
  inbox : Bytes := []
  /-- The parcels that they came in. -/
  parcels : List Parcel := []
  /-- The other end writes no more. -/
  ended : Bool := false
  /-- The other end was closed with bytes waiting there. -/
  reset : Bool := false
  /-- This end writes no more. -/
  muted : Bool := false
  deriving DecidableEq

/-- A socket. -/
inductive Socket where
  /-- Made, and at most bound. -/
  | fresh
  /-- Connections come here, and wait to be accepted; so many can. -/
  | listening (waiting : List Handle) (capacity : Nat)
  /-- One end of a connection. -/
  | stream (stream : Stream)
  | closed
  deriving DecidableEq

/-- Something can be read at the end: bytes, or that there will be no more. -/
def Stream.isReadable (stream : Stream) : Bool :=
  !stream.inbox.isEmpty || stream.reset || stream.ended

/-- A machine. -/
structure Network where
  tree : Tree := {}
  /-- The sockets by their handles. -/
  sockets : Array Socket := #[]
  /-- The sockets at which something happened since it was last looked, in that order. -/
  news : List Handle := []
  /-- No descriptor is left: nothing can be opened. -/
  exhausted : Bool := false
  deriving DecidableEq

namespace Network

/-! ## Sockets -/

/-- The socket of a handle. -/
def socket (network : Network) (handle : Handle) : Socket :=
  network.sockets.getD handle .closed

/-- Changes the socket of a handle. -/
def setSocket (network : Network) (handle : Handle) (socket : Socket) : Network :=
  { network with sockets := network.sockets.setIfInBounds handle socket }

/-- Adds a socket, under the next handle. -/
def addSocket (network : Network) (socket : Socket) : Handle × Network :=
  (network.sockets.size, { network with sockets := network.sockets.push socket })

/-- One end of a connection, if the handle is one. -/
def stream? (network : Network) (handle : Handle) : Option Stream :=
  match network.socket handle with
  | .stream stream => some stream
  | _ => none

/-- Changes one end of a connection. -/
def onStream (network : Network) (handle : Handle) (change : Stream → Stream) : Network :=
  match network.socket handle with
  | .stream stream => network.setSocket handle (.stream (change stream))
  | _ => network

/-- Changes the directory tree. -/
def onTree (network : Network) (change : Tree → Tree) : Network :=
  { network with tree := change network.tree }

/-! ## News -/

/-- Something happened at a socket. -/
def notice (network : Network) (handle : Handle) : Network :=
  if network.news.contains handle then network
  else { network with news := network.news ++ [handle] }

/-- What happened at a socket does not matter any more. -/
def forget (network : Network) (handle : Handle) : Network :=
  { network with news := network.news.filter (· ≠ handle) }

/-- The sockets at which something happened, which are then looked into. -/
def takeNews (network : Network) : List Handle × Network :=
  (network.news, { network with news := [] })

/-! ## Closing -/

/-- Closes one end of a connection. An end that was never accepted always resets the other. -/
def closeStream (network : Network) (handle : Handle) (stream : Stream) (accepted : Bool) :
    Network :=
  (((network.setSocket handle .closed).forget handle).onStream stream.peer fun peer =>
    { peer with
      ended := true
      reset := peer.reset || !accepted || !stream.inbox.isEmpty }).notice stream.peer

/-- Closes an end that waits to be accepted. -/
def closeWaiting (network : Network) (handle : Handle) : Network :=
  match network.stream? handle with
  | some stream => network.closeStream handle stream false
  | none => network

/-- Closes a socket. Connections that waited there are closed too. -/
def closeSocket (network : Network) (handle : Handle) : Network :=
  match network.socket handle with
  | .stream stream => network.closeStream handle stream true
  | .listening waiting _ =>
    waiting.foldl closeWaiting ((network.setSocket handle .closed).forget handle)
  | _ => network.setSocket handle .closed

/-! ## Connections -/

/-- The listening socket at a path, with the connections that wait there and how many can. -/
def listenerAt (network : Network) (text : String) :
    Except SystemError (Handle × List Handle × Nat) :=
  match network.tree.lookup text with
  | .error error => .error error
  | .ok (.socket owner) =>
    match network.socket owner with
    | .listening waiting capacity => .ok (owner, waiting, capacity)
    | _ => .error (.os .connectionRefused)
  | .ok _ => .error (.os .connectionRefused)

/-- Connects to the socket that listens at a path; the other end waits there. Where no more can
wait, the connection is put off. -/
def connect (network : Network) (text : String) : Except SystemError (Handle × Network) :=
  if network.exhausted then .error (.os .tooManyFiles)
  else match network.listenerAt text with
    | .error error => .error error
    | .ok (listener, waiting, capacity) =>
      if capacity ≤ waiting.length then .error (.os .wouldBlock)
      else
        let near := network.sockets.size
        let far := near + 1
        let (_, network) := network.addSocket (.stream { peer := far })
        let (_, network) := network.addSocket (.stream { peer := near })
        let listening := .listening (waiting ++ [far]) capacity
        .ok (near, (network.setSocket listener listening).notice listener)

/-- Takes the first waiting connection of a listening socket. What arrived there before is news
now. -/
def accept (network : Network) (listener : Handle) : Option (Handle × Network) :=
  match network.socket listener with
  | .listening (first :: rest) capacity =>
    let network := (network.setSocket listener (.listening rest capacity)).forget first
    some (first,
      if (network.stream? first).any Stream.isReadable then network.notice first else network)
  | _ => none

/-- The bytes that wait at an end, which are taken away. -/
def takeInbox (network : Network) (handle : Handle) : Bytes × Network :=
  match network.stream? handle with
  | some stream =>
    (stream.inbox, network.onStream handle fun stream => { stream with inbox := [], parcels := [] })
  | none => ([], network)

/-- Reads up to so many bytes at an end. A reset is told once; from then on the stream is only at
its end. -/
def read (network : Network) (handle : Handle) (room : Nat) : ReadOutcome × Network :=
  match network.stream? handle with
  | none => (.wouldBlock, network)
  | some stream =>
    if !stream.inbox.isEmpty then
      (.data (stream.inbox.take room), network.onStream handle fun stream =>
        { stream with
          inbox := stream.inbox.drop room
          parcels := Parcel.unpack stream.parcels room })
    else if stream.reset then
      (.failed (.os .connectionReset), network.onStream handle fun stream =>
        { stream with reset := false })
    else if stream.ended then (.endOfStream, network)
    else (.wouldBlock, network)

/-- An end writes no more. -/
def halfClose (network : Network) (handle : Handle) : Network :=
  match network.stream? handle with
  | some stream =>
    ((network.onStream handle fun stream => { stream with muted := true }).onStream stream.peer
      fun peer => { peer with ended := true }).notice stream.peer
  | none => network

/-- Puts bytes where the other end finds them. -/
def deliver (network : Network) (stream : Stream) (bytes : Bytes) (parcels : List Parcel) :
    Network :=
  (network.onStream stream.peer fun peer =>
    { peer with
      inbox := peer.inbox ++ bytes
      parcels := peer.parcels ++ parcels }).notice stream.peer

/-- Writes what there is room for. -/
def writeSome (network : Network) (handle : Handle) (bytes : Bytes) : SendAnswer × Network :=
  match network.stream? handle with
  | none => (.failed (.os .brokenPipe), network)
  | some stream =>
    match network.stream? stream.peer with
    | none => (.failed (.os .brokenPipe), network)
    | some peer =>
      if stream.muted then (.failed (.os .brokenPipe), network)
      else
        let parcels := Parcel.pack (Parcel.weightOfAll peer.parcels) bytes.length
        let written := Parcel.lengthOfAll parcels
        if parcels.isEmpty then (.failed (.os .wouldBlock), network)
        else (.wrote written, network.deliver stream (bytes.take written) parcels)

/-! ## The kernel -/

/-- Makes a socket. -/
def openSocket (network : Network) : Except SystemError Handle × Network :=
  if network.exhausted then (.error (.os .tooManyFiles), network)
  else
    let (handle, network) := network.addSocket .fresh
    (.ok handle, network)

/-- Makes a change of the tree that can be refused. -/
def tryTree (network : Network) (change : Tree → Except SystemError Unit × Tree) :
    Except SystemError Unit × Network :=
  let (result, tree) := change network.tree
  (result, network.onTree fun _ => tree)

/-- One argument of a program has fewer bytes than this. -/
def argumentCapacity : Nat := 131072

/-- All arguments of a program, each with its closing zero and the word that points to it, have at
most this many bytes. -/
def argumentsCapacity : Nat := 2097152

/-- The arguments are more than a program can be given. -/
def overflowsArguments (arguments : List String) : Bool :=
  arguments.any (argumentCapacity ≤ ·.utf8ByteSize) ||
    argumentsCapacity < (arguments.map (·.utf8ByteSize + 9)).foldl (· + ·) 0

/-- Runs a program that is there. -/
def run (network : Network) (arguments : List String) : Except SystemError Unit × Network :=
  match arguments with
  | program :: _ =>
    match network.tree.execute program with
    | .error error => (.error error, network)
    | .ok () =>
      (if overflowsArguments arguments then .error (.os .argumentListTooLong) else .ok (), network)
  | [] => (.error (.os .noEntry), network)

/-- The most connections that a backlog can stand for. -/
def backlogBound : Nat := 4096

/-- How many connections can wait at a socket: one more than its backlog. A negative backlog stands
for the largest. -/
def capacityOf (backlog : Int32) : Nat :=
  (if backlog < 0 then backlogBound else min backlog.toInt.toNat backlogBound) + 1

instance : Kernel Network where
  openSocket := openSocket
  entry network text := ((network.tree.lookup text).map Entry.kind, network)
  remove network text := network.tryTree (·.remove text)
  bind network handle text := network.tryTree (·.bind handle text)
  listen network handle backlog :=
    (.ok (), network.setSocket handle (.listening [] (capacityOf backlog)))
  send := writeSome
  close := closeSocket
  spawn := run
  patience _ := 0
  patience_send := by
    intro kernel after socket buffer h
    simp only [writeSome] at h
    repeat' split at h
    all_goals simp at h

end Network
end ServiceChannel
