import ServiceChannel.Network
import ServiceChannel.Proofs.Kernel.Files

/-!
# The directories of a machine in memory

A directory tree is a filing: where a path leads depends on the directories alone, so it stays when
anything else comes or goes, and the sockets of the machine are apart from its tree.

- `Tree.filing`: what a tree holds.
- `Tree.walk_congr`: where a path leads depends on the directories.
- `Tree.remove_of_socket`, `Tree.bind_cases`: what removing and binding come to.
- `Network.tree_writeSome`, `Network.tree_closeSocket`: what is done with sockets does not.
-/

namespace ServiceChannel

namespace Tree

/-! ## Entries -/

theorem lookup_cons (entries : List (Path × Entry)) (path other : Path) (entry : Entry) :
    ((path, entry) :: entries).lookup other =
      if other = path then some entry else entries.lookup other := by
  rw [List.lookup_cons]
  by_cases here : other = path
  · simp [here]
  · rw [beq_false_of_ne here, if_neg here]

theorem lookup_filter (entries : List (Path × Entry)) (path other : Path) :
    (entries.filter (·.1 ≠ path)).lookup other =
      if other = path then none else entries.lookup other := by
  induction entries with
  | nil => simp
  | cons first entries ih =>
    obtain ⟨first, entry⟩ := first
    by_cases here : first = path
    · subst here
      rw [List.filter_cons_of_neg (by simp), ih, lookup_cons]
      by_cases there : other = first <;> simp [there]
    · rw [List.filter_cons_of_pos (by simpa using here), lookup_cons, lookup_cons, ih]
      by_cases there : other = first
      · subst there
        simp [here]
      · simp [there]

theorem entryAt_take (tree : Tree) {path : Path} (below : path ≠ []) (other : Path) :
    (tree.take path).entryAt other = if other = path then none else tree.entryAt other := by
  cases other with
  | nil => exact (if_neg below.symm).symm
  | cons name names => exact lookup_filter tree.entries path (name :: names)

theorem entryAt_put (tree : Tree) {path : Path} (below : path ≠ []) (entry : Entry)
    (other : Path) :
    (tree.put path entry).entryAt other =
      if other = path then some entry else tree.entryAt other := by
  cases other with
  | nil => exact (if_neg below.symm).symm
  | cons name names =>
    refine (lookup_cons _ path (name :: names) entry).trans ?_
    rw [lookup_filter]
    by_cases here : name :: names = path
    · rw [if_pos here, if_pos here]
    · rw [if_neg here, if_neg here, if_neg here]
      rfl

/-! ## Where a path leads -/

/-- The directory at a path of names, if there is one. -/
def directoryAt (tree : Tree) (path : Path) : Option Entry :=
  (tree.entryAt path).filter Entry.isDirectory

/-- Where one name leads from a directory. -/
def onward (here : Path) (name : String) : Path :=
  if name = "." then here else if name = ".." then here.dropLast else here ++ [name]

theorem walk_cons (tree : Tree) (here : Path) (name : String) (names : List String) :
    tree.walk here (name :: names) =
      match tree.entryAt here with
      | none => .error (.os .noEntry)
      | some entry =>
        if !entry.isDirectory then .error (.os .notDirectory)
        else if Path.nameCapacity < name.utf8ByteSize then .error (.os .nameTooLong)
        else tree.walk (onward here name) names := by
  have next : tree.walk (onward here name) names =
      if name = "." then tree.walk here names
      else if name = ".." then tree.walk here.dropLast names
      else tree.walk (here ++ [name]) names := by
    unfold onward
    split
    · rfl
    · split <;> rfl
  rw [next]
  rfl

/-- A walk ends at what is there. -/
theorem entryAt_of_walk {tree : Tree} {here path : Path} {names : List String}
    {found : Option Entry} (walked : tree.walk here names = .ok (path, found)) :
    found = tree.entryAt path := by
  induction names generalizing here with
  | nil =>
    cases walked
    rfl
  | cons name names ih =>
    rw [walk_cons] at walked
    split at walked
    · cases walked
    · split at walked
      · cases walked
      · split at walked
        · cases walked
        · exact ih walked

/-- A walk goes on where there is a directory, along a name that is not too long. -/
theorem walk_cons_fst (tree : Tree) (here : Path) (name : String) (names : List String) :
    (tree.walk here (name :: names)).toOption.map Prod.fst =
      if (tree.directoryAt here).isSome ∧ name.utf8ByteSize ≤ Path.nameCapacity then
        (tree.walk (onward here name) names).toOption.map Prod.fst
      else none := by
  rw [walk_cons, directoryAt]
  generalize tree.walk (onward here name) names = next
  cases tree.entryAt here with
  | none => rfl
  | some entry =>
    cases passes : entry.isDirectory with
    | false => simp [Option.filter, passes, Except.toOption]
    | true =>
      rcases Nat.lt_or_ge Path.nameCapacity name.utf8ByteSize with long | short
      · simp [passes, long, Nat.not_le.2 long, Except.toOption]
      · simp [Option.filter, passes, Nat.not_lt.2 short, short]

/-- Where a walk leads depends on the directories alone. -/
theorem walk_congr {first second : Tree}
    (same : ∀ path, second.directoryAt path = first.directoryAt path) (here : Path)
    (names : List String) :
    (second.walk here names).toOption.map Prod.fst =
      (first.walk here names).toOption.map Prod.fst := by
  induction names generalizing here with
  | nil => rfl
  | cons name names ih => rw [walk_cons_fst, walk_cons_fst, same, ih]

/-! ## Filing -/

/-- Where the text of a path leads. One that asks for a directory leads to no place for a socket. -/
def place? (tree : Tree) (text : String) : Option Path :=
  if Path.asksDirectory text then none else (tree.resolve text).toOption.map Prod.fst

/-- What a tree holds. -/
def filing (tree : Tree) : Filing Path Entry where
  place? := tree.place?
  item? := tree.entryAt
  admits path := tree.seal? path = none

theorem entryAt_of_resolve {tree : Tree} {text : String} {path : Path} {found : Option Entry}
    (resolved : tree.resolve text = .ok (path, found)) : found = tree.entryAt path := by
  unfold resolve follow at resolved
  split at resolved
  · cases resolved
  · split at resolved
    · cases resolved
    · exact entryAt_of_walk resolved

/-- A text that leads to a place is resolved to it, and to what is there. -/
theorem place?_eq_some_iff {tree : Tree} {text : String} {path : Path} :
    tree.place? text = some path ↔
      Path.asksDirectory text = false ∧ tree.resolve text = .ok (path, tree.entryAt path) := by
  unfold place?
  cases Path.asksDirectory text with
  | true => simp
  | false =>
    cases resolved : tree.resolve text with
    | error error => simp [Except.toOption]
    | ok found =>
      obtain ⟨other, found⟩ := found
      obtain rfl := entryAt_of_resolve resolved
      refine ⟨fun same => ?_, fun ⟨_, same⟩ => ?_⟩
      · obtain rfl : other = path := Option.some.inj same
        exact ⟨rfl, rfl⟩
      · obtain ⟨rfl, -⟩ := Prod.mk.inj (Except.ok.inj same)
        rfl

theorem place?_congr {first second : Tree}
    (same : ∀ path, second.directoryAt path = first.directoryAt path) :
    second.place? = first.place? := by
  funext text
  unfold place? resolve follow
  split
  · rfl
  · split
    · rfl
    · split
      · rfl
      · exact walk_congr same _ _

theorem seal?_eq_some_iff {tree : Tree} {path : Path} {refusals : Errno × Errno} :
    tree.seal? path = some refusals ↔
      tree.directoryAt path.dropLast = some (.sealed refusals.1 refusals.2) := by
  unfold seal? directoryAt
  rcases tree.entryAt path.dropLast with _ | entry
  · simp
  · cases entry <;> simp [Option.filter, Entry.isDirectory, Entry.kind, Prod.ext_iff]

theorem seal?_congr {first second : Tree}
    (same : ∀ path, second.directoryAt path = first.directoryAt path) (path : Path) :
    second.seal? path = first.seal? path :=
  Option.ext fun _ => by
    rw [seal?_eq_some_iff, seal?_eq_some_iff, same]

/-- Where no directory was and none is, nothing else changes with an entry. -/
theorem filing_of_entryAt {first second : Tree} {path : Path} {entry : Option Entry}
    (was : first.directoryAt path = none) (is : entry.filter Entry.isDirectory = none)
    (change : ∀ other, second.entryAt other = if other = path then entry else first.entryAt other) :
    second.filing = first.filing.put path entry := by
  have same (other : Path) : second.directoryAt other = first.directoryAt other := by
    unfold directoryAt
    rw [change]
    split
    · rename_i here
      rw [here]
      exact is.trans was.symm
    · rfl
  unfold filing Filing.put
  rw [place?_congr same]
  simp only [seal?_congr same, funext change]

/-- Nothing but a directory is at the root. -/
theorem below_of_directoryAt {tree : Tree} {path : Path} (none : tree.directoryAt path = none) :
    path ≠ [] := by
  rintro rfl
  cases none

/-! ## Removing and binding -/

/-- A removal that is refused changes nothing. -/
theorem remove_of_error {tree : Tree} {text : String} {error : SystemError}
    (refused : (tree.remove text).1 = .error error) : (tree.remove text).2 = tree := by
  revert refused
  unfold remove
  split
  · exact fun _ => rfl
  · exact fun _ => rfl
  · split
    · exact fun _ => rfl
    · split
      · exact fun _ => rfl
      · nofun

/-- A socket is bound where nothing is and the directory admits it, or none is. -/
theorem bind_cases (tree : Tree) (owner : Handle) (text : String) :
    (∃ error, tree.bind owner text = (.error error, tree)) ∨
      ∃ path, tree.place? text = some path ∧ tree.entryAt path = none ∧
        tree.bind owner text = (.ok (), tree.put path (.socket owner)) := by
  unfold bind
  split
  · exact .inl ⟨_, rfl⟩
  · exact .inl ⟨_, rfl⟩
  · rename_i path resolved
    have there := entryAt_of_resolve resolved
    split
    · exact .inl ⟨_, rfl⟩
    · rename_i plain
      split
      · exact .inl ⟨_, rfl⟩
      · refine .inr ⟨path, place?_eq_some_iff.2 ⟨by simpa using plain, ?_⟩, there.symm, rfl⟩
        rw [← there]
        exact resolved

theorem filing_take {tree : Tree} {path : Path} (other : tree.directoryAt path = none) :
    (tree.take path).filing = tree.filing.put path none :=
  filing_of_entryAt other rfl (tree.entryAt_take (below_of_directoryAt other))

theorem filing_put {tree : Tree} {path : Path} (free : tree.entryAt path = none) (owner : Handle) :
    (tree.put path (.socket owner)).filing = tree.filing.put path (some (.socket owner)) := by
  have other : tree.directoryAt path = none := by rw [directoryAt, free]; rfl
  exact filing_of_entryAt other rfl (tree.entryAt_put (below_of_directoryAt other) _)

/-- A socket is no directory. -/
theorem directoryAt_of_socket {tree : Tree} {path : Path} {entry : Entry}
    (there : tree.entryAt path = some entry) (socket : entry.kind = .socket) :
    tree.directoryAt path = none := by
  simp [directoryAt, there, Option.filter, Entry.isDirectory, socket]

/-- A socket can be removed. -/
theorem remove_of_socket {tree : Tree} {text : String} {path : Path} {entry : Entry}
    (leads : tree.place? text = some path) (there : tree.entryAt path = some entry)
    (socket : entry.kind = .socket) : tree.remove text = (.ok (), tree.take path) := by
  obtain ⟨plain, resolved⟩ := place?_eq_some_iff.1 leads
  have other : entry.isDirectory = false := by simp [Entry.isDirectory, socket]
  simp [remove, resolved, there, other, plain]

/-- Where nothing is, and the directory admits it, a socket is bound. -/
theorem bind_of_free {tree : Tree} {text : String} {path : Path} (owner : Handle)
    (leads : tree.place? text = some path) (free : tree.entryAt path = none)
    (admits : tree.seal? path = none) :
    tree.bind owner text = (.ok (), tree.put path (.socket owner)) := by
  obtain ⟨plain, resolved⟩ := place?_eq_some_iff.1 leads
  simp [bind, resolved, free, plain, admits]

/-- What is looked up is told by its kind. -/
theorem lookup_of_place {tree : Tree} {text : String} {path : Path}
    (leads : tree.place? text = some path) :
    (tree.lookup text).map Entry.kind =
      (tree.entryAt path).elim (.error (.os .noEntry)) fun entry => .ok entry.kind := by
  obtain ⟨plain, resolved⟩ := place?_eq_some_iff.1 leads
  unfold lookup
  rw [resolved]
  cases tree.entryAt path with
  | none => rfl
  | some entry => simp [plain, Except.map]

/-- A socket that is found is found where the text leads. -/
theorem place_of_lookup_socket {tree : Tree} {text : String}
    (found : (tree.lookup text).map Entry.kind = .ok .socket) :
    ∃ path, tree.place? text = some path := by
  unfold lookup at found
  split at found
  · cases found
  · cases found
  · rename_i path entry resolved
    split at found
    · cases found
    · rename_i passes
      have socket : entry.kind = .socket := Except.ok.inj found
      have plain : Path.asksDirectory text = false := by
        simpa [Entry.isDirectory, socket] using passes
      refine ⟨path, place?_eq_some_iff.2 ⟨plain, ?_⟩⟩
      rw [← entryAt_of_resolve resolved]
      exact resolved

end Tree

/-! ## Sockets -/

namespace Network

variable (network : Network)

@[simp] theorem tree_onStream (handle : Handle) (change : Stream → Stream) :
    (network.onStream handle change).tree = network.tree := by
  unfold onStream
  split <;> rfl

@[simp] theorem tree_notice (handle : Handle) : (network.notice handle).tree = network.tree := by
  unfold notice
  split <;> rfl

@[simp] theorem tree_closeStream (handle : Handle) (stream : Stream) (accepted : Bool) :
    (network.closeStream handle stream accepted).tree = network.tree := by
  unfold closeStream
  simp [forget, setSocket]

@[simp] theorem tree_closeSocket (handle : Handle) :
    (network.closeSocket handle).tree = network.tree := by
  have waits (waiting : List Handle) (network : Network) :
      (waiting.foldl closeWaiting network).tree = network.tree := by
    induction waiting generalizing network with
    | nil => rfl
    | cons handle waiting ih =>
      refine (ih _).trans ?_
      unfold closeWaiting
      split <;> simp
  unfold closeSocket
  split
  · simp
  · exact (waits _ _).trans rfl
  · rfl

@[simp] theorem tree_writeSome (handle : Handle) (bytes : Bytes) :
    (network.writeSome handle bytes).2.tree = network.tree := by
  unfold writeSome
  split
  · rfl
  · split
    · rfl
    · split
      · rfl
      · dsimp only
        split
        · rfl
        · simp [deliver]

@[simp] theorem tree_openSocket : network.openSocket.2.tree = network.tree := by
  unfold openSocket
  split <;> rfl

/-- The directories of a machine are those of its tree. -/
instance : Files Network where
  Place := Path
  Item := Entry
  kind := Entry.kind
  filing network := network.tree.filing
  openSocket network := congrArg Tree.filing network.tree_openSocket
  entry _ _ := rfl
  listen _ _ _ := rfl
  send network socket bytes := congrArg Tree.filing (network.tree_writeSome socket bytes)
  close network socket := congrArg Tree.filing (network.tree_closeSocket socket)
  entry_fst leads := Tree.lookup_of_place leads
  entry_socket found := Tree.place_of_lookup_socket found
  remove_ok {network text path entry} leads there socket _ :=
    (congrArg (·.2.filing) (Tree.remove_of_socket leads there socket)).trans
      (Tree.filing_take (Tree.directoryAt_of_socket there socket))
  remove_error refused := congrArg Tree.filing (Tree.remove_of_error refused)
  remove_socket leads there socket _ :=
    congrArg Prod.fst (Tree.remove_of_socket leads there socket)
  bind_ok {network owner text} bound := by
    obtain ⟨error, same⟩ | ⟨path, leads, free, same⟩ := network.tree.bind_cases owner text
    · cases (congrArg Prod.fst same).symm.trans bound
    · exact ⟨path, .socket owner, leads, free, rfl,
        (congrArg (·.2.filing) same).trans (Tree.filing_put free owner)⟩
  bind_error {network owner text error} refused := by
    obtain ⟨error, same⟩ | ⟨path, -, -, same⟩ := network.tree.bind_cases owner text
    · exact congrArg (·.2.filing) same
    · cases (congrArg Prod.fst same).symm.trans refused
  bind_free leads free admits _ := congrArg Prod.fst (Tree.bind_of_free _ leads free admits)

end Network
end ServiceChannel
