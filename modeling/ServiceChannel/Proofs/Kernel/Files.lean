import ServiceChannel.Proofs.Channel.Binding

/-!
# Kernels with files

What a kernel's directories hold, and what the calls of the channel do there. Only binding and
removing change anything: binding makes a socket where nothing is, and removing takes away what is
there. Closing a socket leaves its entry behind.

- `Filing`: what the directories hold.
- `Files`: a kernel with directories.
- `Files.Slack`, `Files.Bindable`: nothing is there, or a socket; and a socket can be bound there.
- `Files.Shifts`: sockets come and go where paths lead, and nothing else changes.
- `Channel.bindAt_shifts`: what binding changes.
- `Channel.bindAt_of_bindable`, `Channel.bindAt_of_item`, `Channel.bindAt_of_nowhere`: what it comes
  to.

The directories, and which of them let sockets come and go, are the kernel's own: nothing is said
here about names, links on the way or permissions.
-/

namespace ServiceChannel

/-! ## Directories -/

/-- What directories hold. -/
@[ext] structure Filing (Place Item : Type) where
  /-- Where a path leads, if the directory on the way is there. -/
  place? : String → Option Place
  /-- What is at a place. -/
  item? : Place → Option Item
  /-- The directory of the place lets sockets come and go. -/
  admits : Place → Prop

/-- Something else is at a place, or nothing. -/
def Filing.put {Place Item : Type} [DecidableEq Place] (filing : Filing Place Item) (place : Place)
    (item : Option Item) : Filing Place Item :=
  { filing with item? := fun other => if other = place then item else filing.item? other }

theorem Filing.item?_put_self {Place Item : Type} [DecidableEq Place]
    (filing : Filing Place Item) (place : Place) (item : Option Item) :
    (filing.put place item).item? place = item := if_pos rfl

/-- A kernel with directories. -/
class Files (κ : Type) [Kernel κ] where
  Place : Type
  Item : Type
  kind : Item → EntryKind
  filing : κ → Filing Place Item
  [decidable : DecidableEq Place]
  openSocket : ∀ kernel, filing (Kernel.openSocket kernel).2 = filing kernel
  entry : ∀ kernel path, filing (Kernel.entry kernel path).2 = filing kernel
  listen : ∀ kernel socket backlog, filing (Kernel.listen kernel socket backlog).2 = filing kernel
  send : ∀ kernel socket bytes, filing (Kernel.send kernel socket bytes).2 = filing kernel
  close : ∀ kernel socket, filing (Kernel.close kernel socket) = filing kernel
  /-- Looking up tells the kind of what is there. -/
  entry_fst : ∀ {kernel path place}, (filing kernel).place? path = some place →
    (Kernel.entry kernel path).1 =
      ((filing kernel).item? place).elim (.error (.os .noEntry)) fun item => .ok (kind item)
  /-- A socket is found only where a path leads. -/
  entry_socket : ∀ {kernel path}, (Kernel.entry kernel path).1 = .ok .socket →
    ∃ place, (filing kernel).place? path = some place
  /-- Removing a socket takes it away, or changes nothing. -/
  remove_ok : ∀ {kernel path place item}, (filing kernel).place? path = some place →
    (filing kernel).item? place = some item → kind item = .socket →
      (Kernel.remove kernel path).1 = .ok () →
        filing (Kernel.remove kernel path).2 = (filing kernel).put place none
  remove_error : ∀ {kernel path error}, (Kernel.remove kernel path).1 = .error error →
    filing (Kernel.remove kernel path).2 = filing kernel
  /-- A socket can be removed where sockets may come and go. -/
  remove_socket : ∀ {kernel path place item}, (filing kernel).place? path = some place →
    (filing kernel).item? place = some item → kind item = .socket → (filing kernel).admits place →
      (Kernel.remove kernel path).1 = .ok ()
  /-- Binding makes a socket where nothing is, or changes nothing. -/
  bind_ok : ∀ {kernel socket path}, (Kernel.bind kernel socket path).1 = .ok () →
    ∃ place item, (filing kernel).place? path = some place ∧
      (filing kernel).item? place = none ∧ kind item = .socket ∧
      filing (Kernel.bind kernel socket path).2 = (filing kernel).put place (some item)
  bind_error : ∀ {kernel socket path error}, (Kernel.bind kernel socket path).1 = .error error →
    filing (Kernel.bind kernel socket path).2 = filing kernel
  /-- A socket can be bound where nothing is and sockets may come and go. -/
  bind_free : ∀ {kernel socket path place}, (filing kernel).place? path = some place →
    (filing kernel).item? place = none → (filing kernel).admits place →
      addressFault? path = none → (Kernel.bind kernel socket path).1 = .ok ()

namespace Files

attribute [reducible, instance] Files.decidable

variable {κ : Type} [Kernel κ] [Files κ]

/-- Nothing is at the place, or a socket. -/
def Slack (kernel : κ) (place : Place κ) : Prop :=
  ∀ item ∈ (filing kernel).item? place, kind item = .socket

/-- The directory on the way of the path is there and lets sockets come and go, and where the path
leads is nothing, or a socket. -/
def Bindable (kernel : κ) (path : String) : Prop :=
  ∃ place, (filing kernel).place? path = some place ∧ (filing kernel).admits place ∧
    Slack kernel place

/-! ## Changes -/

/-- Where these paths lead, sockets have come and gone, and nothing else has changed. -/
structure Shifts (paths : String → Prop) (before after : κ) : Prop where
  place? : (filing after).place? = (filing before).place?
  admits : (filing after).admits = (filing before).admits
  item? : ∀ place, (filing after).item? place = (filing before).item? place ∨
    (∃ path, paths path ∧ (filing before).place? path = some place) ∧
      Slack before place ∧ Slack after place

namespace Shifts

variable {paths more : String → Prop} {before between after : κ}

theorem of_eq (same : filing after = filing before) : Shifts paths before after where
  place? := congrArg Filing.place? same
  admits := congrArg Filing.admits same
  item? place := .inl (congrArg (·.item? place) same)

theorem mono (shifts : Shifts paths before after) (grow : ∀ path, paths path → more path) :
    Shifts more before after where
  place? := shifts.place?
  admits := shifts.admits
  item? place := (shifts.item? place).imp_right fun ⟨⟨path, among, leads⟩, slack⟩ =>
    ⟨⟨path, grow path among, leads⟩, slack⟩

/-- Where nothing was, or a socket, it is so still. -/
theorem slack (shifts : Shifts paths before after) {place : Place κ} (slack : Slack before place) :
    Slack after place := by
  obtain same | ⟨-, -, now⟩ := shifts.item? place
  · rwa [Slack, same]
  · exact now

/-- What was no socket is what it was. -/
theorem item_of_kind (shifts : Shifts paths before after) {place : Place κ} {item : Item κ}
    (there : (filing before).item? place = some item) (other : kind item ≠ .socket) :
    (filing after).item? place = some item := by
  obtain same | ⟨-, slack, -⟩ := shifts.item? place
  · exact same.trans there
  · exact absurd (slack item there) other

theorem trans (first : Shifts paths before between) (second : Shifts paths between after) :
    Shifts paths before after where
  place? := second.place?.trans first.place?
  admits := second.admits.trans first.admits
  item? place := by
    obtain same | ⟨leads, was, is⟩ := second.item? place
    · obtain still | ⟨leads, was, is⟩ := first.item? place
      · exact .inl (same.trans still)
      · exact .inr ⟨leads, was, second.slack is⟩
    · rw [first.place?] at leads
      obtain still | ⟨-, before, -⟩ := first.item? place
      · refine .inr ⟨leads, ?_, is⟩
        rwa [Slack, ← still]
      · exact .inr ⟨leads, before, is⟩

/-- Where a path leads nowhere, nothing changes for it. -/
theorem eq_of_nowhere {path : String} (shifts : Shifts (· = path) before after)
    (nowhere : (filing before).place? path = none) : filing after = filing before := by
  refine Filing.ext shifts.place? (funext fun place => ?_) shifts.admits
  obtain same | ⟨⟨_, rfl, leads⟩, -⟩ := shifts.item? place
  · exact same
  · rw [nowhere] at leads
    cases leads

/-- What can be bound to can be bound to still. -/
theorem bindable (shifts : Shifts paths before after) {path : String}
    (bindable : Bindable before path) : Bindable after path := by
  obtain ⟨place, leads, admits, slack⟩ := bindable
  exact ⟨place, by rw [shifts.place?, leads], by rwa [shifts.admits], shifts.slack slack⟩

end Shifts

/-! ## Clearing the way -/

/-- A change at a place where a path leads, from nothing or a socket to nothing or a socket. -/
theorem Shifts.of_put {before after : κ} {path : String} {place : Place κ} {item : Option (Item κ)}
    (leads : (filing before).place? path = some place) (slack : Slack before place)
    (left : ∀ now ∈ item, kind now = .socket)
    (put : filing after = (filing before).put place item) : Shifts (· = path) before after where
  place? := by rw [put]; rfl
  admits := by rw [put]; rfl
  item? other := by
    by_cases same : other = place
    · subst same
      refine .inr ⟨⟨path, rfl, leads⟩, slack, ?_⟩
      rwa [Slack, put, Filing.item?_put_self]
    · rw [put]
      exact .inl (if_neg same)

/-- A socket is removed, and what is no socket is not. -/
theorem clear_shifts (kernel : κ) (path : String) :
    Shifts (· = path) kernel (Kernel.clear kernel path).2 := by
  have looked := entry kernel path
  have found (socket : (Kernel.entry kernel path).1 = .ok .socket) :
      ∃ place item, (filing kernel).place? path = some place ∧
        (filing kernel).item? place = some item ∧ kind item = .socket := by
    obtain ⟨place, leads⟩ := entry_socket socket
    rw [entry_fst leads] at socket
    cases there : (filing kernel).item? place with
    | none =>
      rw [there] at socket
      cases socket
    | some item =>
      rw [there] at socket
      exact ⟨place, item, leads, there, Except.ok.inj socket⟩
  unfold Kernel.clear
  generalize Kernel.entry kernel path = answer at looked found ⊢
  rcases answer with ⟨_ | kind, after⟩
  · exact .of_eq looked
  · cases kind with
    | socket =>
      dsimp only at looked found ⊢
      cases removed : (Kernel.remove after path).1 with
      | error error => exact .of_eq ((remove_error removed).trans looked)
      | ok _ =>
        obtain ⟨place, item, leads, there, socket⟩ := found rfl
        have slack : Slack kernel place := fun other same => by
          obtain rfl := Option.some.inj (there.symm.trans same)
          exact socket
        have put := remove_ok (by rwa [looked]) (by rwa [looked]) socket removed
        rw [looked] at put
        exact .of_put leads slack (by simp) put
    | file | directory | link => exact .of_eq looked

/-- Where a socket can be bound, nothing is in its way once it was cleared. -/
theorem clear_of_bindable {kernel : κ} {path : String} (bindable : Bindable kernel path) :
    (Kernel.clear kernel path).1 = .ok () ∧
      ∃ place, (filing (Kernel.clear kernel path).2).place? path = some place ∧
        (filing (Kernel.clear kernel path).2).admits place ∧
        (filing (Kernel.clear kernel path).2).item? place = none := by
  obtain ⟨place, leads, admits, slack⟩ := bindable
  have looked := entry kernel path
  have told := entry_fst leads
  unfold Kernel.clear
  generalize Kernel.entry kernel path = answer at looked told ⊢
  obtain ⟨answer, after⟩ := answer
  dsimp only at looked told
  rw [← looked] at leads admits
  cases there : (filing kernel).item? place with
  | none =>
    rw [there, Option.elim_none] at told
    subst told
    refine ⟨rfl, place, leads, admits, ?_⟩
    rwa [looked]
  | some item =>
    rw [there, Option.elim_some, slack item there] at told
    subst told
    have removed : (Kernel.remove after path).1 = .ok () :=
      remove_socket leads (by rwa [looked]) (slack item there) admits
    have put := remove_ok leads (by rwa [looked]) (slack item there) removed
    refine ⟨removed, place, ?_, ?_, ?_⟩
    · rw [put]
      exact leads
    · rw [put]
      exact admits
    · rw [put, Filing.item?_put_self]

/-- What is no socket stays in the way. -/
theorem clear_of_item {kernel : κ} {path : String} {place : Place κ} {item : Item κ}
    (leads : (filing kernel).place? path = some place)
    (there : (filing kernel).item? place = some item) (other : kind item ≠ .socket) :
    (Kernel.clear kernel path).1 = .error .notSocket ∧
      filing (Kernel.clear kernel path).2 = filing kernel := by
  have looked := entry kernel path
  have told := entry_fst leads
  rw [there, Option.elim_some] at told
  unfold Kernel.clear
  generalize Kernel.entry kernel path = answer at looked told ⊢
  obtain ⟨answer, after⟩ := answer
  dsimp only at looked told
  subst told
  cases found : kind item with
  | socket => exact absurd found other
  | file | directory | link => exact ⟨rfl, looked⟩

/-! ## Binding -/

theorem bind_shifts (kernel : κ) (socket : Handle) (path : String) :
    Shifts (· = path) kernel (Kernel.bind kernel socket path).2 := by
  cases bound : (Kernel.bind kernel socket path).1 with
  | error error => exact .of_eq (bind_error bound)
  | ok _ =>
    obtain ⟨place, item, leads, free, made, put⟩ := bind_ok bound
    refine .of_put leads (fun item there => ?_) (fun now same => ?_) put
    · rw [free] at there
      cases there
    · obtain rfl := Option.some.inj same
      exact made

end Files

namespace Channel

open Files

variable {κ : Type} [Kernel κ] [Files κ] (channel : Channel κ)

/-- Binding changes nothing but what is where the path leads, and there only sockets. -/
theorem bindAt_shifts (socket : Handle) (path : String) :
    Shifts (· = path) channel.kernel (channel.bindAt socket path).2.kernel := by
  cases named : hasZero path with
  | true =>
    rw [channel.bindAt_of_zero socket named]
    exact .of_eq rfl
  | false =>
    have cleared := clear_shifts channel.kernel path
    rw [show (channel.bindAt socket path).2.kernel = _ from
      congrArg Prod.snd (channel.bindAt_of_named socket named)]
    generalize Kernel.clear channel.kernel path = answer at cleared ⊢
    rcases answer with ⟨_ | _, kernel⟩
    · exact cleared
    · cases addressFault? path with
      | some errno => exact cleared
      | none => exact cleared.trans (bind_shifts kernel socket path)

/-- Where a socket can be bound, it is. -/
theorem bindAt_of_bindable (socket : Handle) {path : String} (named : hasZero path = false)
    (fits : addressFault? path = none) (bindable : Bindable channel.kernel path) :
    (channel.bindAt socket path).1 = .ok () := by
  obtain ⟨cleared, place, leads, admits, free⟩ := clear_of_bindable bindable
  exact (channel.bindAt_ok_iff socket named fits).2
    ⟨cleared, bind_free leads free admits fits⟩

/-- What is no socket is not touched. -/
theorem bindAt_of_item (socket : Handle) {path : String} {place : Place κ} {item : Item κ}
    (leads : (filing channel.kernel).place? path = some place)
    (there : (filing channel.kernel).item? place = some item) (other : kind item ≠ .socket) :
    (channel.bindAt socket path).1 =
        .error (if hasZero path then .zeroInFileName else .notSocket) ∧
      filing (channel.bindAt socket path).2.kernel = filing channel.kernel := by
  cases named : hasZero path with
  | true =>
    rw [channel.bindAt_of_zero socket named]
    exact ⟨rfl, rfl⟩
  | false =>
    have bound := channel.bindAt_of_named socket named
    obtain ⟨refused, same⟩ := clear_of_item leads there other
    generalize Kernel.clear channel.kernel path = answer at bound refused same
    obtain ⟨answer, kernel⟩ := answer
    dsimp only at refused same
    subst refused
    obtain ⟨answered, left⟩ := Prod.mk.inj bound
    exact ⟨answered, by rw [left]; exact same⟩

/-- What is bound is a socket now, where the path leads. -/
theorem bindAt_of_ok {socket : Handle} {path : String}
    (bound : (channel.bindAt socket path).1 = .ok ()) :
    ∃ place item, (filing channel.kernel).place? path = some place ∧
      (filing (channel.bindAt socket path).2.kernel).item? place = some item ∧
      kind item = .socket := by
  cases named : hasZero path with
  | true =>
    rw [channel.bindAt_of_zero socket named] at bound
    cases bound
  | false =>
    obtain ⟨answered, left⟩ := Prod.mk.inj (channel.bindAt_of_named socket named)
    have cleared := (clear_shifts channel.kernel path).place?
    rw [left, ← cleared]
    rw [answered] at bound
    generalize Kernel.clear channel.kernel path = answer at bound
    rcases answer with ⟨_ | _, kernel⟩
    · cases bound
    · cases fits : addressFault? path with
      | some errno =>
        rw [fits] at bound
        cases bound
      | none =>
        rw [fits] at bound
        obtain ⟨place, item, leads, -, made, put⟩ := bind_ok bound
        exact ⟨place, item, leads, by rw [put, Filing.item?_put_self], made⟩

/-- Where the path leads nowhere, nothing is bound, and nothing changes. -/
theorem bindAt_of_nowhere (socket : Handle) {path : String}
    (nowhere : (filing channel.kernel).place? path = none) :
    (∃ error, (channel.bindAt socket path).1 = .error error) ∧
      filing (channel.bindAt socket path).2.kernel = filing channel.kernel := by
  refine ⟨?_, (channel.bindAt_shifts socket path).eq_of_nowhere nowhere⟩
  cases tried : (channel.bindAt socket path).1 with
  | error error => exact ⟨error, rfl⟩
  | ok _ =>
    obtain ⟨place, -, leads, -⟩ := channel.bindAt_of_ok tried
    rw [nowhere] at leads
    cases leads

end Channel
end ServiceChannel
