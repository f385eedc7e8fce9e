import Mathlib.Data.List.Nodup
import Mathlib.Logic.Function.Iterate

/-!
# Notifiers

Who waits at a notifier waits for one notification. It goes to the one who has waited longest, or is
kept, once, for the next who comes while nobody waits. Who gives up a wait passes on a notification
that went to it.

- `Waits`: who waits at a notifier, and who need not wait any longer.
- `Notifier`: a notifier, which does what is said of its waits.
- `Waits.iterate_notify`: several notifications in a row.
- `Waits.Sound`: what is true of the waits at any time.
- `Waits.pending`: the notifications that have not ended a wait yet.
-/

namespace ServiceChannel

/-- The waits at a notifier. -/
structure Waits where
  /-- The waits that go on, the longest first. -/
  queue : List Nat := []
  /-- The waits that were notified, and do not know it yet. -/
  notified : List Nat := []
  /-- A notification is kept for the next wait. -/
  kept : Bool := false
  deriving DecidableEq

namespace Waits

/-- Notifies the longest wait. Without any, the notification is kept, and one is enough. -/
def notify (waits : Waits) : Waits :=
  match waits.queue with
  | [] => { waits with kept := true }
  | first :: others => { waits with queue := others, notified := waits.notified ++ [first] }

/-- Looks whether a wait is over, and begins it if it was not begun. -/
def look (waits : Waits) (wait : Nat) : Bool × Waits :=
  if wait ∈ waits.notified then (true, { waits with notified := waits.notified.erase wait })
  else if wait ∈ waits.queue then (false, waits)
  else if waits.kept then (true, { waits with kept := false })
  else (false, { waits with queue := waits.queue ++ [wait] })

/-- Gives a wait up. Its notification, if it has one, goes on to the next. -/
def abandon (waits : Waits) (wait : Nat) : Waits :=
  if wait ∈ waits.notified then notify { waits with notified := waits.notified.erase wait }
  else { waits with queue := waits.queue.erase wait }

end Waits

/-- A notifier: what is done with it is done with the waits at it. -/
class Notifier (ν : Type) where
  /-- A new notifier. -/
  quiet : ν
  /-- Notifies one wait, or the next. -/
  notify : ν → ν
  /-- Whether a wait is over, once it is looked at. -/
  look : ν → Nat → Bool × ν
  /-- A wait is given up. -/
  abandon : ν → Nat → ν
  waits : ν → Waits
  waits_quiet : waits quiet = {}
  waits_notify : ∀ notifier, waits (notify notifier) = (waits notifier).notify
  look_fst : ∀ notifier wait, (look notifier wait).1 = ((waits notifier).look wait).1
  waits_look : ∀ notifier wait, waits (look notifier wait).2 = ((waits notifier).look wait).2
  waits_abandon : ∀ notifier wait,
    waits (abandon notifier wait) = (waits notifier).abandon wait

/-- The waits themselves are a notifier. -/
instance : Notifier Waits where
  quiet := {}
  notify := Waits.notify
  look := Waits.look
  abandon := Waits.abandon
  waits := id
  waits_quiet := rfl
  waits_notify _ := rfl
  look_fst _ _ := rfl
  waits_look _ _ := rfl
  waits_abandon _ _ := rfl

theorem Notifier.waits_iterate_notify {ν : Type} [Notifier ν] (notifier : ν) (times : Nat) :
    waits (notify^[times] notifier) = Waits.notify^[times] (waits notifier) := by
  induction times generalizing notifier with
  | zero => rfl
  | succ times ih => rw [Function.iterate_succ_apply, Function.iterate_succ_apply, ih, waits_notify]

namespace Waits

variable {waits : Waits} {wait other : Nat}

/-! ## Notifications -/

/-- Several notifications go to as many waits, the longest first, and one is kept if there are more
of them than waits. -/
theorem iterate_notify (waits : Waits) (times : Nat) :
    notify^[times] waits = {
      queue := waits.queue.drop times
      notified := waits.notified ++ waits.queue.take times
      kept := waits.kept || decide (waits.queue.length < times) } := by
  induction times generalizing waits with
  | zero => simp
  | succ times ih =>
    rw [Function.iterate_succ_apply, ih, notify]
    split
    · rename_i none
      simp [none]
    · rename_i first others queue
      simp [queue]

theorem mem_notified_notify (notified : wait ∈ waits.notified) : wait ∈ waits.notify.notified := by
  unfold notify
  split
  · exact notified
  · exact List.mem_append_left _ notified

theorem kept_notify (kept : waits.kept = true) : waits.notify.kept = true := by
  unfold notify
  split
  · rfl
  · exact kept

/-! ## Invariant -/

/-- What is true of the waits at any time. -/
structure Sound (waits : Waits) : Prop where
  /-- Each wait is there once. -/
  distinct : (waits.notified ++ waits.queue).Nodup
  /-- Nothing is kept while there is a wait that goes on. -/
  spare : waits.kept = true → waits.queue = []

namespace Sound

theorem empty : Sound {} := ⟨List.nodup_nil, nofun⟩

theorem notify (sound : waits.Sound) : waits.notify.Sound := by
  unfold Waits.notify
  split
  · rename_i none
    exact ⟨sound.distinct, fun _ => none⟩
  · rename_i first others queue
    refine ⟨?_, fun kept => ?_⟩
    · have distinct := sound.distinct
      rw [queue] at distinct
      simpa using distinct
    · have none := sound.spare kept
      rw [queue] at none
      cases none

theorem iterate_notify (sound : waits.Sound) (times : Nat) :
    (Waits.notify^[times] waits).Sound := by
  induction times generalizing waits with
  | zero => exact sound
  | succ times ih => exact ih sound.notify

/-- A wait less. -/
theorem erase_notified (sound : waits.Sound) (wait : Nat) :
    Sound { waits with notified := waits.notified.erase wait } :=
  ⟨sound.distinct.sublist (List.erase_sublist.append (List.Sublist.refl _)), sound.spare⟩

theorem look (sound : waits.Sound) (wait : Nat) : (waits.look wait).2.Sound := by
  unfold Waits.look
  split
  · exact sound.erase_notified wait
  · rename_i unnotified
    split
    · exact sound
    · rename_i unqueued
      split
      · exact ⟨sound.distinct, nofun⟩
      · rename_i unkept
        refine ⟨?_, fun kept => absurd kept unkept⟩
        rw [← List.append_assoc, ← List.concat_eq_append, List.nodup_concat]
        exact ⟨fun among => (List.mem_append.1 among).elim unnotified unqueued, sound.distinct⟩

theorem abandon (sound : waits.Sound) (wait : Nat) : (waits.abandon wait).Sound := by
  unfold Waits.abandon
  split
  · exact (sound.erase_notified wait).notify
  · refine ⟨?_, fun kept => ?_⟩
    · exact sound.distinct.sublist ((List.Sublist.refl _).append List.erase_sublist)
    · rw [sound.spare kept]
      rfl

end Sound

/-! ## Looks -/

/-- A wait that was notified is over. -/
theorem look_of_notified (notified : wait ∈ waits.notified) :
    waits.look wait = (true, { waits with notified := waits.notified.erase wait }) :=
  if_pos notified

/-- A wait that goes on is not over. -/
theorem look_of_queued (sound : waits.Sound) (queued : wait ∈ waits.queue) :
    waits.look wait = (false, waits) := by
  have unnotified : wait ∉ waits.notified := fun notified =>
    (List.nodup_append.1 sound.distinct).2.2 wait notified wait queued rfl
  rw [look, if_neg unnotified, if_pos queued]

/-- A wait that was not notified finds the notification that is kept. -/
theorem look_of_kept (sound : waits.Sound) (kept : waits.kept = true)
    (unnotified : wait ∉ waits.notified) :
    waits.look wait = (true, { waits with kept := false }) := by
  rw [look, if_neg unnotified, sound.spare kept, if_neg List.not_mem_nil, if_pos kept]

/-- Any wait is over while a notification is kept. -/
theorem look_fst_of_kept (sound : waits.Sound) (kept : waits.kept = true) (wait : Nat) :
    (waits.look wait).1 = true := by
  by_cases notified : wait ∈ waits.notified
  · rw [look_of_notified notified]
  · rw [look_of_kept sound kept notified]

/-- Without a notification a new wait is not over. -/
theorem look_fst_of_unkept (unkept : waits.kept = false) (unnotified : wait ∉ waits.notified) :
    (waits.look wait).1 = false := by
  rw [look, if_neg unnotified, unkept]
  split <;> rfl

/-! ## Others -/

theorem mem_notified_look (notified : wait ∈ waits.notified) (elsewhere : wait ≠ other) :
    wait ∈ (waits.look other).2.notified := by
  unfold look
  split
  · exact (List.mem_erase_of_ne elsewhere).2 notified
  · split
    · exact notified
    · split <;> exact notified

theorem mem_notified_abandon (notified : wait ∈ waits.notified) (elsewhere : wait ≠ other) :
    wait ∈ (waits.abandon other).notified := by
  unfold abandon
  split
  · exact mem_notified_notify ((List.mem_erase_of_ne elsewhere).2 notified)
  · exact notified

theorem kept_abandon (kept : waits.kept = true) : (waits.abandon wait).kept = true := by
  unfold abandon
  split
  · exact kept_notify kept
  · exact kept

/-! ## Count -/

/-- The notifications that have not ended a wait yet. -/
def pending (waits : Waits) : Nat := waits.notified.length + waits.kept.toNat

theorem pending_notify_le (waits : Waits) : waits.notify.pending ≤ waits.pending + 1 := by
  unfold notify pending
  split
  · have one := Bool.toNat_le waits.kept
    dsimp only [Bool.toNat_true]
    omega
  · simp only [List.length_append, List.length_singleton]
    omega

theorem pending_iterate_notify_le (waits : Waits) (times : Nat) :
    (notify^[times] waits).pending ≤ waits.pending + times := by
  induction times generalizing waits with
  | zero => exact Nat.le_refl _
  | succ times ih =>
    have first := waits.pending_notify_le
    have others := ih waits.notify
    rw [Function.iterate_succ_apply]
    omega

/-- A wait that is over takes one notification. -/
theorem pending_look (waits : Waits) (wait : Nat) :
    (waits.look wait).2.pending + (waits.look wait).1.toNat = waits.pending := by
  unfold look pending
  split
  · rename_i notified
    have some := List.length_pos_of_mem notified
    simp only [List.length_erase_of_mem notified, Bool.toNat_true]
    omega
  · split
    · rfl
    · split
      · rename_i kept
        rw [kept]
        rfl
      · rfl

/-- A wait that is given up takes none. -/
theorem pending_abandon_le (waits : Waits) (wait : Nat) :
    (waits.abandon wait).pending ≤ waits.pending := by
  unfold abandon
  split
  · rename_i notified
    have some := List.length_pos_of_mem notified
    have passed := pending_notify_le { waits with notified := waits.notified.erase wait }
    simp only [pending, List.length_erase_of_mem notified] at passed ⊢
    omega
  · exact Nat.le_refl _

end Waits
end ServiceChannel
