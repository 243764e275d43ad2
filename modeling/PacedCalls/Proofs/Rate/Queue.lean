import Mathlib.Logic.Relation
import PacedCalls.Proofs.Rate.Bounds
import PacedCalls.Proofs.Rate.Slots
import PacedCalls.Rate.Acquire

/-!
The queue for permits. Callers ask for a slot, wait for it, and may leave before it comes. The
controller knows nothing of those that leave: it measures from the slot that it gave away last,
whatever became of it. So an abandoned slot delays the next caller, unless it lies at least a gap
before the slot that would be next without it.
-/

set_option autoImplicit false

namespace PacedCalls.Rate

structure Queue (R : Type) where
  controller : Controller R
  now : ℕ
  granted : List ℕ := []
  waiting : List ℕ := []
  abandoned : List ℕ := []

/-- One gap after the latest of some slots, but not in the past. -/
def nextSlot (now gap : ℕ) (slots : List ℕ) : ℕ :=
  match slots.max? with
  | none => now
  | some last => max now (last + gap)

theorem nextSlot_le_iff {now gap t : ℕ} {slots : List ℕ} :
    nextSlot now gap slots ≤ t ↔ now ≤ t ∧ ∀ slot ∈ slots, slot + gap ≤ t := by
  simp only [nextSlot]
  split
  · next none =>
    rw [List.max?_eq_none_iff] at none
    simp [none]
  · next last latest =>
    obtain ⟨mem, le⟩ := List.max?_eq_some_iff.mp latest
    rw [max_le_iff]
    constructor
    · rintro ⟨hn, hl⟩
      exact ⟨hn, fun slot hs => (Nat.add_le_add_right (le slot hs) gap).trans hl⟩
    · rintro ⟨hn, hs⟩
      exact ⟨hn, hs last mem⟩

/-- More slots do not matter as long as they lie a gap before the next slot. -/
theorem nextSlot_append_eq_iff {now gap : ℕ} {slots more : List ℕ} :
    nextSlot now gap (slots ++ more) = nextSlot now gap slots ↔
      ∀ slot ∈ more, slot + gap ≤ nextSlot now gap slots := by
  obtain ⟨le_now, le_slots⟩ := nextSlot_le_iff.mp (le_refl (nextSlot now gap slots))
  obtain ⟨now_le, all_le⟩ := nextSlot_le_iff.mp (le_refl (nextSlot now gap (slots ++ more)))
  constructor
  · intro same slot hs
    rw [← same]
    exact all_le slot (List.mem_append_right _ hs)
  · intro early
    refine le_antisymm (nextSlot_le_iff.mpr ⟨le_now, fun slot hs => ?_⟩)
      (nextSlot_le_iff.mpr ⟨now_le, fun slot hs => all_le slot (List.mem_append_left _ hs)⟩)
    exact (List.mem_append.mp hs).elim (le_slots slot) (early slot)

theorem max?_congr {slots slots' : List ℕ} (h : ∀ slot, slot ∈ slots ↔ slot ∈ slots') :
    slots.max? = slots'.max? := by
  refine Option.ext fun last => ?_
  simp only [List.max?_eq_some_iff, h]

section

variable {R : Type} [Scalar R]

namespace Queue

def live (q : Queue R) : List ℕ := q.granted ++ q.waiting

def interval (q : Queue R) : ℕ := gap q.controller.limits.current

/-- A caller asks now, and is given a slot: it is granted at once, or waited for. -/
inductive Asks (q : Queue R) : ℕ → Queue R → Prop where
  | granted {slot : ℕ} {c : Controller R} {events : List (Event R)}
      (asks : Acquire.process.move q.now .asking q.controller = .ends slot c events) :
      Asks q slot { q with controller := c, granted := slot :: q.granted }
  | queued {slot : ℕ} {c : Controller R} {events : List (Event R)}
      (asks : Acquire.process.move q.now .asking q.controller = .goes (.waiting slot) c events) :
      Asks q slot { q with controller := c, waiting := slot :: q.waiting }

inductive Step : Queue R → Queue R → Prop where
  | ask {q q' : Queue R} {slot : ℕ} (asks : q.Asks slot q') : Step q q'
  | come {q : Queue R} {slot moment : ℕ} {c : Controller R} {events : List (Event R)}
      (mem : slot ∈ q.waiting)
      (comes : Acquire.process.move q.now (.waiting slot) q.controller = .ends moment c events) :
      Step q
        { q with
          controller := c
          granted := slot :: q.granted
          waiting := q.waiting.erase slot }
  | leave {q : Queue R} {slot : ℕ} (mem : slot ∈ q.waiting) :
      Step q
        { q with
          controller := Acquire.process.abandon (.waiting slot) q.controller
          waiting := q.waiting.erase slot
          abandoned := slot :: q.abandoned }
  | adjust {q : Queue R} (a : Adjustment R) :
      Step q { q with controller := q.controller.adjust a }
  | wait {q : Queue R} {later : ℕ} (h : q.now ≤ later) : Step q { q with now := later }

def Reach : Queue R → Queue R → Prop := Relation.ReflTransGen Step

def queued (q : Queue R) (slot : ℕ) : Queue R :=
  { q with
    controller := { q.controller with lastSlot := some slot }
    waiting := slot :: q.waiting }

def lost (q : Queue R) (slot : ℕ) : Queue R :=
  { q with
    controller := { q.controller with lastSlot := some slot }
    abandoned := slot :: q.abandoned }

/-- The controller remembers the latest slot of all. -/
def Remembered (q : Queue R) : Prop :=
  q.controller.lastSlot = (q.live ++ q.abandoned).max?

end Queue

theorem Controller.lastSlot_adjust (c : Controller R) (a : Adjustment R) :
    (c.adjust a).lastSlot = c.lastSlot := by
  cases a with
  | increase => rfl
  | decrease => rfl
  | reset => rfl
  | set bound value =>
    rcases c.set_cases bound value with ⟨-, eq⟩ | ⟨-, -, eq⟩ | ⟨-, -, eq⟩ <;>
      rw [Controller.adjust, eq]

namespace Queue

variable {q q' : Queue R} {slot : ℕ}

theorem Asks.reserved (h : q.Asks slot q') :
    slot = (q.controller.reserve q.now).1 ∧
      q'.controller.lastSlot = some slot ∧ q'.abandoned = q.abandoned ∧
      ∀ s, s ∈ q'.live ↔ s = slot ∨ s ∈ q.live := by
  have later := q.controller.le_reserve q.now
  cases h with
  | granted asks =>
    simp only [Acquire.process] at asks
    split at asks
    · cases asks
    · next now =>
      cases asks
      have slot_eq : q.now = (q.controller.reserve q.now).1 := le_antisymm later (not_lt.mp now)
      exact ⟨slot_eq, congrArg some slot_eq.symm, rfl, fun s => List.mem_cons⟩
  | queued asks =>
    simp only [Acquire.process] at asks
    split at asks
    · cases asks
      refine ⟨rfl, rfl, rfl, fun s => ?_⟩
      simp only [live, List.mem_append, List.mem_cons]
      exact or_left_comm
    · cases asks

theorem exists_asks (q : Queue R) : ∃ q', q.Asks (q.controller.reserve q.now).1 q' := by
  by_cases later : q.now < (q.controller.reserve q.now).1
  · exact ⟨_, .queued (if_pos later)⟩
  · have now : (q.controller.reserve q.now).1 = q.now :=
      le_antisymm (not_lt.mp later) (q.controller.le_reserve q.now)
    have asks : q.Asks q.now _ := .granted (if_neg later)
    rw [now]
    exact ⟨_, asks⟩

theorem Asks.eq_nextSlot (h : q.Asks slot q') (known : q.Remembered) :
    slot = nextSlot q.now q.interval (q.live ++ q.abandoned) := by
  rw [h.reserved.1, nextSlot, ← known, Controller.reserve]
  cases q.controller.lastSlot with
  | none => rfl
  | some last => exact max_comm _ _

theorem Asks.remembered (h : q.Asks slot q') (known : q.Remembered) : q'.Remembered := by
  obtain ⟨-, last, abandoned, mem_live⟩ := h.reserved
  have latest := nextSlot_le_iff.mp (h.eq_nextSlot known).ge
  rw [Remembered, last]
  symm
  rw [List.max?_eq_some_iff, abandoned]
  simp only [List.mem_append, mem_live] at latest ⊢
  refine ⟨.inl (.inl trivial), fun s hs => ?_⟩
  rcases hs with (rfl | hs) | hs
  · exact le_rfl
  · exact (Nat.le_add_right _ _).trans (latest.2 s (.inl hs))
  · exact (Nat.le_add_right _ _).trans (latest.2 s (.inr hs))

theorem Step.remembered (h : Step q q') (known : q.Remembered) : q'.Remembered := by
  cases h with
  | ask asks => exact asks.remembered known
  | come mem comes =>
    simp only [Acquire.process] at comes
    split at comes
    · cases comes
      -- No slot is given away here; one that was waited for counts as granted from now on.
      refine known.trans (max?_congr fun s => ?_)
      simp only [live, List.mem_append, List.mem_cons, (List.perm_cons_erase mem).mem_iff]
      tauto
    · cases comes
  | leave mem =>
    refine Eq.trans known (max?_congr fun s => ?_)
    simp only [live, List.mem_append, List.mem_cons, (List.perm_cons_erase mem).mem_iff]
    tauto
  | adjust a => exact (q.controller.lastSlot_adjust a).trans known
  | wait => exact known

theorem Reach.remembered (h : Reach q q') (known : q.Remembered) : q'.Remembered := by
  induction h with
  | refl => exact known
  | tail _ step ih => exact step.remembered ih

theorem step_lost (q : Queue R) (slot : ℕ) : Step (q.queued slot) (q.lost slot) := by
  have leaves : Step (q.queued slot) _ := .leave List.mem_cons_self
  rwa [queued, List.erase_cons_head] at leaves

theorem reach_lost {last : ℕ} (known : q.controller.lastSlot = some last)
    (ahead : q.now < last + q.interval) : Reach q (q.lost (last + q.interval)) := by
  have reserved : q.controller.reserve q.now =
      (last + q.interval, { q.controller with lastSlot := some (last + q.interval) }) := by
    simp only [Controller.reserve, known]
    rw [max_eq_left (show q.now ≤ last + gap q.controller.limits.current from ahead.le)]
    rfl
  have move : Acquire.process.move q.now .asking q.controller =
      .goes (.waiting (last + q.interval)) (q.queued (last + q.interval)).controller
        [.permitAwaited (last + q.interval - q.now)] := by
    simp only [Acquire.process, reserved]
    exact if_pos ahead
  exact (Relation.ReflTransGen.single (.ask (.queued move))).tail (step_lost q _)

/-- Whoever asks gets the slot a gap after the latest one that was ever given away. That is a gap
after the latest one that is used or waited for if, and only if, every abandoned slot lies a gap
before it. -/
theorem gives_live_slot_iff {config : Config R} {c : Controller R} {events : List (Event R)}
    (made : Controller.create config = .ok (c, events)) {start : ℕ}
    (reach : Reach { controller := c, now := start } q) :
    (∀ slot, (∃ q', q.Asks slot q') ↔
      slot = nextSlot q.now q.interval (q.live ++ q.abandoned)) ∧
    ((∃ q', q.Asks (nextSlot q.now q.interval q.live) q') ↔
      ∀ s ∈ q.abandoned, s + q.interval ≤ nextSlot q.now q.interval q.live) := by
  have known : q.Remembered := reach.remembered (lastSlot_of_create made)
  have gives (slot : ℕ) : (∃ q', q.Asks slot q') ↔
      slot = nextSlot q.now q.interval (q.live ++ q.abandoned) := by
    constructor
    · rintro ⟨q', asks⟩
      exact asks.eq_nextSlot known
    · rintro rfl
      obtain ⟨q', asks⟩ := q.exists_asks
      exact ⟨q', asks.eq_nextSlot known ▸ asks⟩
  refine ⟨gives, ?_⟩
  rw [gives, eq_comm]
  exact nextSlot_append_eq_iff

def oneASecond : Config Float := { base := 1, min := 1 }

def oneGranted : Queue Float where
  controller := { Controller.ofConfig oneASecond with lastSlot := some 0, granted := 1 }
  now := 0
  granted := [0]

theorem interval_oneGranted : oneGranted.interval = Duration.second := by decide +kernel

/-- After the first permit, a caller that would have had to wait for a second has left. -/
def oneLeft : Queue Float := oneGranted.lost Duration.second

theorem reach_oneLeft : Reach { controller := .ofConfig oneASecond, now := 0 } oneLeft := by
  have asks : Reach { controller := .ofConfig oneASecond, now := 0 } oneGranted :=
    .single (.ask (.granted rfl))
  have leaves : Reach oneGranted (oneGranted.lost (0 + oneGranted.interval)) := by
    refine reach_lost rfl ?_
    rw [interval_oneGranted]
    decide
  rw [interval_oneGranted] at leaves
  exact asks.trans leaves

/-- Five seconds later the abandoned slot does not matter any more. -/
theorem gives_live_slot_iff_longAgo :
    let q := { oneLeft with now := 5 * Duration.second }
    q.live = [0] ∧ q.abandoned = [Duration.second] ∧
      nextSlot q.now q.interval q.live = q.now ∧ ∃ q', q.Asks q.now q' := by
  have made : Controller.create oneASecond = .ok (.ofConfig oneASecond, _) := rfl
  have reach := reach_oneLeft.tail (.wait (show oneLeft.now ≤ 5 * Duration.second from Nat.zero_le _))
  have next : nextSlot (5 * Duration.second) oneLeft.interval oneLeft.live = 5 * Duration.second := by
    decide +kernel
  have gives := (gives_live_slot_iff made reach).2.mpr (by decide +kernel)
  exact ⟨rfl, rfl, next, next ▸ gives⟩

/-- At once it does: the next slot is not a second after the permit, but two. -/
theorem delayed_by_abandoned :
    Reach { controller := .ofConfig oneASecond, now := 0 } oneLeft ∧ oneLeft.live = [0] ∧
      nextSlot oneLeft.now oneLeft.interval oneLeft.live = Duration.second ∧
      ∀ slot, (∃ q', oneLeft.Asks slot q') ↔ slot = 2 * Duration.second := by
  have reserved : (oneLeft.controller.reserve oneLeft.now).1 = 2 * Duration.second := by
    decide +kernel
  refine ⟨reach_oneLeft, rfl, by decide +kernel, fun slot => ?_⟩
  constructor
  · rintro ⟨q', asks⟩
    exact asks.reserved.1.trans reserved
  · rintro rfl
    exact reserved ▸ oneLeft.exists_asks

end Queue

end

end PacedCalls.Rate
