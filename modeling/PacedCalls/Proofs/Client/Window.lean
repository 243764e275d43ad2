import PacedCalls.Proofs.Client.Jobs
import PacedCalls.Proofs.Client.Runs

/-!
The pace of a fleet. However many calls its clients make, and whatever becomes of them, in no
window of time do its transports get more to do than the ceiling of the shared controller allows,
but for the millisecond by which a wait may overrun.
-/

set_option autoImplicit false

namespace PacedCalls.Fleet

open Rate (Hand Deal Balanced)

section

variable {R T U S V P : Type}

def handOf (jobs : List (Job R U S V P)) : Hand := (jobs.map fun job => job.errand.hand).sum

@[simp] theorem handOf_append (before after : List (Job R U S V P)) :
    handOf (before ++ after) = handOf before + handOf after := by
  simp [handOf]

@[simp] theorem handOf_cons (job : Job R U S V P) (jobs : List (Job R U S V P)) :
    handOf (job :: jobs) = job.errand.hand + handOf jobs := by
  simp [handOf]

theorem handOf_at (before after : List (Job R U S V P)) (job : Job R U S V P) :
    handOf (before ++ job :: after) = job.errand.hand + handOf (before ++ after) := by
  rw [handOf_append, handOf_cons, handOf_append, add_left_comm]

theorem handOf_idle {later : ℕ} {jobs : List (Job R U S V P)}
    (h : ∀ job ∈ jobs, job.errand.hand.2 = 0 ∧
      ∀ slot ∈ job.errand.hand.1, later ≤ Instant.tick slot) :
    (handOf jobs).2 = 0 ∧ ∀ slot ∈ (handOf jobs).1, later ≤ Instant.tick slot := by
  induction jobs with
  | nil => simp [handOf]
  | cons job jobs ih =>
    obtain ⟨⟨none, slots⟩, rest⟩ := List.forall_mem_cons.mp h
    obtain ⟨none', slots'⟩ := ih rest
    rw [handOf_cons, Prod.fst_add, Prod.snd_add]
    refine ⟨by omega, fun slot hs => ?_⟩
    rcases Multiset.mem_add.mp hs with hs | hs
    · exact slots slot hs
    · exact slots' slot hs

variable [DecidableEq P]

theorem starts_set [Fintype P] {fleet : Fleet R T U S V P} {place : P} {world : Lane R T U}
    {starts : Multiset ℕ}
    (h : world.remote.starts = starts + ((lane place).get fleet).remote.starts)
    (jobs : List (Job R U S V P)) :
    ((lane place).set world { fleet with jobs := jobs }).starts = starts + fleet.starts := by
  simp only [Fleet.starts]
  rw [← Finset.add_sum_erase _ _ (Finset.mem_univ place),
    ← Finset.add_sum_erase _ (fun p => (fleet.remotes p).starts) (Finset.mem_univ place),
    ← add_assoc]
  congr 1
  · simpa [lane] using h
  · refine Finset.sum_congr rfl fun p hp => ?_
    simp [lane, Function.update_of_ne (Finset.ne_of_mem_erase hp)]

theorem set_get (fleet : Fleet R T U S V P) (place : P) (jobs : List (Job R U S V P)) :
    (lane place).set ((lane place).get fleet) { fleet with jobs := jobs } =
      { fleet with jobs := jobs } := by
  simp [lane]

variable [Scalar R] [Fintype P]

/-- The jobs are as they can come about, and the books on the controller's slots are in order. -/
structure InOrder (base : R) (fleet : Fleet R T U S V P) : Prop where
  proper : ∀ job ∈ fleet.jobs, job.errand.Proper
  balanced : Balanced base fleet.now fleet.governor (handOf fleet.jobs) fleet.starts

variable {base : R} {fleet fleet' : Fleet R T U S V P}

omit [DecidableEq P] in
theorem InOrder.add (h : fleet.InOrder base) {job : Job R U S V P} (proper : job.errand.Proper)
    (none : job.errand.hand = 0) : ({ fleet with jobs := fleet.jobs ++ [job] }).InOrder base where
  proper := by
    intro job' hj
    rcases List.mem_append.mp hj with old | new
    · exact h.proper job' old
    · rw [List.mem_singleton.mp new]
      exact proper
  balanced := by
    have same : handOf (fleet.jobs ++ [job]) = handOf fleet.jobs := by simp [handOf, none]
    exact same ▸ h.balanced

variable [Scalar.Lawful R]

omit [DecidableEq P] in
theorem InOrder.remove (h : fleet.InOrder base) {before after : List (Job R U S V P)}
    {job : Job R U S V P} (here : fleet.jobs = before ++ job :: after) :
    ({ fleet with jobs := before ++ after }).InOrder base where
  proper := fun job' hj => h.proper job' (by
    rw [here]
    rcases List.mem_append.mp hj with hb | ha
    · exact List.mem_append_left _ hb
    · exact List.mem_append_right _ (List.mem_cons_of_mem _ ha))
  balanced := by
    have drop : handOf (before ++ after) ≤ handOf fleet.jobs := by
      rw [here, handOf_at]
      exact ⟨le_add_left le_rfl, Nat.le_add_left _ _⟩
    exact h.balanced.keep rfl (fun _ within => within) drop

theorem InOrder.step [Transport T] (h : fleet.InOrder base) (s : Step fleet fleet') :
    fleet'.InOrder base := by
  cases s with
  | begin place client decode request =>
    obtain ⟨fresh, none⟩ := Chain.Pass.start_proper client.guarded_layers request
    refine h.add ?_ none
    rintro pass ⟨⟩
    exact fresh
  | branch place client outer inner m request behind =>
    have ahead : Chain.Guarded inner := (behind ▸ client.guarded_layers).behind
    obtain ⟨fresh, none⟩ := Chain.Pass.start_proper ahead request
    refine h.add ?_ none
    rintro pass ⟨⟩
    exact fresh
  | move before after job job' world events here moves =>
    obtain ⟨place, proper', starts, deals, remote⟩ :=
      Job.process_goes moves (h.proper job (by simp [here]))
    refine ⟨fun j hj => ?_, ?_⟩
    · rcases List.mem_append.mp hj with hb | ha
      · exact h.proper j (by simp [here, hb])
      · rcases List.mem_cons.mp ha with rfl | ha
        · exact proper'
        · exact h.proper j (by simp [here, ha])
    · have balanced := h.balanced
      rw [here, handOf_at] at balanced
      have after_deals := balanced.deals (deals.frame (handOf (before ++ after)))
      rw [← handOf_at, ← starts_set remote (before ++ job' :: after)] at after_deals
      exact after_deals
  | finish before after job world events here moves =>
    rw [(Job.process_ends moves).2, set_get]
    exact h.remove here
  | cancel before after job here =>
    rw [Job.process_abandon, set_get]
    exact h.remove here
  | heed signal =>
    refine ⟨h.proper, ?_⟩
    exact h.balanced.keep (Rate.lastSlot_heed _ signal)
      (fun _ within => Rate.within_heed within signal) le_rfl
  | reserve =>
    refine ⟨h.proper, ?_⟩
    have reserved := h.balanced.deals (Deal.reserve _).deals
    rw [zero_add] at reserved
    exact reserved.keep rfl (fun _ within => within) ⟨le_add_left le_rfl, Nat.le_add_left _ _⟩
  | drift user => exact ⟨h.proper, h.balanced⟩
  | wait later ahead idle =>
    obtain ⟨none, before⟩ := handOf_idle fun job hj => Job.hand_of_idle (idle job hj)
    exact ⟨h.proper, h.balanced.wait none before⟩

theorem InOrder.reach [Transport T] (h : fleet.InOrder base) (run : Reach fleet fleet') :
    fleet'.InOrder base := by
  induction run with
  | refl => exact h
  | tail _ last ih => exact ih.step last

omit [DecidableEq P] in
theorem inOrder_opening {config : Rate.Config R} {governor : Rate.Controller R}
    {events : List (Event R)} (made : Rate.Controller.create config = .ok (governor, events))
    (transports : P → T) (user : U) (now : ℕ) :
    (opening governor transports user now : Fleet R T U S V P).InOrder config.base where
  proper := by simp [opening]
  balanced := by
    have none : (opening governor transports user now : Fleet R T U S V P).starts = 0 := by
      simp [starts, opening, Remote.starts]
    rw [none]
    exact Rate.balanced_new (Rate.within_of_create made) (Rate.lastSlot_of_create made)

end

/-- The rate limit, from end to end: if `n` exchanges start in a window, `n - 1` gaps at the ceiling
are shorter than the window and a millisecond. -/
theorem starts_in_window {T U S V P : Type} [Transport T] [Fintype P] [DecidableEq P]
    {config : Rate.Config Float} {governor : Rate.Controller Float} {events : List (Event Float)}
    (made : Rate.Controller.create config = .ok (governor, events)) (transports : P → T) (user : U)
    (now : ℕ) {fleet : Fleet Float T U S V P}
    (run : Reach (opening governor transports user now) fleet) (start length : ℕ) :
    ((fleet.starts.filter fun s => start ≤ s ∧ s ≤ start + length).card - 1) *
      Rate.gap config.base < length + Duration.milli :=
  ((inOrder_opening made transports user now).reach run).balanced.window start length

def halfSecondly : Rate.Config Float := { base := 2, min := 1 }

/-- Two clients, each with a transport of its own, make a call; the first one's call is over before
the slot of the other one comes. Meanwhile the rate is lowered. -/
def oneAfterAnother : List (Deed Float Unit Unit Unit Bool) :=
  let request : Request := { method := ⟨"GET"⟩, url := "/" }
  [.begin false {} Body.ignore request, .begin true {} Body.ignore request] ++
    List.replicate 7 (.go 0) ++
    [.go 0, .heed .decrease, .wait 500000000, .go 0, .go 0, .go 0]

/-- The law for these two clients: their exchanges start half a second apart. -/
theorem starts_in_window_oneAfterAnother :
    ∃ fleet : Fleet Float Script Unit Unit Unit Bool,
      Reach (opening (.ofConfig halfSecondly) (fun _ => Script.ofList []) () 0) fleet ∧
      fleet.starts = {500000000, 0} ∧ Rate.gap halfSecondly.base = 500000000 ∧
      ((fleet.starts.filter fun s => 0 ≤ s ∧ s ≤ 0 + 500000000).card - 1) *
        Rate.gap halfSecondly.base < 500000000 + Duration.milli := by
  have run : (play oneAfterAnother
      (opening (.ofConfig halfSecondly) (fun _ => Script.ofList []) () 0 :
        Fleet Float Script Unit Unit Unit Bool)).map Fleet.starts = some {500000000, 0} := by
    decide +kernel
  obtain ⟨fleet, played, starts⟩ := Option.map_eq_some_iff.mp run
  have made : Rate.Controller.create halfSecondly = .ok (.ofConfig halfSecondly, _) := rfl
  exact ⟨fleet, reach_of_play played, starts, by decide +kernel,
    starts_in_window made _ () 0 (reach_of_play played) 0 500000000⟩

end PacedCalls.Fleet
