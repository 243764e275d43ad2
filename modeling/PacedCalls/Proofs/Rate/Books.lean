import Mathlib.Algebra.Order.Group.Multiset
import PacedCalls.Proofs.Rate.Slots

/-!
Books on the slots of a controller. A slot that was reserved is waited for; when it has come it is
traded for a permit, and the permit for a start. Each of these may be dropped on the way. The books
say that no slot is used twice, and that a start comes less than a millisecond after its slot.
-/

set_option autoImplicit false

namespace PacedCalls.Rate

/-- Slots that are waited for, and a number of permits that are in hand. -/
abbrev Hand := Multiset ℕ × ℕ

variable {R : Type} [Scalar R]

/-- What users of a controller do at an instant: with the controller, with what they have in hand,
and the starts that come of it. -/
inductive Deal (now : ℕ) (c : Controller R) :
    Hand → Controller R → Hand → Multiset ℕ → Prop where
  | keep (c' : Controller R) (hand hand' : Hand) (slot : c'.lastSlot = c.lastSlot)
      (rate : ∀ base, c.limits.Within base → c'.limits.Within base) (drop : hand' ≤ hand) :
      Deal now c hand c' hand' 0
  | reserve (hand : Hand) :
      Deal now c hand (c.reserve now).2 (({(c.reserve now).1}, 0) + hand) 0
  | grant (slot : ℕ) (hand : Hand) (come : slot ≤ now) :
      Deal now c (({slot}, 0) + hand) c ((0, 1) + hand) 0
  | start (hand : Hand) : Deal now c ((0, 1) + hand) c hand {now}

inductive Deals (now : ℕ) : Controller R → Hand → Controller R → Hand → Multiset ℕ → Prop where
  | none (c : Controller R) (hand : Hand) : Deals now c hand c hand 0
  | more {c c' c'' : Controller R} {hand hand' hand'' : Hand} {starts starts' : Multiset ℕ}
      (before : Deals now c hand c' hand' starts) (last : Deal now c' hand' c'' hand'' starts') :
      Deals now c hand c'' hand'' (starts' + starts)

section

variable {now : ℕ} {c c' c'' : Controller R} {hand hand' hand'' : Hand}
  {starts starts' : Multiset ℕ}

theorem Deal.deals (h : Deal now c hand c' hand' starts) : Deals now c hand c' hand' starts := by
  simpa using Deals.more (.none c hand) h

theorem Deals.then (h : Deals now c hand c' hand' starts)
    (h' : Deal now c' hand' c'' hand'' 0) : Deals now c hand c'' hand'' starts := by
  simpa using Deals.more h h'

theorem Deal.frame (h : Deal now c hand c' hand' starts) (others : Hand) :
    Deal now c (hand + others) c' (hand' + others) starts := by
  cases h with
  | keep _ _ _ slot rate drop =>
    exact .keep c' _ _ slot rate ⟨add_le_add_left drop.1 _, add_le_add_left drop.2 _⟩
  | reserve => rw [add_assoc]; exact .reserve _
  | grant slot hand come => rw [add_assoc, add_assoc]; exact .grant slot _ come
  | start => rw [add_assoc]; exact .start _

theorem Deals.frame (h : Deals now c hand c' hand' starts) (others : Hand) :
    Deals now c (hand + others) c' (hand' + others) starts := by
  induction h with
  | none => exact .none _ _
  | more _ last ih => exact .more ih (last.frame others)

end

/-- All slots that were reserved, the newest first; of these some were used, for some there is a
permit, and some are waited for. -/
structure Accounts (base : R) (now : ℕ) (c : Controller R) (hand : Hand) (starts : Multiset ℕ)
    (slots : List ℕ) (permits : Multiset ℕ) (uses : Multiset (ℕ × ℕ)) : Prop where
  within : c.limits.Within base
  reserved : c.Reserved (gap base) slots
  once : uses.map Prod.fst + permits + hand.1 ≤ slots
  prompt : Prompt Duration.milli uses
  starts : uses.map Prod.snd = starts
  covered : hand.2 ≤ permits.card
  current : ∀ slot ∈ permits, slot ≤ now ∧ now < slot + Duration.milli
  waiting : ∀ slot ∈ hand.1, now ≤ Instant.tick slot

def Balanced (base : R) (now : ℕ) (c : Controller R) (hand : Hand) (starts : Multiset ℕ) : Prop :=
  ∃ slots permits uses, Accounts base now c hand starts slots permits uses

section

variable {base : R} {now : ℕ} {c c' : Controller R} {hand hand' : Hand}
  {starts starts' : Multiset ℕ}

theorem balanced_new (within : c.limits.Within base) (fresh : c.lastSlot = none) :
    Balanced base now c 0 0 :=
  ⟨[], 0, 0, {
    within := within
    reserved := ⟨fresh, List.Pairwise.nil⟩
    once := by simp
    prompt := by simp [Prompt]
    starts := rfl
    covered := le_rfl
    current := by simp
    waiting := by simp }⟩

namespace Accounts

variable {slots : List ℕ} {permits : Multiset ℕ} {uses : Multiset (ℕ × ℕ)} {slot : ℕ}

theorem keep (a : Accounts base now c hand starts slots permits uses)
    (same : c'.lastSlot = c.lastSlot)
    (rate : ∀ base, c.limits.Within base → c'.limits.Within base) (drop : hand' ≤ hand) :
    Accounts base now c' hand' starts slots permits uses where
  within := rate base a.within
  reserved := a.reserved.mono same
  once := (add_le_add_right drop.1 _).trans a.once
  prompt := a.prompt
  starts := a.starts
  covered := drop.2.trans a.covered
  current := a.current
  waiting s hs := a.waiting s (Multiset.mem_of_le drop.1 hs)

theorem grant (a : Accounts base now c (({slot}, 0) + hand) starts slots permits uses)
    (come : slot ≤ now) :
    Accounts base now c ((0, 1) + hand) starts slots ({slot} + permits) uses where
  within := a.within
  reserved := a.reserved
  once := by
    refine le_of_eq_of_le ?_ a.once
    simp only [Prod.fst_add, zero_add]
    abel
  prompt := a.prompt
  starts := a.starts
  covered := by
    have := a.covered
    simp only [Prod.snd_add, Multiset.card_add, Multiset.card_singleton] at this ⊢
    omega
  current s hs := by
    rcases Multiset.mem_add.mp hs with new | old
    · rw [Multiset.mem_singleton.mp new]
      exact ⟨come, (a.waiting slot (by simp)).trans_lt (Instant.tick_lt slot)⟩
    · exact a.current s old
  waiting s hs := a.waiting s (by simpa using .inr (by simpa using hs))

theorem exists_permit (a : Accounts base now c ((0, 1) + hand) starts slots permits uses) :
    ∃ slot rest, permits = slot ::ₘ rest := by
  have covered := a.covered
  simp only [Prod.snd_add] at covered
  have inHand : 0 < permits.card := by omega
  obtain ⟨slot, mem⟩ := Multiset.card_pos_iff_exists_mem.mp inHand
  exact ⟨slot, Multiset.exists_cons_of_mem mem⟩

theorem start (a : Accounts base now c ((0, 1) + hand) starts slots (slot ::ₘ permits) uses) :
    Accounts base now c hand ({now} + starts) slots permits ((slot, now) ::ₘ uses) where
  within := a.within
  reserved := a.reserved
  once := by
    refine le_of_eq_of_le ?_ a.once
    rw [Multiset.map_cons, ← Multiset.singleton_add, ← Multiset.singleton_add]
    simp only [Prod.fst_add, zero_add]
    abel
  prompt use hu := by
    rcases Multiset.mem_cons.mp hu with rfl | old
    · exact a.current slot (by simp)
    · exact a.prompt use old
  starts := by rw [Multiset.map_cons, a.starts, Multiset.singleton_add]
  covered := by
    have := a.covered
    simp only [Prod.snd_add, Multiset.card_cons] at this
    omega
  current s hs := a.current s (Multiset.mem_cons_of_mem hs)
  waiting s hs := a.waiting s (by simpa using hs)

end Accounts

variable [Scalar.Lawful R]

theorem Accounts.reserve {slots : List ℕ} {permits : Multiset ℕ} {uses : Multiset (ℕ × ℕ)}
    (a : Accounts base now c hand starts slots permits uses) :
    Accounts base now (c.reserve now).2 (({(c.reserve now).1}, 0) + hand) starts
      ((c.reserve now).1 :: slots) permits uses where
  within := a.within
  reserved := a.reserved.reserve a.within.gap_le now
  once := by
    rw [Prod.fst_add, add_left_comm, ← Multiset.cons_coe, ← Multiset.singleton_add]
    exact add_le_add_right a.once _
  prompt := a.prompt
  starts := a.starts
  covered := by simpa using a.covered
  current := a.current
  waiting s hs := by
    rcases Multiset.mem_add.mp hs with new | old
    · rw [Multiset.mem_singleton.mp new]
      exact (c.le_reserve now).trans (Instant.le_tick _)
    · exact a.waiting s old

theorem Balanced.deal (h : Balanced base now c hand starts)
    (d : Deal now c hand c' hand' starts') : Balanced base now c' hand' (starts' + starts) := by
  obtain ⟨slots, permits, uses, a⟩ := h
  cases d with
  | keep _ _ _ slot rate drop =>
    rw [zero_add]
    exact ⟨slots, permits, uses, a.keep slot rate drop⟩
  | reserve =>
    rw [zero_add]
    exact ⟨(c.reserve now).1 :: slots, permits, uses, a.reserve⟩
  | grant slot hand come =>
    rw [zero_add]
    exact ⟨slots, {slot} + permits, uses, a.grant come⟩
  | start hand =>
    obtain ⟨slot, rest, rfl⟩ := a.exists_permit
    exact ⟨slots, rest, (slot, now) ::ₘ uses, a.start⟩

theorem Balanced.keep (h : Balanced base now c hand starts) (slot : c'.lastSlot = c.lastSlot)
    (rate : ∀ base, c.limits.Within base → c'.limits.Within base) (drop : hand' ≤ hand) :
    Balanced base now c' hand' starts := by
  simpa using h.deal (.keep c' hand hand' slot rate drop)

theorem Balanced.deals (h : Balanced base now c hand starts)
    (d : Deals now c hand c' hand' starts') : Balanced base now c' hand' (starts' + starts) := by
  induction d with
  | none => simpa using h
  | more _ last ih =>
    rw [add_assoc]
    exact (ih h).deal last

omit [Scalar.Lawful R] in
theorem Balanced.wait (h : Balanced base now c hand starts) {later : ℕ}
    (none : hand.2 = 0) (before : ∀ slot ∈ hand.1, later ≤ Instant.tick slot) :
    Balanced base later c hand starts := by
  obtain ⟨slots, permits, uses, a⟩ := h
  exact ⟨slots, 0, uses, {
    within := a.within
    reserved := a.reserved
    once := by
      rw [add_zero]
      exact (add_le_add_left (le_add_right le_rfl) _).trans a.once
    prompt := a.prompt
    starts := a.starts
    covered := none.le
    current := by simp
    waiting := before }⟩

omit [Scalar.Lawful R] in
/-- Balanced books bound the starts in any window. -/
theorem Balanced.window (h : Balanced base now c hand starts) (start length : ℕ) :
    ((starts.filter fun s => start ≤ s ∧ s ≤ start + length).card - 1) * gap base <
      length + Duration.milli := by
  obtain ⟨slots, permits, uses, a⟩ := h
  have card_eq : (starts.filter fun s => start ≤ s ∧ s ≤ start + length).card =
      (uses.filter fun use => start ≤ use.2 ∧ use.2 ≤ start + length).card := by
    rw [← a.starts, Multiset.filter_map, Multiset.card_map]
    rfl
  have sub := Multiset.filter_le (fun use => start ≤ use.2 ∧ use.2 ≤ start + length) uses
  rw [card_eq]
  refine a.reserved.spaced.window ?_ (fun use hu => a.prompt use (Multiset.mem_of_le sub hu))
    (by decide) fun use hu => (Multiset.mem_filter.mp hu).2
  calc (uses.filter _).map Prod.fst ≤ uses.map Prod.fst := Multiset.map_le_map sub
    _ ≤ uses.map Prod.fst + permits + hand.1 := by
      rw [add_assoc]
      exact le_add_right le_rfl
    _ ≤ slots := a.once

end

end PacedCalls.Rate
