import Mathlib.Data.Multiset.MapFold
import PacedCalls.Proofs.Rate.Pace

set_option autoImplicit false

namespace PacedCalls.Rate

/-- Slots that lie at least `interval` apart, the newest first. -/
def Spaced (interval : ℕ) (slots : List ℕ) : Prop :=
  slots.Pairwise fun newer older => older + interval ≤ newer

theorem Spaced.spread {interval newest : ℕ} {slots : List ℕ}
    (h : Spaced interval (newest :: slots)) :
    ∃ oldest ∈ newest :: slots, oldest + slots.length * interval ≤ newest := by
  induction slots generalizing newest with
  | nil => exact ⟨newest, by simp, by simp⟩
  | cons next slots ih =>
    obtain ⟨apart, rest⟩ := List.pairwise_cons.mp h
    obtain ⟨oldest, mem, far⟩ := ih rest
    refine ⟨oldest, List.mem_cons_of_mem _ mem, ?_⟩
    have step := apart next (by simp)
    rw [List.length_cons, Nat.succ_mul]
    omega

/-- Uses are pairs of a slot and an instant at which it is used. -/
def Prompt (slack : ℕ) (uses : Multiset (ℕ × ℕ)) : Prop :=
  ∀ use ∈ uses, use.1 ≤ use.2 ∧ use.2 < use.1 + slack

/-- Slots that are used promptly, and once at most, are not used too often in any window. -/
theorem Spaced.window {interval slack : ℕ} {slots : List ℕ} (h : Spaced interval slots)
    {uses : Multiset (ℕ × ℕ)} (once : uses.map Prod.fst ≤ slots) (prompt : Prompt slack uses)
    (pos : 0 < slack) {start length : ℕ}
    (inside : ∀ use ∈ uses, start ≤ use.2 ∧ use.2 ≤ start + length) :
    (uses.card - 1) * interval < length + slack := by
  obtain ⟨used, perm, sublist⟩ : (uses.map Prod.fst).toList.Subperm slots := by
    rwa [← Multiset.coe_le, Multiset.coe_toList]
  have mem_used (slot : ℕ) (hs : slot ∈ used) : ∃ use ∈ uses, use.1 = slot := by
    rw [perm.mem_iff, Multiset.mem_toList, Multiset.mem_map] at hs
    exact hs
  have card_eq : uses.card = used.length := by
    rw [perm.length_eq, Multiset.length_toList, Multiset.card_map]
  have spaced : Spaced interval used := h.sublist sublist
  rw [card_eq]
  cases used with
  | nil =>
    simp only [List.length_nil, Nat.zero_sub, Nat.zero_mul]
    omega
  | cons newest rest =>
    obtain ⟨oldest, mem, far⟩ := spaced.spread
    obtain ⟨first, hf, rfl⟩ := mem_used oldest mem
    obtain ⟨last, hl, rfl⟩ := mem_used newest (by simp)
    have := prompt first hf
    have := prompt last hl
    have := inside first hf
    have := inside last hl
    rw [List.length_cons, Nat.add_sub_cancel]
    omega

section

variable {R : Type} [Scalar R]

/-- The slots that a controller has reserved; it remembers the newest. -/
structure Controller.Reserved (interval : ℕ) (c : Controller R) (slots : List ℕ) : Prop where
  last : c.lastSlot = slots.head?
  spaced : Spaced interval slots

namespace Controller.Reserved

variable {interval : ℕ} {c : Controller R} {slots : List ℕ}

theorem reserve (h : c.Reserved interval slots) (slow : interval ≤ gap c.limits.current)
    (now : ℕ) : (c.reserve now).2.Reserved interval ((c.reserve now).1 :: slots) where
  last := rfl
  spaced := by
    refine List.pairwise_cons.mpr ⟨fun older mem => ?_, h.spaced⟩
    cases slots with
    | nil => cases mem
    | cons last rest =>
      have hlast : c.lastSlot = some last := h.last
      have behind : last + gap c.limits.current ≤ (c.reserve now).1 := by
        simp only [Controller.reserve, hlast]
        exact le_max_left _ _
      rcases List.mem_cons.mp mem with rfl | mem
      · omega
      · have := (List.pairwise_cons.mp h.spaced).1 older mem
        omega

omit [Scalar R] in
theorem mono {c' : Controller R} (h : c.Reserved interval slots) (same : c'.lastSlot = c.lastSlot) :
    c'.Reserved interval slots where
  last := same.trans h.last
  spaced := h.spaced

end Controller.Reserved

theorem Controller.le_reserve (c : Controller R) (now : ℕ) : now ≤ (c.reserve now).1 := by
  simp only [Controller.reserve]
  split
  · exact le_max_right _ _
  · exact le_rfl

end

end PacedCalls.Rate
