import PacedCalls.Proofs.Rate.Throttle

/-!
Moving the ceiling in exact numbers. A controller keeps its share of the ceiling wherever the
ceiling goes, so that only its last place counts, unless the floor stops the rate on the way; and
what runs at the ceiling stays there until it is turned down.
-/

set_option autoImplicit false

namespace PacedCalls.Rate

/-- Moves the ceiling from place to place, as long as it is not refused. -/
def Controller.moveCeiling {R : Type} [Scalar R] (c : Controller R) (places : List R) :
    Except (ConfigError R) (Controller R) :=
  places.foldlM (fun c place => c.adjusted (.set .base place)) c

def Limits.share (l : Limits ℚ) : ℚ := l.current / l.base

/-- Under a ceiling there: the same share of it, but the floor at least. -/
def Limits.under (l : Limits ℚ) (place : ℚ) : Limits ℚ :=
  { l with base := place, current := max l.min (l.share * place) }

variable {l : Limits ℚ} {c next : Controller ℚ} {place last : ℚ} {places : List ℚ}

namespace Limits.Bounded

theorem base_pos (h : l.Bounded) : 0 < l.base := (Exact.isUsable_iff _).mp h.usableBase

theorem share_le_one (h : l.Bounded) : l.share ≤ 1 :=
  (div_le_one h.base_pos).mpr ((Exact.le_iff _ _).mp h.below)

end Limits.Bounded

theorem adjusted_base_iff (h : c.limits.Bounded) :
    c.adjusted (.set .base place) = .ok next ↔
      c.limits.min ≤ place ∧ next = { c with limits := c.limits.under place } := by
  have floor_pos : 0 < c.limits.min := (Exact.isUsable_iff _).mp h.usableMin
  rcases c.set_cases .base place with ⟨bad, eq⟩ | ⟨-, crossed, eq⟩ | ⟨-, ordered, eq⟩ <;> rw [eq]
  · rw [← Bool.not_eq_true, Exact.isUsable_iff] at bad
    exact ⟨nofun, fun ⟨above, _⟩ => absurd (floor_pos.trans_le above) bad⟩
  · rw [← Bool.not_eq_true, Exact.le_iff] at crossed
    exact ⟨nofun, fun ⟨above, _⟩ => absurd above crossed⟩
  · have above : c.limits.min ≤ place := (Exact.le_iff _ _).mp ordered
    have not_over : c.limits.share * place ≤ place :=
      mul_le_of_le_one_left (floor_pos.trans_le above).le h.share_le_one
    have moved : (c.limits.moved .base place).clamp (c.limits.aim .base place) =
        (c.limits.under place).current := by
      rw [clamp_eq above]
      exact congrArg _ (min_eq_left not_over)
    rw [moved]
    exact ⟨fun same => ⟨above, (Except.ok.inj same).symm⟩, fun ⟨_, same⟩ => congrArg _ same.symm⟩

theorem bounded_adjusted {a : Adjustment ℚ} (h : c.limits.Bounded)
    (accepted : c.adjusted a = .ok next) : next.limits.Bounded := by
  have kept := Controller.bounded_adjust h a
  rwa [Controller.adjust, accepted] at kept

theorem share_under (pos : 0 < place) :
    (l.under place).share = max (l.min / place) l.share := by
  rw [Limits.share, Limits.under, ← max_div_div_right pos.le, mul_div_cancel_right₀ _ pos.ne']

theorem under_of_clear (clear : l.min ≤ l.share * place) :
    (l.under place).current = l.share * place := max_eq_right clear

theorem share_of_clear (pos : 0 < place) (clear : l.min ≤ l.share * place) :
    (l.under place).share = l.share := by
  rw [share_under pos, max_eq_right ((div_le_iff₀ pos).mpr clear)]

theorem share_changes_iff (pos : 0 < place) :
    (l.under place).share ≠ l.share ↔ l.share * place < l.min := by
  rw [share_under pos, ne_eq, max_eq_right_iff, div_le_iff₀ pos, not_le]

theorem adjusted_after_clear (pos : 0 < place) (clear : c.limits.min ≤ c.limits.share * place) :
    Controller.adjusted { c with limits := c.limits.under place } (.set .base last) =
      c.adjusted (.set .base last) := by
  have aim (value : ℚ) : (c.limits.under place).aim .base value = c.limits.aim .base value :=
    congrArg (· * value) (share_of_clear pos clear)
  simp only [Controller.adjusted_set, aim]
  rfl

theorem moveCeiling_cons (h : c.limits.Bounded) {final : Controller ℚ} :
    c.moveCeiling (place :: places) = .ok final ↔
      c.limits.min ≤ place ∧
        Controller.moveCeiling { c with limits := c.limits.under place } places = .ok final := by
  rw [Controller.moveCeiling, List.foldlM_cons]
  cases first : c.adjusted (.set .base place) with
  | error e =>
    refine ⟨nofun, fun ⟨above, _⟩ => ?_⟩
    rw [(adjusted_base_iff h).mpr ⟨above, rfl⟩] at first
    cases first
  | ok next =>
    obtain ⟨above, rfl⟩ := (adjusted_base_iff h).mp first
    exact ⟨fun rest => ⟨above, rest⟩, fun ⟨_, rest⟩ => rest⟩

theorem Limits.Bounded.under (h : l.Bounded) (above : l.min ≤ place) : (l.under place).Bounded :=
  bounded_adjusted (c := { limits := l }) h ((adjusted_base_iff h).mpr ⟨above, rfl⟩)

theorem bounded_moveCeiling (h : c.limits.Bounded) {mid : Controller ℚ}
    (moved : c.moveCeiling places = .ok mid) : mid.limits.Bounded := by
  induction places generalizing c with
  | nil =>
    cases moved
    exact h
  | cons place places ih =>
    obtain ⟨above, rest⟩ := (moveCeiling_cons h).mp moved
    exact ih (h.under above) rest

theorem share_le_of_move (h : c.limits.Bounded) {mid : Controller ℚ}
    (moved : c.moveCeiling places = .ok mid) : c.limits.share ≤ mid.limits.share := by
  induction places generalizing c with
  | nil =>
    cases moved
    exact le_rfl
  | cons place places ih =>
    obtain ⟨above, rest⟩ := (moveCeiling_cons h).mp moved
    have pos : 0 < place := ((bounded_iff _).mp h).1.trans_le above
    calc c.limits.share ≤ (c.limits.under place).share := share_under pos ▸ le_max_right _ _
      _ ≤ mid.limits.share := ih (h.under above) rest

theorem moveCeiling_accepted_iff (h : c.limits.Bounded) :
    (∃ final, c.moveCeiling places = .ok final) ↔ ∀ place ∈ places, c.limits.min ≤ place := by
  induction places generalizing c with
  | nil => exact ⟨fun _ => nofun, fun _ => ⟨c, rfl⟩⟩
  | cons place places ih =>
    simp only [moveCeiling_cons h, exists_and_left, List.forall_mem_cons]
    exact and_congr_right fun above => ih (h.under above)

/-- Places where the rate stays clear of the floor do not matter for the last move. -/
theorem moveCeiling_last (h : c.limits.Bounded)
    (clear : ∀ place ∈ places, c.limits.min ≤ c.limits.share * place) {final : Controller ℚ}
    (moved : c.moveCeiling (places ++ [last]) = .ok final) :
    c.adjusted (.set .base last) = .ok final := by
  induction places generalizing c with
  | nil =>
    obtain ⟨above, rest⟩ := (moveCeiling_cons h).mp moved
    cases rest
    exact (adjusted_base_iff h).mpr ⟨above, rfl⟩
  | cons place places ih =>
    obtain ⟨above, rest⟩ := (moveCeiling_cons h).mp moved
    have pos : 0 < place := ((bounded_iff _).mp h).1.trans_le above
    have here := clear place (List.mem_cons_self ..)
    have same := share_of_clear pos here
    rw [← adjusted_after_clear pos here]
    refine ih (h.under above) (fun other mem => ?_) rest
    rw [same]
    exact clear other (List.mem_cons_of_mem _ mem)

theorem clamp_base (ordered : l.min ≤ l.base) {rate : ℚ} (high : l.base ≤ rate) :
    l.clamp rate = l.base := by
  rw [clamp_eq ordered, min_eq_right high, max_eq_right ordered]

theorem at_ceiling_adjust (h : c.limits.Bounded) (top : c.limits.current = c.limits.base)
    {a : Adjustment ℚ} (up : a ≠ .decrease) :
    (c.adjust a).limits.current = (c.adjust a).limits.base := by
  have ordered : c.limits.min ≤ c.limits.base := (Exact.le_iff _ _).mp h.ordered
  cases a with
  | increase =>
    refine clamp_base ordered ?_
    change c.limits.base ≤ c.limits.current * 2
    linarith [h.base_pos]
  | decrease => exact absurd rfl up
  | reset => rfl
  | set bound value =>
    rcases c.set_cases bound value with ⟨-, eq⟩ | ⟨-, -, eq⟩ | ⟨-, ordered, eq⟩ <;>
      rw [Controller.adjust, eq]
    · exact top
    · exact top
    · refine clamp_base ((Exact.le_iff _ _).mp ordered) ?_
      cases bound with
      | base =>
        change value ≤ c.limits.current / c.limits.base * value
        rw [top, div_self h.base_pos.ne', one_mul]
      | min => exact top.ge

theorem at_ceiling_adjusts (h : c.limits.Bounded) (top : c.limits.current = c.limits.base)
    {adjustments : List (Adjustment ℚ)} (up : ∀ a ∈ adjustments, a ≠ .decrease) :
    (adjustments.foldl Controller.adjust c).limits.current =
      (adjustments.foldl Controller.adjust c).limits.base := by
  induction adjustments generalizing c with
  | nil => exact top
  | cons a more ih =>
    have still := at_ceiling_adjust h top (up a (List.mem_cons_self ..))
    exact ih (Controller.bounded_adjust h a) still fun b mem => up b (List.mem_cons_of_mem _ mem)

/-- Wherever a controller has come to, it goes along with its ceiling, which may be moved to any
places above the floor. If the rate does not meet the floor on the way, it is in the end its share
of the last ceiling, as if the ceiling had been moved there at once. In any case the share does not
get smaller, nor more than the whole; it changes only in a move that would take the rate below the
floor, and this leaves it at the floor. And a rate at the ceiling is there still after anything but
a decrease. -/
theorem keeps_its_share {config : Config ℚ} {fresh : Controller ℚ} {events : List (Event ℚ)}
    (made : Controller.create config = .ok (fresh, events)) (before : List (Adjustment ℚ)) :
    let now := before.foldl Controller.adjust fresh
    (∀ places : List ℚ, (∃ final, now.moveCeiling places = .ok final) ↔
      ∀ place ∈ places, now.limits.min ≤ place) ∧
    (∀ (places : List ℚ) (last : ℚ) (final : Controller ℚ),
      now.moveCeiling (places ++ [last]) = .ok final →
      (∀ place ∈ places ++ [last], now.limits.min ≤ now.limits.share * place) →
        final.limits.current = now.limits.share * last ∧
          now.adjusted (.set .base last) = .ok final) ∧
    (∀ (places : List ℚ) (mid : Controller ℚ), now.moveCeiling places = .ok mid →
      now.limits.share ≤ mid.limits.share ∧ mid.limits.share ≤ 1 ∧
        ∀ (place : ℚ) (next : Controller ℚ), mid.adjusted (.set .base place) = .ok next →
          mid.limits.share ≤ next.limits.share ∧ next.limits.share ≤ 1 ∧
            (next.limits.share ≠ mid.limits.share ↔ mid.limits.share * place < mid.limits.min) ∧
            (mid.limits.share * place < mid.limits.min → next.limits.current = next.limits.min)) ∧
    (now.limits.current = now.limits.base →
      ∀ after : List (Adjustment ℚ), (∀ a ∈ after, a ≠ .decrease) →
        (after.foldl Controller.adjust now).limits.current =
          (after.foldl Controller.adjust now).limits.base) := by
  intro now
  have bounded : now.limits.Bounded := Controller.bounded_adjusts (bounded_of_create made) before
  refine ⟨fun places => moveCeiling_accepted_iff bounded,
    fun places last final moved clear => ?_, fun places mid moved => ?_,
    fun top after up => at_ceiling_adjusts bounded top up⟩
  · have at_once : now.adjusted (.set .base last) = .ok final :=
      moveCeiling_last bounded (fun place mem => clear place (List.mem_append_left _ mem)) moved
    obtain ⟨-, rfl⟩ := (adjusted_base_iff bounded).mp at_once
    exact ⟨under_of_clear (clear last (by simp)), at_once⟩
  · have bounded_mid := bounded_moveCeiling bounded moved
    refine ⟨share_le_of_move bounded moved, bounded_mid.share_le_one, fun place next accepted => ?_⟩
    obtain ⟨above, rfl⟩ := (adjusted_base_iff bounded_mid).mp accepted
    have pos : 0 < place := ((bounded_iff _).mp bounded_mid).1.trans_le above
    exact ⟨share_under pos ▸ le_max_right _ _, (bounded_mid.under above).share_le_one,
      share_changes_iff pos, fun low => max_eq_left low.le⟩

def eightToOne : Config ℚ := { base := 8, min := 1 }

/-- A controller at half its ceiling: by way of 6 it comes to half of 16, and at once as well; below
2 the floor stops it, and its share gets greater. Another one stays at the ceiling, wherever that
and the floor go. -/
theorem keeps_its_share_eightToOne :
    let half := [Adjustment.decrease].foldl Controller.adjust (Controller.ofConfig eightToOne)
    let top := Controller.ofConfig eightToOne
    (∃ final, half.moveCeiling [6, 16] = .ok final ∧
      final.limits.current = half.limits.share * 16 ∧
        half.adjusted (.set .base 16) = .ok final) ∧
      (∃ next, half.adjusted (.set .base (3 / 2)) = .ok next ∧
        next.limits.share ≠ half.limits.share ∧ next.limits.share ≤ 1 ∧
          next.limits.current = next.limits.min) ∧
      let later := [.set .base 2, .set .min 2, .increase, .reset].foldl Controller.adjust top
      later.limits.current = later.limits.base := by
  intro half top
  have made : Controller.create eightToOne = .ok (.ofConfig eightToOne, _) := rfl
  obtain ⟨accepted, at_once, along, -⟩ := keeps_its_share made [.decrease]
  have limits : half.limits = { current := 4, base := 8, min := 1 } := by decide +kernel
  have share : half.limits.share = 1 / 2 := by rw [limits, Limits.share]; norm_num
  have floor : half.limits.min = 1 := by rw [limits]
  have bounded : half.limits.Bounded :=
    Controller.bounded_adjusts (bounded_of_create made) [.decrease]
  refine ⟨?_, ?_, (keeps_its_share made []).2.2.2 rfl _ (by simp)⟩
  · obtain ⟨final, moved⟩ := (accepted [6, 16]).mpr <| by
      change ∀ place ∈ _, half.limits.min ≤ place
      norm_num [floor]
    refine ⟨final, moved, at_once [6] 16 final moved ?_⟩
    change ∀ place ∈ _, half.limits.min ≤ half.limits.share * place
    norm_num [floor, share]
  · have step : half.adjusted (.set .base (3 / 2)) = .ok _ :=
      (adjusted_base_iff bounded).mpr ⟨by norm_num [floor], rfl⟩
    have low : half.limits.share * (3 / 2) < half.limits.min := by norm_num [floor, share]
    obtain ⟨-, -, law⟩ := along [] half rfl
    obtain ⟨-, not_more, changes, stopped⟩ := law (3 / 2) _ step
    exact ⟨_, step, changes.mpr low, not_more, stopped low⟩

end PacedCalls.Rate
