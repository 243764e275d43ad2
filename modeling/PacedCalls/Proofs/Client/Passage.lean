import PacedCalls.Proofs.Client.Fleet
import PacedCalls.Proofs.Parts
import PacedCalls.Proofs.Rate.Books

/-!
How a pass goes through the chain of a client. Whatever the layers of the user do, it comes by the
last throttle before the transport; there it gets a permit for a slot of its own, and between the
permit and the transport it never waits.
-/

set_option autoImplicit false

namespace PacedCalls

open Rate (Hand Deal Deals)

namespace Chain

section

variable {R T U S : Type}

/-- A throttle is still ahead, and nothing but a tracer behind the last one. -/
inductive Guarded : List (Layer R U S) → Prop where
  | last (count : Bool) : Guarded [.throttle count, .tracing]
  | layer (layer : Layer R U S) {inner : List (Layer R U S)} (h : Guarded inner) :
      Guarded (layer :: inner)

theorem guarded_append (outer : List (Layer R U S)) (count : Bool) :
    Guarded (outer ++ [.throttle count, .tracing]) := by
  induction outer with
  | nil => exact .last count
  | cons layer outer ih => exact .layer layer ih

theorem Guarded.behind_custom {m : Middleware R U S} {inner : List (Layer R U S)}
    (h : Guarded (.custom m :: inner)) : Guarded inner := by
  cases h with
  | layer _ h => exact h

theorem Guarded.behind_tracing {inner : List (Layer R U S)} (h : Guarded (.tracing :: inner)) :
    Guarded inner := by
  cases h with
  | layer _ h => exact h

theorem Guarded.behind_throttle {count : Bool} {inner : List (Layer R U S)}
    (h : Guarded (.throttle count :: inner)) : Guarded inner ∨ inner = [.tracing] := by
  cases h with
  | last => exact .inr rfl
  | layer _ h => exact .inl h

theorem Guarded.behind {outer inner : List (Layer R U S)} {m : Middleware R U S}
    (h : Guarded (outer ++ .custom m :: inner)) : Guarded inner := by
  induction outer with
  | nil => exact h.behind_custom
  | cons layer outer ih =>
    rw [List.cons_append] at h
    generalize rest : outer ++ .custom m :: inner = layers at h
    cases h with
    | last count => cases outer <;> simp at rest
    | layer _ h => exact ih (rest ▸ h)

/-- The permit of a request that has only these layers before it: it has one if it is behind the
last throttle. -/
def permits : List (Layer R U S) → ℕ
  | [] => 1
  | [.tracing] => 1
  | _ => 0

theorem Guarded.permits {layers : List (Layer R U S)} (h : Guarded layers) :
    permits layers = 0 := by
  cases h with
  | last => rfl
  | layer layer h =>
    cases h with
    | last => cases layer <;> rfl
    | layer => cases layer <;> rfl

theorem permits_le_one (layers : List (Layer R U S)) : Chain.permits layers ≤ 1 := by
  unfold Chain.permits
  split <;> omega

def Pass.hand : Pass R U S → Hand
  | .entering layers _ _ => (0, Chain.permits layers)
  | .queued slot _ _ _ _ => ({slot}, 0)
  | .sent _ _ _ => 0
  | .leaving _ _ => 0

theorem Guarded.hand {layers : List (Layer R U S)} (h : Guarded layers) (request : Request)
    (frames : List (Frame R U S)) : (Pass.entering layers request frames).hand = 0 := by
  rw [Pass.hand, h.permits]
  rfl

/-- A layer that waits has a throttle ahead for whatever it may still send. -/
def Frame.Proper : Frame R U S → Prop
  | .custom _ _ _ inner => Guarded inner
  | _ => True

theorem Frame.proper_throttle (count : Bool) (request : Request) {frames : List (Frame R U S)}
    (around : ∀ f ∈ frames, f.Proper) : ∀ f ∈ throttle count request :: frames, f.Proper :=
  List.forall_mem_cons.mpr ⟨trivial, around⟩

theorem Frame.proper_tracing {frames : List (Frame R U S)} (around : ∀ f ∈ frames, f.Proper) :
    ∀ f ∈ tracing :: frames, f.Proper :=
  List.forall_mem_cons.mpr ⟨trivial, around⟩

inductive Pass.Proper : Pass R U S → Prop where
  | entering {layers : List (Layer R U S)} (request : Request) {frames : List (Frame R U S)}
      (ahead : Guarded layers) (around : ∀ f ∈ frames, f.Proper) :
      Proper (.entering layers request frames)
  | tracing (request : Request) {frames : List (Frame R U S)} (around : ∀ f ∈ frames, f.Proper) :
      Proper (.entering [.tracing] request frames)
  | arrived (request : Request) {frames : List (Frame R U S)} (around : ∀ f ∈ frames, f.Proper) :
      Proper (.entering [] request frames)
  | queued (slot : ℕ) (count : Bool) {inner : List (Layer R U S)} (request : Request)
      {frames : List (Frame R U S)} (ahead : Guarded inner ∨ inner = [.tracing])
      (around : ∀ f ∈ frames, f.Proper) : Proper (.queued slot count inner request frames)
  | sent (result : Exchange) (arrival : ℕ) {frames : List (Frame R U S)}
      (around : ∀ f ∈ frames, f.Proper) : Proper (.sent result arrival frames)
  | leaving (result : Exchange) {frames : List (Frame R U S)} (around : ∀ f ∈ frames, f.Proper) :
      Proper (.leaving result frames)

theorem Pass.proper_entering {layers : List (Layer R U S)} (request : Request)
    {frames : List (Frame R U S)} (ahead : Guarded layers ∨ layers = [.tracing])
    (around : ∀ f ∈ frames, f.Proper) : (Pass.entering layers request frames).Proper := by
  rcases ahead with ahead | rfl
  · exact .entering request ahead around
  · exact .tracing request around

theorem Pass.start_proper {layers : List (Layer R U S)} (ahead : Guarded layers)
    (request : Request) :
    (Pass.start layers request).Proper ∧ (Pass.start layers request).hand = 0 :=
  ⟨.entering request ahead (by simp), ahead.hand request []⟩

theorem expired_mem {now : ℕ} {frames outer : List (Frame R U S)} {m : Middleware R U S}
    {memo : S} {inner : List (Layer R U S)}
    (h : expired? now frames = some (m, memo, inner, outer)) :
    (∃ limit, .custom m memo limit inner ∈ frames) ∧ outer ⊆ frames := by
  induction frames with
  | nil => cases h
  | cons frame frames ih =>
    have later (h : expired? now frames = some (m, memo, inner, outer)) :
        (∃ limit, .custom m memo limit inner ∈ frame :: frames) ∧ outer ⊆ frame :: frames := by
      obtain ⟨⟨limit, hm⟩, sub⟩ := ih h
      exact ⟨⟨limit, List.mem_cons_of_mem _ hm⟩, fun f hf => List.mem_cons_of_mem _ (sub hf)⟩
    cases frame with
    | custom m' memo' limit inner' =>
      simp only [expired?] at h
      split at h
      · cases h
        exact ⟨⟨limit, List.mem_cons_self⟩, List.subset_cons_self _ _⟩
      · exact later h
    | throttle => exact later h
    | tracing => exact later h

theorem expired_proper {now : ℕ} {frames outer : List (Frame R U S)} {m : Middleware R U S}
    {memo : S} {inner : List (Layer R U S)} (h : expired? now frames = some (m, memo, inner, outer))
    (around : ∀ f ∈ frames, f.Proper) : Guarded inner ∧ ∀ f ∈ outer, f.Proper := by
  obtain ⟨⟨limit, mem⟩, sub⟩ := expired_mem h
  exact ⟨around _ mem, fun f hf => around f (sub hf)⟩

theorem Pass.follow_goes {m : Middleware R U S} {inner : List (Layer R U S)}
    {frames : List (Frame R U S)} {lane lane' : Lane R T U} {act : Act S × U × List (Event R)}
    {pass : Pass R U S} {events : List (Event R)}
    (h : Pass.follow m inner frames lane act = .goes pass lane' events) (ahead : Guarded inner)
    (around : ∀ f ∈ frames, f.Proper) :
    pass.Proper ∧ pass.hand = 0 ∧ lane'.governor = lane.governor ∧ lane'.remote = lane.remote := by
  obtain ⟨act, user, reports⟩ := act
  cases act with
  | proceed request memo limit =>
    cases h
    exact ⟨.entering request ahead (List.forall_mem_cons.mpr ⟨ahead, around⟩),
      ahead.hand request _, rfl, rfl⟩
  | reply result =>
    cases h
    exact ⟨.leaving result around, rfl, rfl, rfl⟩

theorem Pass.follow_goes_on (m : Middleware R U S) (inner : List (Layer R U S))
    (frames : List (Frame R U S)) (lane : Lane R T U) (act : Act S × U × List (Event R)) :
    ∃ pass lane' events, Pass.follow m inner frames lane act = .goes pass lane' events := by
  obtain ⟨act, user, reports⟩ := act
  cases act <;> exact ⟨_, _, _, rfl⟩

end

end Chain

section

variable {R T U : Type} [Scalar R]

/-- Deals with the controller of a lane, and the starts of its transport that come of them. -/
def Lane.Deals (now : ℕ) (lane : Lane R T U) (hand : Hand) (lane' : Lane R T U) (hand' : Hand) :
    Prop :=
  ∃ starts, Rate.Deals now lane.governor hand lane'.governor hand' starts ∧
    lane'.remote.starts = starts + lane.remote.starts

theorem Lane.deals_of_keep {now : ℕ} {lane lane' : Lane R T U} {hand hand' : Hand}
    (remote : lane'.remote = lane.remote)
    (slot : lane'.governor.lastSlot = lane.governor.lastSlot)
    (rate : ∀ base, lane.governor.limits.Within base → lane'.governor.limits.Within base)
    (drop : hand' ≤ hand) : lane.Deals now hand lane' hand' :=
  ⟨0, (Deal.keep _ _ _ slot rate drop).deals, by rw [remote, zero_add]⟩

end

namespace Chain

variable {R T U S : Type} [Scalar R]

theorem feedback_keeps [Scalar.Lawful R] (count : Bool) (request : Request) (result : Exchange)
    (c : Rate.Controller R) :
    (feedback count request result c).1.lastSlot = c.lastSlot ∧
      ∀ base, c.limits.Within base → (feedback count request result c).1.limits.Within base := by
  simp only [feedback]
  split
  · exact ⟨rfl, fun _ h => h⟩
  · split
    · exact ⟨rfl, fun _ h => Rate.within_heed h .increase⟩
    · split
      · exact ⟨rfl, fun _ h => Rate.within_heed h .decrease⟩
      · exact ⟨rfl, fun _ h => h⟩

variable {now : ℕ} {lane lane' : Lane R T U} {events : List (Event R)}

theorem Pass.follow_deals {m : Middleware R U S} {inner : List (Layer R U S)}
    {frames : List (Frame R U S)} {act : Act S × U × List (Event R)} {pass : Pass R U S}
    {hand : Hand} (h : Pass.follow m inner frames lane act = .goes pass lane' events)
    (ahead : Guarded inner) (around : ∀ f ∈ frames, f.Proper) :
    pass.Proper ∧ lane.Deals now hand lane' pass.hand := by
  obtain ⟨proper, none, governor, remote⟩ := Pass.follow_goes h ahead around
  refine ⟨proper, Lane.deals_of_keep remote (by rw [governor]) (fun _ h => by rwa [governor]) ?_⟩
  rw [none]
  exact ⟨zero_le, zero_le⟩

theorem Pass.wait_deals {moment : ℕ} {frames : List (Frame R U S)} {pass : Pass R U S} {hand : Hand}
    (h : Pass.wait now moment frames lane = .goes pass lane' events)
    (around : ∀ f ∈ frames, f.Proper) : pass.Proper ∧ lane.Deals now hand lane' pass.hand := by
  simp only [Pass.wait] at h
  split at h
  · next late =>
    obtain ⟨ahead, around⟩ := expired_proper late around
    exact Pass.follow_deals h ahead around
  · cases h

omit [Scalar R] in
theorem Pass.wait_not_ends {moment : ℕ} {frames : List (Frame R U S)} {result : Exchange} :
    Pass.wait now moment frames lane ≠ .ends result lane' events := by
  intro h
  simp only [Pass.wait] at h
  split at h
  · obtain ⟨_, _, _, goes⟩ := Pass.follow_goes_on _ _ _ _ _
    rw [goes] at h
    cases h
  · cases h

/-- Behind a throttle a request keeps its permit only if it was the last one. -/
theorem Pass.granted (c : Rate.Controller R) (inner : List (Layer R U S)) (request : Request)
    (frames : List (Frame R U S)) :
    Deal now c ((0, 1) + 0) c.grant (Pass.entering inner request frames).hand 0 :=
  .keep _ _ _ rfl (fun _ h => h) ⟨le_rfl, permits_le_one inner⟩

variable [Transport T]

theorem Pass.enter_throttle {count : Bool} {inner : List (Layer R U S)} {request : Request}
    {frames : List (Frame R U S)} {pass : Pass R U S}
    (h : Pass.enter now (.throttle count :: inner) request frames lane = .goes pass lane' events)
    (ahead : Guarded (.throttle count :: inner)) (around : ∀ f ∈ frames, f.Proper) :
    pass.Proper ∧ lane.Deals now 0 lane' pass.hand := by
  have reserved : Deal now lane.governor 0 (lane.governor.reserve now).2
      (({(lane.governor.reserve now).1}, 0) + 0) 0 := .reserve 0
  simp only [Pass.enter] at h
  split at h
  · cases h
    exact ⟨.queued _ count request ahead.behind_throttle around, 0,
      by simpa [Pass.hand] using reserved.deals, (zero_add _).symm⟩
  · next come =>
    cases h
    have come : (lane.governor.reserve now).1 ≤ now := Nat.le_of_not_lt come
    have proper := Frame.proper_throttle count request around
    exact ⟨Pass.proper_entering request ahead.behind_throttle proper, 0,
      (reserved.deals.then (.grant _ 0 come)).then (Pass.granted _ inner request _),
      (zero_add _).symm⟩

theorem Pass.enter_goes_on (now : ℕ) (layers : List (Layer R U S)) (request : Request)
    (frames : List (Frame R U S)) (lane : Lane R T U) :
    ∃ pass lane' events, Pass.enter now layers request frames lane = .goes pass lane' events := by
  cases layers with
  | nil => exact ⟨_, _, _, rfl⟩
  | cons layer inner =>
    cases layer with
    | custom m => exact Pass.follow_goes_on _ _ _ _ _
    | throttle count =>
      simp only [Pass.enter]
      split <;> exact ⟨_, _, _, rfl⟩
    | tracing => exact ⟨_, _, _, rfl⟩

theorem process_waits {pass : Pass R U S} {wake : Option ℕ}
    (h : process.move now pass lane = .waits wake) :
    pass.hand.2 = 0 ∧ ∀ slot ∈ pass.hand.1, ∃ w ∈ wake, Instant.tick w ≤ Instant.tick slot := by
  cases pass with
  | entering layers request frames =>
    obtain ⟨_, _, _, goes⟩ := Pass.enter_goes_on now layers request frames lane
    simp only [process, goes] at h
    cases h
  | queued slot count inner request frames =>
    refine ⟨rfl, fun s hs => ?_⟩
    rw [Multiset.mem_singleton.mp hs]
    simp only [process] at h
    split at h
    · cases h
    · simp only [Pass.wait] at h
      split at h
      · obtain ⟨_, _, _, goes⟩ := Pass.follow_goes_on _ _ _ _ _
        rw [goes] at h
        cases h
      · cases h
        rcases firstLimit frames with _ | limit
        · exact ⟨slot, rfl, le_rfl⟩
        · exact ⟨min slot limit, rfl, Instant.tick_mono (min_le_left slot limit)⟩
  | sent => simp [Pass.hand]
  | leaving => simp [Pass.hand]

theorem process_ends_leaving {pass : Pass R U S} {result : Exchange}
    (h : process.move now pass lane = .ends result lane' events) :
    pass = .leaving result [] ∧ lane' = lane := by
  cases pass with
  | entering layers request frames =>
    obtain ⟨_, _, _, goes⟩ := Pass.enter_goes_on now layers request frames lane
    simp only [process, goes] at h
    cases h
  | queued slot count inner request frames =>
    simp only [process] at h
    split at h
    · cases h
    · exact absurd h Pass.wait_not_ends
  | sent result' arrival frames =>
    simp only [process] at h
    split at h
    · cases h
    · exact absurd h Pass.wait_not_ends
  | leaving result' frames =>
    cases frames with
    | nil =>
      cases h
      exact ⟨rfl, rfl⟩
    | cons frame frames =>
      cases frame with
      | custom m memo limit inner =>
        obtain ⟨_, _, _, goes⟩ := Pass.follow_goes_on m inner frames lane
          (m.resume now memo result' lane.user)
        simp only [process, Pass.leave, goes] at h
        cases h
      | throttle count request => cases h
      | tracing => cases h

theorem process_ends {pass : Pass R U S} {result : Exchange}
    (h : process.move now pass lane = .ends result lane' events) :
    pass.hand = 0 ∧ lane' = lane := by
  obtain ⟨rfl, same⟩ := process_ends_leaving h
  exact ⟨rfl, same⟩

theorem process_goes [Scalar.Lawful R] {pass pass' : Pass R U S}
    (h : process.move now pass lane = .goes pass' lane' events) (proper : pass.Proper) :
    pass'.Proper ∧ lane.Deals now pass.hand lane' pass'.hand := by
  cases proper with
  | @entering layers request frames ahead around =>
    rw [ahead.hand]
    cases layers with
    | nil => cases ahead
    | cons layer inner =>
      cases layer with
      | custom m => exact Pass.follow_deals h ahead.behind_custom around
      | throttle count => exact Pass.enter_throttle h ahead around
      | tracing =>
        cases h
        have next := ahead.behind_tracing
        exact ⟨.entering request next (Frame.proper_tracing around),
          Lane.deals_of_keep rfl rfl (fun _ h => h) (next.hand request _).le⟩
  | tracing request around =>
    cases h
    exact ⟨.arrived request (Frame.proper_tracing around),
      Lane.deals_of_keep rfl rfl (fun _ h => h) le_rfl⟩
  | arrived request around =>
    cases h
    refine ⟨.sent _ _ around, {now}, (Deal.start 0).deals, ?_⟩
    exact (Multiset.cons_coe _ _).symm
  | @queued slot count inner request frames ahead around =>
    simp only [process] at h
    split at h
    · next due =>
      cases h
      have come : slot ≤ now := (Instant.le_tick slot).trans (by simpa [Instant.due] using due)
      have granted : Deal now lane.governor (({slot}, 0) + 0) lane.governor ((0, 1) + 0) 0 :=
        .grant slot 0 come
      have proper := Frame.proper_throttle count request around
      exact ⟨Pass.proper_entering request ahead proper, 0,
        granted.deals.then (Pass.granted _ inner request _), (zero_add _).symm⟩
    · exact Pass.wait_deals h around
  | sent result arrival around =>
    simp only [process] at h
    split at h
    · cases h
      exact ⟨.leaving result around, Lane.deals_of_keep rfl rfl (fun _ h => h) le_rfl⟩
    · exact Pass.wait_deals h around
  | @leaving result frames around =>
    cases frames with
    | nil => cases h
    | cons frame frames =>
      obtain ⟨proper, rest⟩ := List.forall_mem_cons.mp around
      cases frame with
      | custom m memo limit inner => exact Pass.follow_deals h proper rest
      | throttle count request =>
        cases h
        obtain ⟨slot, rate⟩ := feedback_keeps count request result lane.governor
        exact ⟨.leaving result rest, Lane.deals_of_keep rfl slot rate le_rfl⟩
      | tracing =>
        cases h
        exact ⟨.leaving result rest, Lane.deals_of_keep rfl rfl (fun _ h => h) le_rfl⟩

end Chain

end PacedCalls
