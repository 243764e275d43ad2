import Mathlib.Algebra.Order.BigOperators.Group.List
import Mathlib.Algebra.Order.Group.Nat
import PacedCalls.Proofs.Cache.Freshness
import PacedCalls.Proofs.Cache.Sources

/-!
Failures are not stored, but the failure of a batch stays on its flights, and these are under way
until the slowest batch of the same read is done. Readers who come meanwhile are answered with it,
without any call of the loader; but for that, a failure is always that of a call which returned
after its reader came.
-/

set_option autoImplicit false

namespace PacedCalls.Cache.Room

variable {R K V E σ L B : Type} [DecidableEq K] {loader : Loader (Event R) K V E σ L B}
  {outside : σ → σ → Prop} {a : Room K V E σ L B} {key : K}

omit [DecidableEq K] in
theorem exists_stale (a : Room K V E σ L B) (key : K) :
    ∃ later, a.now ≤ later ∧ a.cache.Stale key later := by
  let ends := a.cache.store.entries.map fun e => e.since + a.cache.store.ttl
  refine ⟨a.now + ends.sum + 1, by omega, fun e he _ => ?_⟩
  have : e.since + a.cache.store.ttl ≤ ends.sum :=
    List.le_sum_of_mem (List.mem_map.mpr ⟨e, he, rfl⟩)
  omega

variable (loader) in
theorem Sound.served_lingering (ha : a.Sound) {answer : Lookup V E} (h : a.Lingers key answer) :
    ∃ more room, play loader more (a.arrive (.one key)) = some room ∧
      (∃ r ∈ room.records, r.number = a.admitted ∧ r.answers = [answer]) ∧
      history loader more (a.arrive (.one key)) = [] := by
  obtain ⟨flight, under, landed⟩ := h
  have joined : a.cache.underWay.lookup key = some flight :=
    Assoc.lookup_of_mem ha.orderly.keys under
  obtain ⟨later, hlater, stale⟩ := a.exists_stale key
  obtain ⟨s₁, s₂, looks, claims, lands⟩ := Reader.joins_landed loader a.world stale joined landed
  -- The reader comes, lets all that is stored grow old, misses the key, and finds the flight landed.
  let at_ (cache : State K V E) (read : Read K L) : Room K V E σ L B := { a.arrive (.one key) with
    now := later
    cache := cache
    visits := a.visits ++ [{ number := a.admitted, inquiry := .one key, reader := .one read }] }
  have here (cache : State K V E) (read : Read K L) : (at_ cache read).visits = a.visits ++
      [{ number := a.admitted, inquiry := .one key, reader := .one read }] := rfl
  have first : (a.arrive (.one key)).perform loader (.wait later) =
      some (at_ a.cache (.start key)) := if_pos hlater
  have second : (at_ a.cache (.start key)).perform loader (.go a.visits.length) =
      some (at_ s₁ (.claiming key false)) := perform_go (here ..) looks
  have third : (at_ s₁ (.claiming key false)).perform loader (.go a.visits.length) =
      some (at_ s₂ (.waiting key flight)) := perform_go (here ..) claims
  obtain ⟨room, fourth, records⟩ :
      ∃ room, (at_ s₂ (.waiting key flight)).perform loader (.go a.visits.length) = some room ∧
        ∃ r ∈ room.records, r.number = a.admitted ∧ r.answers = [answer] :=
    ⟨_, perform_go_last (here ..) lands, _, List.mem_cons_self, rfl, rfl⟩
  refine ⟨.wait later :: List.replicate 3 (.go a.visits.length), room, ?_, records, ?_⟩
  · simp only [List.replicate, play, first, second, third, fourth, Option.bind_some]
  · have quiet (cache : State K V E) (read : Read K L)
        (idle : read.deliveries loader later (a.arrive (.one key)).world = []) :
        (at_ cache read).deliveries loader (.go a.visits.length) = [] := by
      simpa [at_, deliveries, Reader.deliveries] using idle
    simp only [List.replicate, history, first, second, third, fourth, quiet a.cache (.start key) rfl,
      quiet s₁ (.claiming key false) rfl, quiet s₂ (.waiting key flight) rfl, Option.toList_some,
      List.flatMap_singleton, List.append_nil]
    rfl

/-- In every room that can be reached: failures that a reader of a key gets who comes to it are
those of calls that return after that, whatever happens, if and only if no failure of the key
lingers there. -/
theorem failures_later_iff_none_lingers (c : Config) (world : σ) (start : Nat)
    (h : Reach loader outside (opening c world start) a) (key : K) :
    (∀ inquiry more room, play loader more (a.arrive inquiry) = some room →
      ∀ r ∈ room.records, r.number = a.admitted →
        ∀ e, (key, .error e) ∈ inquiry.keys.zip r.answers →
          ∃ d ∈ history loader more (a.arrive inquiry), d.Says key (.error e)) ↔
      ∀ e, ¬ a.Lingers key (.error e) := by
  have ha : a.Sound := (sound_opening c world start).reach h
  constructor
  · intro later e lingers
    obtain ⟨more, room, run, ⟨r, hr, number, answers⟩, nothing⟩ :=
      ha.served_lingering loader lingers
    obtain ⟨d, hd, -⟩ := later (.one key) more room run r hr number e (by simp [answers, Inquiry.keys])
    rw [nothing] at hd
    cases hd
  · intro none_ inquiry more room run r hr number e he
    obtain ⟨-, sources⟩ := ha.source run hr number
    rcases sources _ he with keeps | lingers | said
    · exact absurd keeps not_keeps_error
    · exact absurd lingers (none_ e)
    · exact said

/-- A read of two keys, loaded one by one: the load of one has failed, and the other is still being
loaded. -/
def failedBatch : Room Nat Nat Unit (List (Nat × Lookup Nat Unit)) Nat (List Nat) :=
  (play (Loader.notices 1)
    (.arrive (.many [1, 2]) :: List.replicate 6 (.go 0) ++ [.change [(2, .error ())], .go 0])
    (opening {} [] 0)).get rfl

theorem reach_failedBatch : Reach (Loader.notices 1) (fun _ _ => True) (opening {} [] 0)
    failedBatch :=
  reach_of_play (Option.some_get _).symm

theorem failures_later_iff_none_lingers_failedBatch :
    (∀ more room, play (Loader.notices 1) more (failedBatch.arrive (.one 1)) = some room →
      ∀ r ∈ room.records, r.number = failedBatch.admitted → ∀ e, r.answers = [.error e] →
        ∃ d ∈ history (Loader.notices 1) more (failedBatch.arrive (.one 1)), d.Says 1 (.error e)) ∧
      failedBatch.Lingers 2 (.error ()) := by
  have others : ∀ e, ¬ failedBatch.Lingers 1 (.error e) := by
    rintro e ⟨flight, under, landed⟩
    have here : (1, flight) ∈ [(2, 1), (1, 0)] := under
    have first : flight = 0 := by simpa using here
    subst first
    cases landed
  have later := (failures_later_iff_none_lingers _ _ _ reach_failedBatch 1).mpr others
  refine ⟨fun more room run r hr number e answers => ?_, 1, List.mem_cons_self, rfl⟩
  exact later (.one 1) more room run r hr number e (by simp [answers, Inquiry.keys])

/-- A read that comes after the load of its key has failed, and gets that failure: no call of the
loader returns after it has come. -/
theorem serves_earlier_failure :
    Reach (Loader.notices 1) (fun _ _ => True) (opening {} [] 0) failedBatch ∧
      ∃ room, play (Loader.notices 1) [.go 1, .go 1, .go 1] (failedBatch.arrive (.one 2)) = some room ∧
        (∃ r ∈ room.records, r.number = failedBatch.admitted ∧ r.answers = [.error ()]) ∧
        history (Loader.notices 1) [.go 1, .go 1, .go 1] (failedBatch.arrive (.one 2)) = [] :=
  ⟨reach_failedBatch, _, rfl, ⟨_, List.mem_cons_self, rfl, rfl⟩, rfl⟩

end PacedCalls.Cache.Room
