import PacedCalls.Proofs.Cache.Provenance
import PacedCalls.Proofs.Cache.Runs
import PacedCalls.Proofs.Cache.SingleFlight

set_option autoImplicit false

namespace PacedCalls.Cache.Room

variable {R K V E σ L B : Type} [DecidableEq K] {loader : Loader (Event R) K V E σ L B}
  {outside : σ → σ → Prop} {a room : Room K V E σ L B}

theorem Sound.mem_guards (h : room.Sound) {key : K} {flight : Nat} :
    ⟨key, flight⟩ ∈ room.guards ↔ (key, flight) ∈ room.cache.underWay := by
  rw [← Multiset.mem_coe, room.coe_guards, mem_guardsOf]
  exact h.orderly.mem_underWay.symm

theorem Sound.gained_anew (ha : a.Sound) {key : K}
    (gone : ∀ e ∈ a.cache.store.entries, e.key ≠ key) (run : Reach loader outside a room)
    {r : Record K V E} (hr : r ∈ room.records) (hn : a.admitted ≤ r.number) :
    (∀ p ∈ r.inquiry.keys.zip r.answers, ∃ x ∈ r.gains, x.key = p.1 ∧ x.answer = p.2) ∧
      ∀ x ∈ r.gains, x.key = key →
        ⟨key, x.flight⟩ ∈ a.guards ∨ a.cache.flights.size ≤ x.flight := by
  refine ⟨((ha.reach run).records r hr).answers, fun x hx hk => ?_⟩
  subst hk
  rcases (Since.reach ha run).records r hr hn x hx with flown | ⟨e, he, hek, -⟩
  · exact flown.imp_left ha.mem_guards.mpr
  · exact absurd hek (gone e he)

/-- In every room that can be reached: after a key has been dropped, or all keys, whoever comes gets
for it only the answer of a load that is begun after that, or of one whose guard was held then. -/
theorem answers_after_invalidation (c : Config) (world : σ) (start : Nat)
    (h : Reach loader outside (opening c world start) a) (key : K) :
    ∀ b, b = a.invalidate key ∨ b = a.invalidateAll → ∀ room, Reach loader outside b room →
      ∀ r ∈ room.records, b.admitted ≤ r.number →
        (∀ p ∈ r.inquiry.keys.zip r.answers, ∃ x ∈ r.gains, x.key = p.1 ∧ x.answer = p.2) ∧
          ∀ x ∈ r.gains, x.key = key →
            ⟨key, x.flight⟩ ∈ a.guards ∨ a.cache.flights.size ≤ x.flight := by
  have ha : a.Sound := (sound_opening c world start).reach h
  rintro b (rfl | rfl) room run r hr hn
  · have drop : Step loader outside a (a.invalidate key) := .invalidate key
    exact (ha.step drop).gained_anew (fun e he => (Store.mem_remove.mp he).2) run hr hn
  · have drop : Step loader outside a a.invalidateAll := .invalidateAll
    exact (ha.step drop).gained_anew (fun e he => by cases he) run hr hn

/-- A key was stored and is dropped while another one is being loaded. -/
def halfLoaded : Room Nat Nat Unit (List (Nat × Nat)) Nat (List Nat) :=
  (play (Loader.board 1)
    [.change [(1, 10)], .arrive (.one 1), .go 0, .go 0, .go 0, .arrive (.one 2), .go 0, .go 0]
    (opening {} [] 0)).get rfl

theorem reach_halfLoaded :
    Reach (Loader.board 1) (fun _ _ => True) (opening {} [] 0) halfLoaded :=
  reach_of_play (Option.some_get _).symm

theorem answers_after_invalidation_halfLoaded :
    ∃ room, Reach (Loader.board 1) (fun _ _ => True) (halfLoaded.invalidate 1) room ∧
      ∃ r ∈ room.records, r.number = 2 ∧ r.answers = [.found 11] ∧
        ∀ x ∈ r.gains, x.key = 1 →
          ⟨1, x.flight⟩ ∈ halfLoaded.guards ∨ halfLoaded.cache.flights.size ≤ x.flight := by
  have run : play (Loader.board 1) [.change [(1, 11)], .arrive (.one 1), .go 1, .go 1, .go 1]
      (halfLoaded.invalidate 1) = some _ := rfl
  have law := answers_after_invalidation {} [] 0 reach_halfLoaded 1 _ (.inl rfl) _
    (reach_of_play run) _ List.mem_cons_self (by decide)
  exact ⟨_, reach_of_play run, _, List.mem_cons_self, rfl, rfl, law.2⟩

/-- A reader who comes after a key has been dropped joins the load of that key that was begun
before, and is served by it. -/
theorem serves_load_begun_before_invalidation :
    Reach (Loader.board 1) (fun _ _ => True) (opening {} [] 0) halfLoaded ∧
      ∃ room, Reach (Loader.board 1) (fun _ _ => True) (halfLoaded.invalidate 2) room ∧
        ∃ r ∈ room.records, halfLoaded.admitted ≤ r.number ∧ r.inquiry.keys = [2] ∧
          r.answers = [.found 20] ∧ ∃ x ∈ r.gains, x.key = 2 ∧ x.answer = .found 20 ∧
            x.flight < halfLoaded.cache.flights.size := by
  have run : play (Loader.board 1) [.arrive (.one 2), .go 1, .go 1, .change [(2, 20)], .go 0,
      .go 0]
      (halfLoaded.invalidate 2) = some _ := rfl
  exact ⟨reach_halfLoaded, _, reach_of_play run, _, List.mem_cons_self, by decide, rfl, rfl, _,
    List.mem_cons_self, rfl, rfl, by decide⟩

end PacedCalls.Cache.Room
