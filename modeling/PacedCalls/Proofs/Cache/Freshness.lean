import PacedCalls.Proofs.Cache.Provenance
import PacedCalls.Proofs.Cache.Runs

/-!
How old an answer can be. The store serves nothing past its lifetime, but the flights of a batch
stay under way until the slowest batch of the same read is done, and what has landed meanwhile is
served from them at any age.
-/

set_option autoImplicit false

namespace PacedCalls.Cache

section

variable {R K V E σ L B : Type} [DecidableEq K] {loader : Loader (Event R) K V E σ L B}
  {outside : σ → σ → Prop}

def State.Stale (s : State K V E) (key : K) (now : Nat) : Prop :=
  ∀ e ∈ s.store.entries, e.key = key → e.since + s.store.ttl < now

theorem State.Stale.not_hit {s : State K V E} {key : K} {now : Nat} (h : s.Stale key now)
    (value : Option V) : (s.store.read key now).1 ≠ .hit value := by
  intro hv
  obtain ⟨e, he, hk, -, hlive⟩ := Store.exists_of_hit hv
  have := h e he hk
  omega

theorem State.Stale.readStore {s : State K V E} {key : K} {now : Nat} (h : s.Stale key now) :
    ∃ s', s.readStore key now = (none, s') ∧ s'.Stale key now ∧ s'.underWay = s.underWay ∧
      s'.flights = s.flights := by
  have later : ({ s with store := (s.store.read key now).2 } : State K V E).Stale key now := by
    intro e he hk
    have := h e (Store.mem_of_mem_read he) hk
    rwa [Store.read_ttl]
  simp only [State.readStore]
  split
  · next value hv => exact absurd hv (h.not_hit value)
  · exact ⟨_, rfl, later, rfl, rfl⟩
  · exact ⟨_, rfl, later, rfl, rfl⟩

theorem State.Stale.claim {s : State K V E} {key : K} {now flight : Nat} (h : s.Stale key now)
    (hf : s.underWay.lookup key = some flight) :
    ∃ s', s.claim key now = (.joined flight, s') ∧ s'.underWay = s.underWay ∧
      s'.flights = s.flights := by
  simp only [State.claim]
  split
  · next value hv => exact absurd hv (h.not_hit value)
  · simp only [hf]
    exact ⟨_, rfl, rfl, rfl⟩

variable (loader) in
/-- A reader of a key that is not stored joins a flight that has landed, and has its answer. -/
theorem Reader.joins_landed {s : State K V E} {key : K} {now flight : Nat} {answer : Lookup V E}
    (w : σ) (h : s.Stale key now) (joined : s.underWay.lookup key = some flight)
    (found : s.flight flight = .landed answer) :
    ∃ s₁ s₂, (process loader).move now (.one (.start key)) (s, w) =
        .goes (.one (.claiming key false)) (s₁, w) [] ∧
      (process loader).move now (.one (.claiming key false)) (s₁, w) =
        .goes (.one (.waiting key flight)) (s₂, w) [.loadJoined] ∧
      (process loader).move now (.one (.waiting key flight)) (s₂, w) =
        .ends [answer] (s₂, w) [] := by
  obtain ⟨s₁, looked, stale, under, flights⟩ := h.readStore
  obtain ⟨s₂, claimed, -, flights'⟩ := stale.claim (under ▸ joined)
  have found' : s₂.countMiss.countJoin.flight flight = .landed answer := by
    rw [← found]
    exact congrArg (·.getD flight .lost) (flights'.trans flights)
  refine ⟨s₁, s₂.countMiss.countJoin, ?_, ?_, ?_⟩
  · simp only [process, Read.process, Read.start, looked, Move.lift, id]
  · simp only [process, Read.process, Read.claim, claimed, Bool.false_eq_true, if_false, Move.lift,
      id]
  · simp only [process, Read.process, found', Move.lift, id]

namespace Room

/-- A load's answer is past its lifetime, but its flight is still under way. -/
def Overstays (room : Room K V E σ L B) (l : Landing K V E) : Prop :=
  l ∈ room.landings ∧ (l.key, l.flight) ∈ room.cache.underWay ∧
    l.moment + room.cache.store.ttl < room.now

variable {a room : Room K V E σ L B}

theorem ttl_of_reach {c : Config} {world : σ} {start : Nat}
    (h : Reach loader outside (opening c world start) room) : room.cache.store.ttl = c.ttl :=
  (Since.reach (sound_opening c world start) h).desk.ttl

theorem Since.fresh (ha : a.Sound) (hr : room.Sound) (h : a.Since room) {x : Gain K V E}
    (landed : x.Landed room.landings) (hx : a.desk.Supplies a.now x) :
    ∃ l ∈ room.landings, l.key = x.key ∧ l.flight = x.flight ∧ l.answer = x.answer ∧
      (a.now ≤ l.moment + a.cache.store.ttl ∨ a.Overstays l) := by
  obtain ⟨l, hl, hk, hf, hla⟩ := landed
  obtain ⟨newer, hnew, hmom⟩ := h.desk.landings
  have hnew : room.landings = newer ++ a.landings := hnew
  refine ⟨l, hl, hk, hf, hla, ?_⟩
  rcases hx with flown | ⟨e, he, hek, heo, hlive⟩
  · rw [hnew, List.mem_append] at hl
    rcases hl with hl | hl
    · have := hmom l hl
      omega
    · -- It had landed before the reader came, so its flight was still under way.
      have below : l.flight < a.cache.flights.size :=
        ha.orderly.numbered l.key l.flight (.inr (.inr ⟨l, hl, rfl, rfl⟩))
      have aloft : (l.key, l.flight) ∈ a.cache.underWay := by
        rw [hk, hf]
        exact flown.resolve_right fun hs => by
          have : a.cache.flights.size ≤ x.flight := hs
          omega
      by_cases hfresh : a.now ≤ l.moment + a.cache.store.ttl
      · exact .inl hfresh
      · exact .inr ⟨hl, aloft, by omega⟩
  · obtain ⟨y, hy, -, hyo, -, hym⟩ := ha.orderly.store e he
    rw [hek, heo] at hyo
    have kept : y ∈ room.landings := hnew ▸ List.mem_append_right newer hy
    have same : y = l := hr.orderly.landing_eq kept hl ((Option.some.inj hyo).symm.trans hf.symm)
    have hlive : a.now ≤ e.since + a.cache.store.ttl := hlive
    subst same
    omega

theorem Sound.stale_of_overstays (ha : a.Sound) {l : Landing K V E} (h : a.Overstays l)
    (hs : l.answer.settled?.isSome) : a.cache.Stale l.key a.now := by
  obtain ⟨hl, hu, hold⟩ := h
  intro e he hk
  obtain ⟨y, hy, -, hyo, -, hym⟩ := ha.orderly.store e he
  rw [hk, ha.orderly.latest l.key l.flight l.answer hu (ha.orderly.landings l hl) hs] at hyo
  have same : l = y := ha.orderly.landing_eq hl hy (Option.some.inj hyo)
  subst same
  omega

theorem Sound.served_stale (ha : a.Sound) {l : Landing K V E} (h : a.Overstays l)
    (hs : l.answer.settled?.isSome) :
    ∃ room r, Reach loader outside (a.arrive (.one l.key)) room ∧ r ∈ room.records ∧
      r.number = a.admitted ∧ r.inquiry = .one l.key ∧ r.answers = [l.answer] ∧
      (∀ x ∈ r.gains, x.flight = l.flight) ∧ room.landings = a.landings := by
  have joined : a.cache.underWay.lookup l.key = some l.flight :=
    Assoc.lookup_of_mem ha.orderly.keys h.2.1
  obtain ⟨s₁, s₂, looks, claims, lands⟩ := Reader.joins_landed loader a.world
    (ha.stale_of_overstays h hs) joined (ha.orderly.landings l h.1)
  refine ⟨_, _, .tail (.tail (.single (.move a.visits [] _ _ _ _ _ rfl looks))
    (.move a.visits [] _ _ _ _ _ rfl claims)) (.finish a.visits [] _ _ _ _ _ rfl lands),
    List.mem_cons_self, rfl, rfl, rfl, ?_, ?_⟩
  · intro x hx
    simp only [Inquiry.start, Read.start, Reader.gains, Reader.lastGains, Read.gains,
      List.flatMap_singleton, List.append_nil, List.nil_append, List.mem_singleton] at hx
    rw [hx]
  · rfl

/-- In every room that can be reached: what a reader gets who comes to it is the answer of a load
for its key that returned at most a lifetime before the reader came, unless it is one that has
overstayed there; and each answer that has overstayed is what a reader of its key can get. -/
theorem fresh_unless_overstayed (c : Config) (world : σ) (start : Nat)
    (h : Reach loader outside (opening c world start) a) :
    (∀ inquiry room, Reach loader outside (a.arrive inquiry) room → ∀ r ∈ room.records,
      r.number = a.admitted →
        (∀ p ∈ r.inquiry.keys.zip r.answers, ∃ x ∈ r.gains, x.key = p.1 ∧ x.answer = p.2) ∧
          ∀ x ∈ r.gains, ∃ l ∈ room.landings,
            l.key = x.key ∧ l.flight = x.flight ∧ l.answer = x.answer ∧
              (a.now ≤ l.moment + c.ttl ∨ a.Overstays l)) ∧
      ∀ l, a.Overstays l → l.answer.settled?.isSome →
        ∃ room r, Reach loader outside (a.arrive (.one l.key)) room ∧ r ∈ room.records ∧
          r.number = a.admitted ∧ r.inquiry = .one l.key ∧ r.answers = [l.answer] ∧
          (∀ x ∈ r.gains, x.flight = l.flight) ∧ room.landings = a.landings := by
  have ha : a.Sound := (sound_opening c world start).reach h
  refine ⟨fun inquiry room run r hr hn => ?_, fun l hl hs => ha.served_stale hl hs⟩
  have run : Reach loader outside a room := .head (.arrive inquiry) run
  have hroom : room.Sound := ha.reach run
  have since : a.Since room := .reach ha run
  refine ⟨(hroom.records r hr).answers, fun x hx => ?_⟩
  rw [← ttl_of_reach h]
  exact since.fresh ha hroom ((hroom.records r hr).gains x hx) (since.records r hr hn.ge x hx)

/-- A read of two keys, loaded one by one: one was found 300 ms ago, with a lifetime of 50 ms, and
the other is still being loaded. -/
def slowBatch : Room Nat Nat Unit (List (Nat × Nat)) Nat (List Nat) :=
  (play (Loader.board 1)
    (.arrive (.many [1, 2]) :: List.replicate 6 (.go 0) ++
      [.change [(2, 20)], .go 0, .wait (Duration.ofMillis 300)])
    (opening { ttl := Duration.ofMillis 50 } [] 0)).get rfl

theorem reach_slowBatch : Reach (Loader.board 1) (fun _ _ => True)
    (opening { ttl := Duration.ofMillis 50 } [] 0) slowBatch :=
  reach_of_play (Option.some_get _).symm

theorem fresh_unless_overstayed_slowBatch :
    slowBatch.Overstays { key := 2, flight := 1, answer := .found 20, moment := 0 } ∧
      ∃ room r, Reach (Loader.board 1) (fun _ _ => True) (slowBatch.arrive (.one 2)) room ∧
        r ∈ room.records ∧ r.number = slowBatch.admitted ∧ r.answers = [.found 20] := by
  have stays : slowBatch.Overstays { key := 2, flight := 1, answer := .found 20, moment := 0 } :=
    ⟨List.mem_cons_self, List.mem_cons_self, by decide⟩
  obtain ⟨-, serves⟩ := fresh_unless_overstayed _ _ _ reach_slowBatch
  obtain ⟨room, r, reach, mem, number, -, answers, -, -⟩ := serves _ stays rfl
  exact ⟨stays, room, r, reach, mem, number, answers⟩

/-- A read that begins 300 ms after the load that it is answered by, with a lifetime of 50 ms. -/
theorem serves_past_lifetime :
    Reach (Loader.board 1) (fun _ _ => True) (opening { ttl := Duration.ofMillis 50 } [] 0)
        slowBatch ∧
      ∃ room, Reach (Loader.board 1) (fun _ _ => True) (slowBatch.arrive (.one 2)) room ∧
        ∃ r ∈ room.records, r.number = slowBatch.admitted ∧ r.answers = [.found 20] ∧
          ∀ l ∈ room.landings, l.key = 2 → l.moment + Duration.ofMillis 50 < slowBatch.now := by
  have run : play (Loader.board 1) [.go 1, .go 1, .go 1] (slowBatch.arrive (.one 2)) = some _ := rfl
  exact ⟨reach_slowBatch, _, reach_of_play run, _, List.mem_cons_self, rfl, rfl, by decide⟩

end Room

end

end PacedCalls.Cache
