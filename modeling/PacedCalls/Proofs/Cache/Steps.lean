import PacedCalls.Proofs.Cache.Chronicle
import PacedCalls.Proofs.Cache.Sound

set_option autoImplicit false

namespace PacedCalls.Cache

section

variable {K V E : Type} [DecidableEq K] {now : ℕ} {d d' : Desk K V E}
  {held held' before after : Multiset (Holding K V E)} {gains : List (Gain K V E)}

theorem Act.store_kept {P : Store K V → Prop} (serves : ∀ s op, P s → P (s.serve now op).2)
    (h : Act now d before gains d' after) (kept : P d.cache.store) : P d'.cache.store := by
  cases h with
  | glance s l key => exact serves _ (.read key) kept
  | hit s l key value hv => exact serves _ (.read key) kept
  | land s l g answer =>
    have stored : P (s.keep g answer now).store := by
      unfold State.keep
      split
      · next value _ =>
        rw [State.insert_store]
        exact serves _ (.insert g.key value) kept
      · exact kept
    exact stored
  | _ => exact kept

theorem Acts.store_kept {P : Store K V → Prop} (serves : ∀ s op, P s → P (s.serve now op).2)
    (h : Acts now d held gains d' held') (kept : P d.cache.store) : P d'.cache.store := by
  induction h with
  | done => exact kept
  | act rest h _ ih => exact ih (h.store_kept serves kept)
  | retire g _ _ ih =>
    refine ih ?_
    rw [State.retire_store]
    exact kept

end

namespace Room

variable {R K V E σ L B : Type} [DecidableEq K] {loader : Loader (Event R) K V E σ L B}
  {outside : σ → σ → Prop} {room room' : Room K V E σ L B}

theorem Sound.acts_at (h : room.Sound) {before after : List (Visit K V E L B)}
    {v : Visit K V E L B} (here : room.visits = before ++ v :: after) {d : Desk K V E}
    {gains : List (Gain K V E)} {held : Multiset (Holding K V E)}
    (acts : Acts room.now room.desk v.reader.held gains d held) :
    Acts room.now room.desk (heldBy room.visits) gains d (held + heldBy (before ++ after)) := by
  have others : Covered (heldBy (before ++ after)) :=
    covered_heldBy fun u hu => (h.visits u (here ▸ mem_at hu)).covered
  rw [here, heldBy_at]
  exact acts.frame others

theorem Step.acts (h : room.Sound) (s : Step loader outside room room') :
    (∃ gains, Acts room.now room.desk (heldBy room.visits) gains room'.desk
      (heldBy room'.visits)) ∨
      (room'.cache.flights = room.cache.flights ∧ heldBy room'.visits = heldBy room.visits) := by
  cases s with
  | arrive inquiry =>
    refine .inr ⟨rfl, ?_⟩
    simp [Room.arrive, heldBy, held_start]
  | move before after v reader cache world events here moves =>
    obtain ⟨-, -, acts⟩ := Reader.goes moves (h.visits v (by simp [here])).whole room.landings
    refine .inl ⟨_, (h.acts_at here acts).holding ?_⟩
    rw [heldBy_at]
  | finish before after v answers cache world events here moves =>
    obtain ⟨-, found, -, acts⟩ :=
      Reader.ends moves (h.visits v (by simp [here])).whole room.landings
    have gone := Acts.drop room.now
      ⟨cache, landed room.now (v.reader.lastGains room.origin answers) room.landings⟩
      (guardsOf_answersHeld found) (heldBy (before ++ after))
    exact .inl ⟨_, (h.acts_at here acts).andThen gone⟩
  | cancel before after v cache world here leaves =>
    have acts := Reader.leaves leaves room.now room.landings
    exact .inl ⟨_, (h.acts_at here acts).holding (zero_add _)⟩
  | invalidate key => exact .inr ⟨rfl, rfl⟩
  | invalidateAll => exact .inr ⟨rfl, rfl⟩
  | wait later hl => exact .inr ⟨rfl, rfl⟩
  | outside world ho => exact .inr ⟨rfl, rfl⟩

/-- What every visitor keeps who comes, and what each has got who is done. -/
structure Custom (loader : Loader (Event R) K V E σ L B) (P : Visit K V E L B → Prop)
    (Q : Record K V E → Prop) : Prop where
  goes : ∀ {now v reader s s' w w' events} (origin : K → Option Nat), P v →
    (Reader.process loader).move now v.reader (s, w) = .goes reader (s', w') events →
      P { v with reader := reader, gains := v.gains ++ v.reader.gains origin reader }
  ends : ∀ {now v answers s s' w w' events} (origin : K → Option Nat), P v →
    (Reader.process loader).move now v.reader (s, w) = .ends answers (s', w') events →
      Q { number := v.number, inquiry := v.inquiry, answers := answers,
          gains := v.gains ++ v.reader.lastGains origin answers }

variable {P : Visit K V E L B → Prop} {Q : Record K V E → Prop}

theorem Custom.step (c : Custom loader P Q)
    (comes : ∀ inquiry, P { number := room.admitted, inquiry := inquiry, reader := inquiry.start })
    (s : Step loader outside room room') (hp : ∀ v ∈ room.visits, P v)
    (hq : ∀ r ∈ room.records, Q r) :
    (∀ v ∈ room'.visits, P v) ∧ ∀ r ∈ room'.records, Q r := by
  cases s with
  | arrive inquiry =>
    refine ⟨fun v hv => ?_, hq⟩
    rcases List.mem_append.mp hv with hv | hv
    · exact hp v hv
    · exact List.mem_singleton.mp hv ▸ comes inquiry
  | move before after v reader cache world events here moves =>
    have kept : P { v with
        reader := reader
        gains := v.gains ++ v.reader.gains room.origin reader } :=
      c.goes room.origin (hp v (by simp [here])) moves
    refine ⟨fun u hu => ?_, hq⟩
    rw [here] at hp
    simp only [List.mem_append, List.mem_cons] at hp hu
    rcases hu with hu | rfl | hu
    · exact hp u (.inl hu)
    · exact kept
    · exact hp u (.inr (.inr hu))
  | finish before after v answers cache world events here moves =>
    have done := c.ends room.origin (hp v (by simp [here])) moves
    refine ⟨fun u hu => hp u (here ▸ mem_at hu), fun r hr => ?_⟩
    rcases List.mem_cons.mp hr with rfl | hr
    · exact done
    · exact hq r hr
  | cancel before after v cache world here leaves =>
    exact ⟨fun u hu => hp u (here ▸ mem_at hu), hq⟩
  | invalidate key => exact ⟨hp, hq⟩
  | invalidateAll => exact ⟨hp, hq⟩
  | wait later hl => exact ⟨hp, hq⟩
  | outside world ho => exact ⟨hp, hq⟩

theorem Step.admitted_le (s : Step loader outside room room') :
    room.admitted ≤ room'.admitted := by
  cases s with
  | arrive inquiry => exact Nat.le_succ _
  | _ => exact Nat.le_refl _

theorem Reach.admitted_le (run : Reach loader outside room room') :
    room.admitted ≤ room'.admitted := by
  induction run with
  | refl => exact Nat.le_refl _
  | tail _ s ih => exact Nat.le_trans ih s.admitted_le

theorem Custom.reach (c : Custom loader P Q)
    (comes : ∀ number, room.admitted ≤ number → ∀ inquiry,
      P { number := number, inquiry := inquiry, reader := inquiry.start })
    (run : Reach loader outside room room') (hp : ∀ v ∈ room.visits, P v)
    (hq : ∀ r ∈ room.records, Q r) :
    (∀ v ∈ room'.visits, P v) ∧ ∀ r ∈ room'.records, Q r := by
  induction run with
  | refl => exact ⟨hp, hq⟩
  | tail before s ih => exact c.step (comes _ (Reach.admitted_le before)) s ih.1 ih.2

theorem Sound.inquiry_of_number (h : room.Sound) {inquiry : Inquiry K}
    (run : Reach loader outside (room.arrive inquiry) room') :
    ∀ r ∈ room'.records, r.number = room.admitted → r.inquiry = inquiry := by
  have custom : Custom loader
      (fun v : Visit K V E L B => v.number = room.admitted → v.inquiry = inquiry)
      (fun r => r.number = room.admitted → r.inquiry = inquiry) :=
    { goes := fun _ hv _ => hv, ends := fun _ hv _ => hv }
  refine (custom.reach (fun number hn inquiry' hnumber => ?_) run (fun v hv hnumber => ?_)
    fun r hr hnumber => ?_).2
  · have hn : room.admitted + 1 ≤ number := hn
    have hnumber : number = room.admitted := hnumber
    omega
  · rcases List.mem_append.mp hv with hv | hv
    · have := h.visitors v hv
      omega
    · rw [List.mem_singleton.mp hv]
  · have := h.readers r hr
    omega

theorem Step.visits_cases (s : Step loader outside room room') :
    ∀ u ∈ room'.visits, u ∈ room.visits ∨
      (u.number = room.admitted ∧ ∃ inquiry : Inquiry K, u.reader = inquiry.start) ∨
      ∃ v ∈ room.visits, v.number = u.number ∧ ∃ events,
        (Reader.process loader).move room.now v.reader (room.cache, room.world) =
          .goes u.reader (room'.cache, room'.world) events := by
  intro u hu
  cases s with
  | arrive inquiry =>
    rcases List.mem_append.mp hu with hu | hu
    · exact .inl hu
    · rw [List.mem_singleton.mp hu]
      exact .inr (.inl ⟨rfl, inquiry, rfl⟩)
  | move before after v reader cache world events here moves =>
    simp only [List.mem_append, List.mem_cons] at hu
    rcases hu with hu | rfl | hu
    · exact .inl (by simp [here, hu])
    · exact .inr (.inr ⟨v, by simp [here], rfl, events, moves⟩)
    · exact .inl (by simp [here, hu])
  | finish before after v answers cache world events here moves => exact .inl (here ▸ mem_at hu)
  | cancel before after v cache world here leaves => exact .inl (here ▸ mem_at hu)
  | invalidate key => exact .inl hu
  | invalidateAll => exact .inl hu
  | wait later hl => exact .inl hu
  | outside world ho => exact .inl hu

theorem Step.store_kept {S : Store K V → Prop}
    (serves : ∀ s op, S s → S (s.serve room.now op).2) (h : room.Sound)
    (s : Step loader outside room room') (kept : S room.cache.store) :
    S room'.cache.store := by
  cases s with
  | move before after v reader cache world events here moves =>
    obtain ⟨-, -, acts⟩ := Reader.goes moves (h.visits v (by simp [here])).whole room.landings
    exact acts.store_kept serves kept
  | finish before after v answers cache world events here moves =>
    obtain ⟨-, found, -, acts⟩ :=
      Reader.ends moves (h.visits v (by simp [here])).whole room.landings
    exact acts.store_kept serves kept
  | cancel before after v cache world here leaves =>
    exact (Reader.leaves leaves room.now room.landings).store_kept serves kept
  | invalidate key => exact serves _ (.remove key) kept
  | invalidateAll => exact serves _ .clear kept
  | _ => exact kept

theorem store_of_reach {S : Store K V → Prop} (serves : ∀ s now op, S s → S (s.serve now op).2)
    {c : Config} {world : σ} {start : ℕ} (h : Reach loader outside (opening c world start) room)
    (empty : S ⟨c.maxSize, c.ttl, []⟩) : S room.cache.store := by
  induction h with
  | refl => exact empty
  | tail before s ih =>
    exact s.store_kept (serves · _) ((sound_opening c world start).reach before) ih

end Room

end PacedCalls.Cache
