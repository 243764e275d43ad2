import Mathlib.Data.Multiset.Replicate
import Mathlib.Tactic.Abel
import PacedCalls.Proofs.Cache.Loads
import PacedCalls.Proofs.Cache.Steps

set_option autoImplicit false

namespace PacedCalls.Cache

section

variable {ν K V E σ L B M : Type} [AddCommMonoid M]

/-- What has been spent in a world, and what of it was spent by a load that is running; and the
prices that a load may have cost at its end. -/
structure Tariff (loader : Loader ν K V E σ L B) (batches : Prop) (M : Type) [AddCommMonoid M] where
  total : σ → M
  spent : L ⊕ B → M → Prop
  price : M → Prop
  fresh : ∀ {x}, loader.Fresh batches x → spent x 0
  goes : ∀ {now x x' w w' events a}, spent x a →
    loader.either.move now x w = .goes x' w' events →
      ∃ d, spent x' (a + d) ∧ total w' = total w + d
  ends : ∀ {now x w w' events a}, spent x a → loader.either.move now x w = .ends () w' events →
    ∃ d, price (a + d) ∧ total w' = total w + d

/-- What has been spent since the start is accounted for by loads that have returned and loads that
run, and these are all the loads there were. -/
def Tariff.Accounts {loader : Loader ν K V E σ L B} {batches : Prop}
    (tariff : Tariff loader batches M) (start : M) (t : Traffic σ L B) : Prop :=
  ∃ paid owed : Multiset M, (∀ a ∈ paid, tariff.price a) ∧
    Multiset.Rel tariff.spent t.running owed ∧
    tariff.total t.world = start + paid.sum + owed.sum ∧ t.loads = paid.card + t.running.card

variable {loader : Loader ν K V E σ L B} {batches : Prop} {now : ℕ} {t t' : Traffic σ L B}

theorem Tariff.Accounts.works {tariff : Tariff loader batches M} {start : M}
    (h : tariff.Accounts start t) (works : loader.Works now batches t t') :
    tariff.Accounts start t' := by
  obtain ⟨paid, owed, fair, running, total, loads⟩ := h
  cases works with
  | @begins n w new rest fresh =>
    have begun : Multiset.Rel tariff.spent new (new.map fun _ => 0) :=
      Multiset.rel_map_right.mpr
        (Multiset.rel_refl_of_refl_on fun x hx => tariff.fresh (fresh x hx))
    refine ⟨paid, new.map (fun _ => 0) + owed, fair, begun.add running, ?_, ?_⟩
    · simpa using total
    · simp only [Multiset.card_add] at loads ⊢
      omega
  | goes n rest moves =>
    obtain ⟨a, others, mine, theirs, rfl⟩ := Multiset.rel_cons_left.mp running
    obtain ⟨d, mine', spends⟩ := tariff.goes mine moves
    refine ⟨paid, (a + d) ::ₘ others, fair, .cons mine' theirs, ?_, by simpa using loads⟩
    simp only [Multiset.sum_cons] at total ⊢
    rw [spends, total]
    abel
  | ends n rest moves =>
    obtain ⟨a, others, mine, theirs, rfl⟩ := Multiset.rel_cons_left.mp running
    obtain ⟨d, price, spends⟩ := tariff.ends mine moves
    refine ⟨(a + d) ::ₘ paid, others, ?_, theirs, ?_, ?_⟩
    · simpa using ⟨price, fair⟩
    · simp only [Multiset.sum_cons] at total ⊢
      rw [spends, total]
      abel
    · simp only [Multiset.card_cons] at loads ⊢
      omega

theorem Tariff.Accounts.outside {tariff : Tariff loader batches M} {start : M}
    (h : tariff.Accounts start t) {w : σ} (free : tariff.total w = tariff.total t.world) :
    tariff.Accounts start { t with world := w } := by
  obtain ⟨paid, owed, fair, running, total, loads⟩ := h
  exact ⟨paid, owed, fair, running, free.trans total, loads⟩

end

section

variable {R K V E σ L B : Type}

namespace Room

def running (room : Room K V E σ L B) : Multiset (L ⊕ B) :=
  (room.visits.map (·.reader.running)).sum

def traffic (room : Room K V E σ L B) : Traffic σ L B :=
  ⟨room.cache.stats.loads, room.world, room.running⟩

theorem card_running (room : Room K V E σ L B) : room.running.card = room.calls.length := by
  simp only [running, calls]
  induction room.visits with
  | nil => rfl
  | cons v rest ih => simpa [v.reader.card_running] using ih

theorem running_at {room : Room K V E σ L B} {before after : List (Visit K V E L B)}
    {v : Visit K V E L B} (here : room.visits = before ++ v :: after) :
    room.running =
      v.reader.running + ((before ++ after).map (·.reader.running)).sum := by
  simp [running, here, add_left_comm]

/-- What has been asked by those who are there, and by those who have got answers. -/
def inquiries (room : Room K V E σ L B) : Multiset (Inquiry K) :=
  Multiset.ofList (room.visits.map (·.inquiry)) + Multiset.ofList (room.records.map (·.inquiry))

theorem inquiries_at {room : Room K V E σ L B} {before after : List (Visit K V E L B)}
    {v : Visit K V E L B} (here : room.visits = before ++ v :: after) :
    room.inquiries = v.inquiry ::ₘ (Multiset.ofList ((before ++ after).map (·.inquiry)) +
      Multiset.ofList (room.records.map (·.inquiry))) := by
  have first : Multiset.ofList ((before ++ v :: after).map (·.inquiry)) =
      v.inquiry ::ₘ Multiset.ofList ((before ++ after).map (·.inquiry)) := by
    simp
  rw [inquiries, here, first, Multiset.cons_add]

/-- Nobody has been given up: whoever came is there or has got answers. -/
def Unbroken (room : Room K V E σ L B) : Prop := room.inquiries.card = room.admitted

def OneByOne (room : Room K V E σ L B) : Prop := ∀ q ∈ room.inquiries, ∃ key, q = .one key

end Room

variable [DecidableEq K] {loader : Loader (Event R) K V E σ L B} {outside : σ → σ → Prop}
  {room room' : Room K V E σ L B}

namespace Room

omit [DecidableEq K] in
theorem traffic_arrive (room : Room K V E σ L B) (inquiry : Inquiry K) :
    (room.arrive inquiry).traffic = room.traffic := by
  have idle : (inquiry.start : Reader K V E L B).running = 0 := by cases inquiry <;> rfl
  have running : (room.arrive inquiry).running = room.running := by
    simp [Room.running, Room.arrive, idle]
  rw [traffic, running]
  rfl

theorem Step.stays (s : Step loader outside room room') :
    (∃ q, room.inquiries = q ::ₘ room'.inquiries ∧ room'.admitted = room.admitted) ∨
    ((∃ new, room'.inquiries = new + room.inquiries ∧
        room'.admitted = room.admitted + new.card) ∧
      ((∃ v ∈ room.visits, loader.Works room.now v.reader.IsMany room.traffic room'.traffic) ∨
        (∃ world, outside room.world world ∧
          room'.traffic = { room.traffic with world := world }) ∨
        room'.traffic = room.traffic)) := by
  have nobody {x : Room K V E σ L B} (same : x.inquiries = room.inquiries)
      (admitted : x.admitted = room.admitted) : ∃ new, x.inquiries = new + room.inquiries ∧
        x.admitted = room.admitted + new.card :=
    ⟨0, by rw [same, zero_add], admitted⟩
  cases s with
  | arrive inquiry =>
    refine .inr ⟨⟨{inquiry}, ?_, rfl⟩, .inr (.inr (room.traffic_arrive inquiry))⟩
    rw [Multiset.singleton_add,
      inquiries_at (rfl : (room.arrive inquiry).visits = room.visits ++ _ :: [])]
    simp [inquiries, Room.arrive]
  | move before after v reader cache world events here moves =>
    refine .inr ⟨nobody ?_ rfl, .inl ⟨v, by simp [here], ?_⟩⟩
    · rw [inquiries_at here, inquiries_at rfl]
    · have works := (Reader.goes_works moves).beside ((before ++ after).map (·.reader.running)).sum
      rw [traffic, traffic, running_at here, running_at rfl]
      exact works
  | finish before after v answers cache world events here moves =>
    refine .inr ⟨nobody ?_ rfl, .inl ⟨v, by simp [here], ?_⟩⟩
    · rw [inquiries_at here, ← Multiset.add_cons]
      rfl
    · have works := (Reader.ends_works moves).beside ((before ++ after).map (·.reader.running)).sum
      rw [traffic, traffic, running_at here]
      rw [zero_add] at works
      exact works
  | cancel before after v cache world here leaves =>
    exact .inl ⟨v.inquiry, inquiries_at here, rfl⟩
  | invalidate key => exact .inr ⟨nobody rfl rfl, .inr (.inr rfl)⟩
  | invalidateAll => exact .inr ⟨nobody rfl rfl, .inr (.inr rfl)⟩
  | wait later hl => exact .inr ⟨nobody rfl rfl, .inr (.inr rfl)⟩
  | outside world ho => exact .inr ⟨nobody rfl rfl, .inr (.inl ⟨world, ho, rfl⟩)⟩

theorem Reach.present {c : Config} {world : σ} {start : ℕ}
    (run : Reach loader outside (opening c world start) room) :
    room.inquiries.card ≤ room.admitted := by
  induction run with
  | refl => exact Nat.le_refl _
  | tail _ s ih =>
    obtain ⟨q, gone, admitted⟩ | ⟨⟨new, come, admitted⟩, -⟩ := s.stays
    · rw [gone, Multiset.card_cons] at ih
      omega
    · rw [come, admitted, Multiset.card_add]
      omega

theorem custom_single : Custom loader
    (fun v : Visit K V E L B => (∃ key, v.inquiry = .one key) → ¬ v.reader.IsMany)
    (fun _ => True) where
  goes {now v reader s s' w w' events} _ single moves asked := by
    have one := single asked
    cases h : v.reader with
    | one read =>
      rw [h] at moves
      obtain ⟨read', w₁, -, rfl, -⟩ := Process.lift_goes moves
      exact id
    | many read =>
      rw [h] at one
      exact absurd trivial one
  ends _ _ _ := trivial

theorem single_of_reach {c : Config} {world : σ} {start : ℕ}
    (run : Reach loader outside (opening c world start) room) :
    ∀ v ∈ room.visits, (∃ key, v.inquiry = .one key) → ¬ v.reader.IsMany := by
  refine (custom_single.reach (fun number _ inquiry => ?_) run ?_ fun _ _ => trivial).1
  · rintro ⟨key, rfl⟩
    exact id
  · simp [opening]

end Room

theorem Tariff.accounts_of_reach {M : Type} [AddCommMonoid M] {batches : Prop}
    (tariff : Tariff loader batches M) (free : ∀ w w', outside w w' → tariff.total w' = tariff.total w)
    (c : Config) (world : σ) (start : ℕ)
    (run : Room.Reach loader outside (Room.opening c world start) room) (stayed : room.Unbroken)
    (asked : batches ∨ room.OneByOne) : tariff.Accounts (tariff.total world) room.traffic := by
  induction run with
  | refl => exact ⟨0, 0, by simp, .zero, by simp [Room.traffic, Room.opening], rfl⟩
  | @tail before after run s ih =>
    have present := Room.Reach.present run
    obtain ⟨q, gone, admitted⟩ | ⟨⟨new, come, admitted⟩, traffic⟩ := s.stays
    · -- Who has been given up is missed for ever.
      unfold Room.Unbroken at stayed
      rw [gone, Multiset.card_cons] at present
      omega
    · have stayed : before.Unbroken := by
        unfold Room.Unbroken at stayed ⊢
        rw [come, admitted, Multiset.card_add] at stayed
        omega
      have asked : batches ∨ before.OneByOne :=
        asked.imp id fun single q hq => single q (by rw [come]; exact Multiset.mem_add.mpr (.inr hq))
      have accounts := ih stayed asked
      obtain ⟨v, hv, works⟩ | ⟨world, ho, same⟩ | same := traffic
      · refine accounts.works (works.mono fun many => asked.resolve_right fun single => ?_)
        have one := single v.inquiry (by simpa [Room.inquiries] using .inl ⟨v, hv, rfl⟩)
        exact Room.single_of_reach run v hv one many
      · rw [same]
        exact accounts.outside (free _ _ ho)
      · rwa [same]

end

end PacedCalls.Cache
