import PacedCalls.Proofs.Cache.SingleFlight
import PacedCalls.Proofs.Cache.Steps

/-!
Who waits for whom. A reader is made of strands, which go on by themselves: its read, the batches
it loads, or the keys it waits for. A strand that waits for a flight still aloft waits for a strand
of a reader who is there and holds the guard, and that strand is inside the loader. So waiting goes
one step deep, and readers never wait for each other in a circle.
-/

set_option autoImplicit false

namespace PacedCalls.Cache

inductive Strand (K L B : Type) where
  | read (read : Read K L)
  | chunk (chunk : Chunk K B)
  | part (part : Part K L)

section

variable {K V E L B : Type}

def ReadAll.strands : ReadAll K V E L B → List (Strand K L B)
  | .looking _ _ => []
  | .claiming _ _ _ _ => []
  | .loading _ _ _ _ chunks _ => (chunks.filterMap Sum.getLeft?).map .chunk
  | .joining _ _ _ parts => (parts.filterMap Sum.getLeft?).map .part

def Reader.strands : Reader K V E L B → List (Strand K L B)
  | .one read => [.read read]
  | .many read => read.strands

def Read.wait? : Read K L → Option (K × Nat)
  | .waiting key flight => some (key, flight)
  | _ => none

def Part.wait? : Part K L → Option (K × Nat)
  | .watching key flight => some (key, flight)
  | .reading _ read => read.wait?

namespace Strand

def wait? : Strand K L B → Option (K × Nat)
  | read r => r.wait?
  | chunk _ => none
  | part p => p.wait?

def loads : Strand K L B → List (Guard K)
  | read r => r.guards
  | chunk c => c.guards
  | part p => p.guards

theorem wait?_of_mem_loads {t : Strand K L B} {g : Guard K} (h : g ∈ t.loads) : t.wait? = none := by
  have ofRead (r : Read K L) (hr : g ∈ r.guards) : r.wait? = none := by
    cases r with
    | loading g' st => rfl
    | _ => cases hr
  cases t with
  | read r => exact ofRead r h
  | chunk c => rfl
  | part p =>
    cases p with
    | watching key flight => cases h
    | reading key r => exact ofRead r h

end Strand

theorem Reader.mem_calls {reader : Reader K V E L B} {t : Strand K L B} {g : Guard K}
    (ht : t ∈ reader.strands) (hg : g ∈ t.loads) : t.loads.map (·.key) ∈ reader.calls := by
  have ofRead (r : Read K L) (hr : g ∈ r.guards) : r.guards.map (·.key) ∈ r.calls := by
    cases r with
    | loading g' st => exact List.mem_singleton.mpr rfl
    | _ => cases hr
  cases reader with
  | one read =>
    cases List.mem_singleton.mp ht
    exact ofRead read hg
  | many read =>
    cases read with
    | looking keys slots => cases ht
    | claiming keys slots claims wanted => cases ht
    | loading keys slots resolved guards chunks joined =>
      obtain ⟨chunk, hc, rfl⟩ := List.mem_map.mp ht
      exact List.mem_map.mpr ⟨chunk, hc, rfl⟩
    | joining keys slots resolved parts =>
      obtain ⟨part, hp, rfl⟩ := List.mem_map.mp ht
      refine List.mem_flatMap.mpr ⟨part, hp, ?_⟩
      cases part with
      | watching key flight => cases hg
      | reading key read => exact ofRead read hg

theorem mem_partsHeld {part : Part K L} {parts : List (Part K L ⊕ (K × Lookup V E))}
    {x : Holding K V E} (hp : .inl part ∈ parts) (hx : x ∈ part.held) : x ∈ partsHeld parts := by
  obtain ⟨before, after, rfl⟩ := List.append_of_mem hp
  rw [partsHeld_at]
  exact Multiset.mem_add.mpr (.inl hx)

theorem mem_getLefts {α β : Type} {a : α} {xs : List (α ⊕ β)} :
    a ∈ xs.filterMap Sum.getLeft? ↔ .inl a ∈ xs := by
  rw [List.mem_filterMap]
  constructor
  · rintro ⟨x, hx, ha⟩
    cases x with
    | inl b =>
      cases ha
      exact hx
    | inr b => cases ha
  · intro h
    exact ⟨.inl a, h, rfl⟩

theorem Reader.wait_mem_held {reader : Reader K V E L B} {t : Strand K L B} {key : K}
    {flight : Nat} (ht : t ∈ reader.strands) (hw : t.wait? = some (key, flight)) :
    .wait key flight ∈ reader.held := by
  have ofRead (r : Read K L) (hr : r.wait? = some (key, flight)) :
      .wait key flight ∈ (r.held : Multiset (Holding K V E)) := by
    cases r with
    | waiting key flight =>
      cases hr
      exact Multiset.mem_singleton_self _
    | _ => cases hr
  cases reader with
  | one read =>
    cases List.mem_singleton.mp ht
    exact ofRead read hw
  | many read =>
    cases read with
    | looking keys slots => cases ht
    | claiming keys slots claims wanted => cases ht
    | loading keys slots resolved guards chunks joined =>
      obtain ⟨chunk, -, rfl⟩ := List.mem_map.mp ht
      cases hw
    | joining keys slots resolved parts =>
      obtain ⟨part, hp, rfl⟩ := List.mem_map.mp ht
      refine Multiset.mem_add.mpr (.inr (mem_partsHeld (mem_getLefts.mp hp) ?_))
      cases part with
      | watching key flight =>
        cases hw
        exact Multiset.mem_singleton_self _
      | reading key read => exact ofRead read hw

def Attended (d : Desk K V E) (held : Multiset (Holding K V E)) : Prop :=
  ∀ flight, d.cache.flight flight = .aloft → ∃ g, .guard g ∈ held ∧ g.flight = flight

theorem State.flight_retire_ne_aloft [DecidableEq K] (s : State K V E) (g : Guard K) :
    (s.retire g).flight g.flight ≠ .aloft := by
  simp only [retire]
  split
  · simp only [flight, Array.getD_eq_getD_getElem?, Array.getElem?_setIfInBounds]
    by_cases hs : g.flight < s.flights.size <;> simp [hs]
  · next hn => exact hn

variable [DecidableEq K] {d d' : Desk K V E} {now : Nat} {gains : List (Gain K V E)}
  {held held' : Multiset (Holding K V E)}

omit [DecidableEq K] in
theorem Attended.mono (h : Attended d held) (hf : d'.cache.flights = d.cache.flights)
    (hg : ∀ g, .guard g ∈ held → .guard g ∈ held') : Attended d' held' := by
  intro flight aloft
  have aloft : d.cache.flight flight = .aloft := by
    rw [← aloft]
    simp only [State.flight, hf]
  obtain ⟨g, hm, same⟩ := h flight aloft
  exact ⟨g, hg g hm, same⟩

theorem Act.attended {before after rest : Multiset (Holding K V E)}
    (h : Act now d before gains d' after) (ha : Attended d (before + rest)) :
    Attended d' (after + rest) := by
  cases h with
  | tally s l f => exact ha.mono rfl fun g hg => hg
  | glance s l key => exact ha.mono rfl fun g hg => hg
  | hit s l key value hv => exact ha.mono rfl fun g hg => by simpa using hg
  | depart s l key hn =>
    intro flight aloft
    rw [State.flight_launch] at aloft
    split at aloft
    · next new => exact ⟨⟨key, s.flights.size⟩, by simp, new.symm⟩
    · obtain ⟨g, hg, same⟩ := ha flight aloft
      exact ⟨g, by simpa using .inr (by simpa using hg), same⟩
  | join s l key flight hf => exact ha.mono rfl fun g hg => by simpa using hg
  | land s l g answer =>
    intro flight aloft
    rw [State.flight_publish] at aloft
    split at aloft
    · cases aloft
    · rw [State.flight, State.keep_flights] at aloft
      obtain ⟨g', hg, same⟩ := ha flight aloft
      exact ⟨g', by simpa using hg, same⟩
  | observe s l key flight answer hf => exact ha.mono rfl fun g hg => by simpa using hg
  | forget d x no =>
    refine ha.mono rfl fun g hg => ?_
    rcases Multiset.mem_add.mp hg with hg | hg
    · cases Multiset.mem_singleton.mp hg
      cases no
    · simpa using hg

theorem Acts.attended (h : Acts now d held gains d' held') (ha : Attended d held) :
    Attended d' held' := by
  induction h with
  | done => exact ha
  | act rest h _ ih => exact ih (h.attended ha)
  | retire g safe _ ih =>
    refine ih fun flight aloft => ?_
    have other : flight ≠ g.flight := by
      rintro rfl
      exact State.flight_retire_ne_aloft _ g aloft
    rw [State.flight_retire_of_ne other] at aloft
    obtain ⟨g', hg, same⟩ := ha flight aloft
    rcases Multiset.mem_add.mp hg with hg | hg
    · cases Multiset.mem_singleton.mp hg
      exact absurd same.symm other
    · exact ⟨g', hg, same⟩

end

section

variable {R K V E σ L B : Type} [DecidableEq K] {loader : Loader (Event R) K V E σ L B} {now : Nat}
  {s s' : State K V E} {w w' : σ} {events : List (Event R)} {gains : List (Gain K V E)}

omit [DecidableEq K] in
def Reader.Manned (gains : List (Gain K V E)) (reader : Reader K V E L B) : Prop :=
  ∀ g ∈ reader.guards, (∃ t ∈ reader.strands, g ∈ t.loads) ∨ (∃ x ∈ gains, x.flight = g.flight) ∨
    reader.Passing

omit [DecidableEq K] in
theorem Reader.manned_one (gains : List (Gain K V E)) (read : Read K L) :
    (Reader.one read : Reader K V E L B).Manned gains :=
  fun _ hg => .inl ⟨.read read, List.mem_singleton_self _, hg⟩

omit [DecidableEq K] in
theorem Reader.manned_joining (gains : List (Gain K V E)) (keys : List K)
    (slots : List (Option (Lookup V E))) (resolved : List (K × Lookup V E))
    (parts : List (Part K L ⊕ (K × Lookup V E))) :
    (Reader.many (.joining keys slots resolved parts) : Reader K V E L B).Manned gains := by
  intro g hg
  obtain ⟨part, hp, hg⟩ := List.mem_flatMap.mp hg
  refine .inl ⟨.part part, List.mem_map.mpr ⟨part, hp, rfl⟩, ?_⟩
  cases part with
  | watching key flight => cases hg
  | reading key read => exact hg

omit [DecidableEq K] in
theorem Chunk.exists_gain {guards : List (Guard K)} {found : List (K × Lookup V E)}
    (hlen : found.length = guards.length) {g : Guard K} (hg : g ∈ guards) :
    ∃ x ∈ Chunk.gains guards found, x.flight = g.flight := by
  induction guards generalizing found with
  | nil => cases hg
  | cons first rest ih =>
    cases found with
    | nil => cases hlen
    | cons x found =>
      rw [gains_cons]
      rcases List.mem_cons.mp hg with rfl | hg
      · exact ⟨_, List.mem_cons_self, rfl⟩
      · obtain ⟨y, hy, same⟩ := ih (by simpa using hlen) hg
        exact ⟨y, List.mem_cons_of_mem _ hy, same⟩

omit [DecidableEq K] in
theorem Reader.manned_started (gains : List (Gain K V E)) (keys : List K)
    (slots : List (Option (Lookup V E))) (resolved : List (K × Lookup V E)) (joined : List (K × Nat))
    (owned : List (Guard K)) :
    (Reader.many (.loading keys slots resolved owned
      ((ReadAll.started loader owned).map .inl) joined) : Reader K V E L B).Manned gains := by
  intro g hg
  have hg : g ∈ (ReadAll.started loader owned).flatMap (·.guards) := by
    rw [ReadAll.guards_started]
    exact hg
  obtain ⟨chunk, hc, hg⟩ := List.mem_flatMap.mp hg
  refine .inl ⟨.chunk chunk, ?_, hg⟩
  exact List.mem_map.mpr ⟨_, mem_getLefts.mpr (List.mem_map.mpr ⟨chunk, hc, rfl⟩), rfl⟩

theorem ReadAll.look_manned {keys : List K} {slots : List (Option (Lookup V E))}
    {read : ReadAll K V E L B}
    (h : (process loader).move now (.looking keys slots) (s, w) = .goes read (s', w') events) :
    (Reader.many read).Manned gains := by
  obtain ⟨key, -, rfl, -⟩ | ⟨-, -, rfl, -⟩ := looking_goes h <;> exact fun _ _ => .inr (.inr trivial)

theorem ReadAll.claim_manned {keys : List K} {slots : List (Option (Lookup V E))}
    {c : Claims K V E} {wanted : List K} {read : ReadAll K V E L B}
    (h : (process loader).move now (.claiming keys slots c wanted) (s, w) =
      .goes read (s', w') events) :
    (Reader.many read).Manned gains := by
  obtain ⟨key, rest, claim, s₁, -, -, rfl, -⟩ | ⟨-, ⟨-, rfl, -⟩ | ⟨-, rfl, -⟩⟩ := claiming_goes h
  · exact fun _ _ => .inr (.inr trivial)
  · exact Reader.manned_joining _ _ _ _ _
  · exact Reader.manned_started _ _ _ _ _ _

theorem ReadAll.loading_manned {keys : List K} {slots : List (Option (Lookup V E))}
    {resolved : List (K × Lookup V E)} {guards : List (Guard K)} {joined : List (K × Nat)}
    {chunks chunks' : List (Chunk K B ⊕ List (K × Lookup V E))} (origin : K → Option Nat)
    (h : Process.OneMoved (Chunk.process loader) now (s, w) chunks chunks' (s', w') events)
    (hm : (Reader.many (.loading keys slots resolved guards chunks joined) :
      Reader K V E L B).Manned gains) :
    (Reader.many (.loading keys slots resolved guards chunks' joined) : Reader K V E L B).Manned
      (gains ++ (ReadAll.loading keys slots resolved guards chunks joined : ReadAll K V E L B).gains
        origin (.loading keys slots resolved guards chunks' joined)) := by
  intro g hg
  rw [ReadAll.gains]
  rcases hm g hg with ⟨t, ht, hgt⟩ | ⟨x, hx, same⟩ | passing
  · -- The batch of the guard is there as before, unless it is the one that moved; if it has ended,
    -- it has brought a gain for each of its guards.
    obtain ⟨chunk, hc, rfl⟩ := List.mem_map.mp ht
    have hc := mem_getLefts.mp hc
    have hgt : g ∈ chunk.guards := hgt
    have stays (here : .inl chunk ∈ chunks') : ∃ t ∈ (Reader.many (.loading keys slots resolved
        guards chunks' joined) : Reader K V E L B).strands, g ∈ t.loads :=
      ⟨.chunk chunk, List.mem_map.mpr ⟨chunk, mem_getLefts.mpr here, rfl⟩, hgt⟩
    cases h with
    | went before after moved moved' old new move =>
      subst old new
      rcases List.mem_append.mp hc with hc | hc
      · exact .inl (stays (List.mem_append_left _ hc))
      · rcases List.mem_cons.mp hc with hc | hc
        · cases hc
          obtain ⟨same, -⟩ := Chunk.goes move
          rw [← same] at hgt
          exact .inl ⟨.chunk moved', List.mem_map.mpr ⟨moved', mem_getLefts.mpr (by simp), rfl⟩, hgt⟩
        · exact .inl (stays (List.mem_append_right _ (List.mem_cons_of_mem _ hc)))
    | ended before after moved found old new move =>
      subst old new
      rcases List.mem_append.mp hc with hc | hc
      · exact .inl (stays (List.mem_append_left _ hc))
      · rcases List.mem_cons.mp hc with hc | hc
        · cases hc
          obtain ⟨keys, -⟩ := Chunk.ends move [] 0
          have hlen : found.length = chunk.guards.length := by
            simpa [Chunk.keys] using congrArg List.length keys
          obtain ⟨x, hx, same⟩ := Chunk.exists_gain hlen hgt
          refine .inr (.inl ⟨x, List.mem_append_right _ ?_, same⟩)
          rw [Process.ofEnded_at]
          simpa [Process.ofEnded] using hx
        · exact .inl (stays (List.mem_append_right _ (List.mem_cons_of_mem _ hc)))
  · exact .inr (.inl ⟨x, List.mem_append_left _ hx, same⟩)
  · exact passing.elim

theorem Reader.goes_manned {reader reader' : Reader K V E L B} {origin : K → Option Nat}
    (h : (process loader).move now reader (s, w) = .goes reader' (s', w') events)
    (hm : reader.Manned gains) : reader'.Manned (gains ++ reader.gains origin reader') := by
  cases reader with
  | one read =>
    obtain ⟨read', w₁, -, rfl, -⟩ := Process.lift_goes h
    exact manned_one _ _
  | many read =>
    obtain ⟨read', w₁, moves, rfl, rfl⟩ := Process.lift_goes h
    cases read with
    | looking keys slots => exact ReadAll.look_manned moves
    | claiming keys slots claims wanted => exact ReadAll.claim_manned moves
    | loading keys slots resolved guards chunks joined =>
      simp only [ReadAll.process] at moves
      split at moves
      · cases moves
      · next chunks' w₂ events' goes =>
        cases moves
        exact ReadAll.loading_manned origin (Process.all_goes goes) hm
      · cases moves
        exact manned_joining _ _ _ _ _
    | joining keys slots resolved parts =>
      simp only [ReadAll.process] at moves
      split at moves
      · cases moves
      · cases moves
        exact manned_joining _ _ _ _ _
      · cases moves

variable (loader) in
def Strand.Waits (now : Nat) (w : State K V E × σ) : Strand K L B → Prop
  | .read r => ∃ wake, (Read.process loader).move now r w = .waits wake
  | .chunk c => ∃ wake, (Chunk.process loader).move now c w = .waits wake
  | .part p => ∃ wake, (Part.process loader).move now p w = .waits wake

theorem Reader.strands_wait {reader : Reader K V E L B} {w : State K V E × σ} {wake : Option Nat}
    (h : (process loader).move now reader w = .waits wake) :
    ∀ t ∈ reader.strands, t.Waits loader now w := by
  intro t ht
  cases reader with
  | one read =>
    cases List.mem_singleton.mp ht
    exact ⟨wake, Process.lift_waits h⟩
  | many read =>
    have h := Process.lift_waits h
    cases read with
    | looking keys slots => cases ht
    | claiming keys slots claims wanted => cases ht
    | loading keys slots resolved guards chunks joined =>
      obtain ⟨chunk, hc, rfl⟩ := List.mem_map.mp ht
      simp only [ReadAll.process] at h
      split at h
      · next hm => exact Process.waits_of_all hm chunk (mem_getLefts.mp hc)
      · cases h
      · cases h
    | joining keys slots resolved parts =>
      obtain ⟨part, hp, rfl⟩ := List.mem_map.mp ht
      simp only [ReadAll.process] at h
      split at h
      · next hm => exact Process.waits_of_all hm part (mem_getLefts.mp hp)
      · cases h
      · cases h

/-- Who waits for a flight that has come down can go on at once. -/
theorem Strand.not_waits {t : Strand K L B} {key : K} {flight : Nat} {w : State K V E × σ}
    (hw : t.wait? = some (key, flight)) (down : w.1.flight flight ≠ .aloft) :
    ¬ t.Waits loader now w := by
  have ofRead (r : Read K L) (hr : r.wait? = some (key, flight)) (wake : Option Nat) :
      (Read.process loader).move now r w ≠ .waits wake := by
    cases r with
    | looking key missed => cases hr
    | claiming key missed => cases hr
    | loading g st => cases hr
    | waiting key flight =>
      cases hr
      intro h
      simp only [Read.process] at h
      split at h
      · next aloft => exact absurd aloft down
      · cases h
      · cases h
  cases t with
  | read r =>
    rintro ⟨wake, h⟩
    exact ofRead r hw wake h
  | chunk c => cases hw
  | part p =>
    rintro ⟨wake, h⟩
    cases p with
    | watching key flight =>
      cases hw
      simp only [Part.process] at h
      split at h
      · next aloft => exact absurd aloft down
      · cases h
      · cases h
    | reading key r => exact ofRead r hw wake (Process.lift_waits h)

theorem Reader.Passing.moves {reader : Reader K V E L B} (h : reader.Passing)
    (w : State K V E × σ) (wake : Option Nat) :
    (process loader).move now reader w ≠ .waits wake := by
  intro waits
  cases reader with
  | one read =>
    have waits := Process.lift_waits waits
    cases read with
    | looking key missed =>
      simp only [Read.process] at waits
      split at waits <;> cases waits
    | claiming key missed =>
      simp only [Read.process, Read.claim] at waits
      split at waits <;> cases waits
    | loading g l => exact h.elim
    | waiting key flight => exact h.elim
  | many read =>
    have waits := Process.lift_waits waits
    cases read with
    | looking keys slots =>
      simp only [ReadAll.process] at waits
      split at waits
      · cases waits
      · split at waits <;> cases waits
    | claiming keys slots claims wanted =>
      cases wanted with
      | nil =>
        simp only [ReadAll.process, ReadAll.load] at waits
        split at waits <;> cases waits
      | cons key rest => cases waits
    | loading keys slots resolved guards chunks joined => exact h.elim
    | joining keys slots resolved parts => exact h.elim

omit [DecidableEq K] in
theorem mem_heldBy {visits : List (Visit K V E L B)} {v : Visit K V E L B} {x : Holding K V E}
    (hv : v ∈ visits) (hx : x ∈ v.reader.held) : x ∈ heldBy visits := by
  obtain ⟨before, after, rfl⟩ := List.append_of_mem hv
  rw [heldBy_at]
  exact Multiset.mem_add.mpr (.inl hx)

namespace Room

variable {outside : σ → σ → Prop} {room : Room K V E σ L B}

theorem attended_of_reach {c : Config} {world : σ} {start : Nat}
    (h : Reach loader outside (opening c world start) room) :
    Attended room.desk (heldBy room.visits) := by
  induction h with
  | refl =>
    intro flight aloft
    simp [opening, desk, State.ofConfig, State.flight] at aloft
  | tail before step ih =>
    have sound := (sound_opening c world start).reach before
    rcases step.acts sound with ⟨gains, acts⟩ | ⟨flights, held⟩
    · exact acts.attended ih
    · exact ih.mono flights fun g hg => held ▸ hg

theorem custom_manned : Custom loader (fun v : Visit K V E L B => v.reader.Manned v.gains)
    (fun _ => True) where
  goes := fun _ manned moves => Reader.goes_manned moves manned
  ends := fun _ _ _ => trivial

theorem manned_of_reach {c : Config} {world : σ} {start : Nat}
    (h : Reach loader outside (opening c world start) room) :
    ∀ v ∈ room.visits, v.reader.Manned v.gains := by
  refine (custom_manned.reach (fun number _ inquiry => ?_) h ?_ fun _ _ => trivial).1
  · cases inquiry with
    | one key => exact Reader.manned_one _ _
    | many keys =>
      intro g hg
      cases hg
  · simp [opening]

/-- In every room that can be reached, for each strand that waits for a flight: the flight has
landed or is lost, and the strand can go on at once, and so can its reader; or the flight is aloft
and under way for its key, and a reader who is there holds its guard. That one has a strand inside
the loader, in a call for that key, which waits for no flight; or else it is not at a suspension
point, but still settling who loads what, and goes on at once. -/
theorem waits_end_in_the_loader (c : Config) (world : σ) (start : Nat)
    (h : Reach loader outside (opening c world start) room) :
    ∀ v ∈ room.visits, ∀ t ∈ v.reader.strands, ∀ key flight, t.wait? = some (key, flight) →
      (((∃ answer, room.cache.flight flight = .landed answer) ∨
          room.cache.flight flight = .lost) ∧
        ¬ t.Waits loader room.now (room.cache, room.world) ∧
        ∀ wake, (Reader.process loader).move room.now v.reader (room.cache, room.world) ≠
          .waits wake) ∨
      (room.cache.flight flight = .aloft ∧ room.cache.underWay.lookup key = some flight ∧
        ∃ u ∈ room.visits, ⟨key, flight⟩ ∈ u.reader.guards ∧
          ((∃ t' ∈ u.reader.strands, ⟨key, flight⟩ ∈ t'.loads ∧
              t'.loads.map (·.key) ∈ u.reader.calls ∧ t'.wait? = none) ∨
            u.reader.Passing ∧ ∀ wake, (Reader.process loader).move room.now u.reader
              (room.cache, room.world) ≠ .waits wake)) := by
  intro v hv t ht key flight hw
  have sound : room.Sound := (sound_opening c world start).reach h
  by_cases aloft : room.cache.flight flight = .aloft
  · refine .inr ⟨aloft, ?_⟩
    obtain ⟨g, hg, same⟩ := attended_of_reach h flight aloft
    have waits : .wait key flight ∈ heldBy room.visits :=
      mem_heldBy hv (Reader.wait_mem_held ht hw)
    have under : (g.key, g.flight) ∈ room.cache.underWay := sound.orderly.mem_underWay.mpr hg
    have keys : g.key = key :=
      sound.orderly.tied _ _ flight (.inl (same ▸ under)) (.inr (.inl waits))
    obtain ⟨k, f⟩ := g
    obtain rfl : k = key := keys
    obtain rfl : f = flight := same
    refine ⟨Assoc.lookup_of_mem sound.orderly.keys under, ?_⟩
    have guarded : (⟨k, f⟩ : Guard K) ∈ (room.guards : Multiset (Guard K)) := by
      rw [room.coe_guards]
      exact mem_guardsOf.mpr hg
    obtain ⟨u, hu, hgu⟩ := List.mem_flatMap.mp (Multiset.mem_coe.mp guarded)
    refine ⟨u, hu, hgu, ?_⟩
    -- Had the load of the guard returned, the flight would have landed.
    rcases manned_of_reach h u hu _ hgu with ⟨t', ht', loads⟩ | ⟨x, hx, flown⟩ | passing
    · exact .inl ⟨t', ht', loads, Reader.mem_calls ht' loads, Strand.wait?_of_mem_loads loads⟩
    · obtain ⟨l, hl, -, hf, -⟩ := (sound.visits u hu).gains x hx
      have landed : room.cache.flight l.flight = .landed l.answer := sound.orderly.landings l hl
      rw [hf, flown, aloft] at landed
      cases landed
    · exact .inr ⟨passing, passing.moves _⟩
  · have free : ¬ t.Waits loader room.now (room.cache, room.world) := Strand.not_waits hw aloft
    refine .inl ⟨?_, free, fun wake stays => free (Reader.strands_wait stays t ht)⟩
    cases hf : room.cache.flight flight with
    | aloft => exact absurd hf aloft
    | landed answer => exact .inl ⟨answer, rfl⟩
    | lost => exact .inr rfl

/-- Two overlapping batches: one reader loads two keys, and a second one has loaded a third key and
waits for one of these. -/
theorem waits_end_in_the_loader_overlapping :
    ∃ room, Reach (Loader.board 1) (fun _ _ => True) (opening {} [] 0) room ∧
      ∃ v ∈ room.visits, ∃ t ∈ v.reader.strands, t.wait? = some (2, 1) ∧
        ∃ u ∈ room.visits, ⟨2, 1⟩ ∈ u.reader.guards ∧ ∃ t' ∈ u.reader.strands,
          t'.loads.map (·.key) ∈ u.reader.calls ∧ t'.wait? = none := by
  obtain ⟨room, run, settled, v, hv, t, ht, waits, aloft⟩ : ∃ room, play (Loader.board 1)
      (.arrive (.many [1, 2]) :: List.replicate 6 (.go 0) ++ .arrive (.many [3, 2]) ::
        List.replicate 6 (.go 1) ++ [.change [(3, 30)], .go 1, .go 1]) (opening {} [] 0) =
          some room ∧
      (∀ u ∈ room.visits, ¬ u.reader.Passing) ∧
      ∃ v ∈ room.visits, ∃ t ∈ v.reader.strands, t.wait? = some (2, 1) ∧
        room.cache.flight 1 = .aloft :=
    ⟨_, rfl, List.forall_mem_cons.mpr ⟨id, List.forall_mem_singleton.mpr id⟩, _,
      List.mem_cons_of_mem _ List.mem_cons_self, _, List.mem_cons_self, rfl, rfl⟩
  have reach := reach_of_play run
  refine ⟨room, reach, v, hv, t, ht, waits, ?_⟩
  rcases waits_end_in_the_loader _ _ _ reach v hv t ht 2 1 waits with ⟨down, -⟩ | ⟨-, -, loading⟩
  · simp [aloft] at down
  · obtain ⟨u, hu, guards, ⟨t', ht', -, calls, free⟩ | ⟨passing, -⟩⟩ := loading
    · exact ⟨u, hu, guards, t', ht', calls, free⟩
    · exact absurd passing (settled u hu)

end Room

end

end PacedCalls.Cache
