import PacedCalls.Proofs.Cache.Runs
import PacedCalls.Proofs.Cache.Sound

set_option autoImplicit false

namespace PacedCalls.Cache

inductive Delivery (K V E : Type) where
  | one (key : K) (answer : Lookup V E)
  | many (keys : List K) (result : Except E (List (K × V)))

namespace Delivery

variable {K V E : Type}

def keys : Delivery K V E → List K
  | one key _ => [key]
  | many keys _ => keys

variable [DecidableEq K]

def answer : Delivery K V E → K → Lookup V E
  | one _ answer, _ => answer
  | many _ result, key => batchAnswer result key

/-- A call for some keys, this one among them, has returned this answer for it. -/
def Says (d : Delivery K V E) (key : K) (a : Lookup V E) : Prop := key ∈ d.keys ∧ d.answer key = a

end Delivery

section

variable {R K V E σ L B : Type}

def Read.deliveries (loader : Loader (Event R) K V E σ L B) (now : Nat) (world : σ) :
    Read K L → List (Delivery K V E)
  | .loading g st =>
    match loader.load.move now st world with
    | .ends answer _ _ => [.one g.key answer]
    | _ => []
  | _ => []

def Chunk.deliveries (loader : Loader (Event R) K V E σ L B) (now : Nat) (world : σ)
    (chunk : Chunk K B) : List (Delivery K V E) :=
  match loader.loadBatch.move now chunk.state world with
  | .ends result _ _ => [.many chunk.keys result]
  | _ => []

def Part.deliveries (loader : Loader (Event R) K V E σ L B) (now : Nat) (world : σ) :
    Part K L → List (Delivery K V E)
  | .watching _ _ => []
  | .reading _ read => read.deliveries loader now world

variable [DecidableEq K]

def ReadAll.deliveries (loader : Loader (Event R) K V E σ L B) (now : Nat) (s : State K V E)
    (world : σ) : ReadAll K V E L B → List (Delivery K V E)
  | .looking _ _ => []
  | .claiming _ _ _ _ => []
  | .loading _ _ _ _ chunks _ =>
    ((Chunk.process loader).mover now (s, world) chunks).toList.flatMap
      (Chunk.deliveries loader now world)
  | .joining _ _ _ parts =>
    ((Part.process loader).mover now (s, world) parts).toList.flatMap
      (Part.deliveries loader now world)

def Reader.deliveries (loader : Loader (Event R) K V E σ L B) (now : Nat) (s : State K V E)
    (world : σ) : Reader K V E L B → List (Delivery K V E)
  | .one read => read.deliveries loader now world
  | .many read => read.deliveries loader now s world

namespace Room

def deliveries (loader : Loader (Event R) K V E σ L B) (room : Room K V E σ L B) :
    Deed K σ → List (Delivery K V E)
  | .go place =>
    room.visits[place]?.toList.flatMap fun v =>
      v.reader.deliveries loader room.now room.cache room.world
  | _ => []

/-- What calls of the loader return in a run. -/
def history (loader : Loader (Event R) K V E σ L B) :
    List (Deed K σ) → Room K V E σ L B → List (Delivery K V E)
  | [], _ => []
  | deed :: more, room =>
    room.deliveries loader deed ++ (room.perform loader deed).toList.flatMap (history loader more)

end Room

end

section

variable {R K V E σ L B : Type} [DecidableEq K] {loader : Loader (Event R) K V E σ L B}

theorem State.settleChunk_answers (s : State K V E) (now : Nat) (result : Except E (List (K × V)))
    (guards : List (Guard K)) :
    (s.settleChunk now result guards).1 = guards.map fun g => (g.key, batchAnswer result g.key) := by
  induction guards generalizing s with
  | nil => rfl
  | cons g guards ih => rw [settleChunk_cons, List.map_cons, ih]

omit [DecidableEq K] in
theorem Chunk.mem_gains_map {guards : List (Guard K)} {answer : K → Lookup V E} {x : Gain K V E}
    (h : x ∈ gains guards (guards.map fun g => (g.key, answer g.key))) :
    ∃ g ∈ guards, x.key = g.key ∧ x.flight = g.flight ∧ x.answer = answer g.key := by
  induction guards with
  | nil => cases h
  | cons g guards ih =>
    rw [List.map_cons, gains_cons] at h
    rcases List.mem_cons.mp h with rfl | h
    · exact ⟨g, List.mem_cons_self, rfl, rfl, rfl⟩
    · obtain ⟨g', hg, hx⟩ := ih h
      exact ⟨g', List.mem_cons_of_mem _ hg, hx⟩

variable {now : Nat} {s s' : State K V E} {w w' : σ} {events : List (Event R)}

theorem Read.own_delivered {read : Read K L} {answer : Lookup V E} {origin : K → Option Nat}
    (h : (process loader).move now read (s, w) = .ends answer (s', w') events) :
    ∀ x ∈ read.gains origin answer, x.own →
      ∃ d ∈ read.deliveries loader now w, d.Says x.key x.answer := by
  intro x hx own
  cases read with
  | looking key missed => simp [Gain.own_stored hx] at own
  | claiming key missed => simp [Gain.own_stored hx] at own
  | loading g st =>
    obtain ⟨more, hm, -⟩ := loading_ends h
    cases List.mem_singleton.mp hx
    exact ⟨.one g.key answer, by simp [deliveries, hm], by simp [Delivery.keys], rfl⟩
  | waiting key flight =>
    cases List.mem_singleton.mp hx
    cases own

theorem Part.own_delivered {part : Part K L} {found : K × Lookup V E} {origin : K → Option Nat}
    (h : (process loader).move now part (s, w) = .ends found (s', w') events) :
    ∀ x ∈ part.gains origin found, x.own →
      ∃ d ∈ part.deliveries loader now w, d.Says x.key x.answer := by
  intro x hx own
  cases part with
  | watching key flight =>
    cases List.mem_singleton.mp hx
    cases own
  | reading key read =>
    obtain ⟨answer, hm, rfl⟩ := reading_ends h
    exact Read.own_delivered hm x hx own

theorem Chunk.own_delivered {chunk : Chunk K B} {found : List (K × Lookup V E)}
    (h : (process loader).move now chunk (s, w) = .ends found (s', w') events) :
    ∀ x ∈ gains chunk.guards found,
      ∃ d ∈ chunk.deliveries loader now w, d.Says x.key x.answer := by
  have said {result : Except E (List (K × V))} {w₁ : σ} {more : List (Event R)}
      (hm : loader.loadBatch.move now chunk.state w = .ends result w₁ more)
      (hf : found = chunk.guards.map fun g => (g.key, batchAnswer result g.key)) :
      ∀ x ∈ gains chunk.guards found,
        ∃ d ∈ chunk.deliveries loader now w, d.Says x.key x.answer := by
    intro x hx
    rw [hf] at hx
    obtain ⟨g, hg, hk, -, ha⟩ := mem_gains_map hx
    refine ⟨.many chunk.keys result, by simp [deliveries, hm], ?_, ?_⟩
    · rw [hk]
      exact List.mem_map.mpr ⟨g, hg, rfl⟩
    · rw [hk, ha]
      rfl
  obtain ⟨values, more, hm, settled⟩ | ⟨e, more, hm, settled⟩ := move_ends h
  · refine said hm ?_
    rw [← State.settleChunk_answers s now (.ok values), settled]
  · refine said hm ?_
    rw [← State.settleChunk_answers s.countLoadFailure now (.error e), settled]

namespace ReadAll

theorem own_delivered {read read' : ReadAll K V E L B} {origin : K → Option Nat}
    (h : (process loader).move now read (s, w) = .goes read' (s', w') events) :
    ∀ x ∈ read.gains origin read', x.own →
      ∃ d ∈ read.deliveries loader now s w, d.Says x.key x.answer := by
  intro x hx own
  have stored (found : List (K × Lookup V E)) : x ∉ found.flatMap (Gain.stored origin) := by
    intro hm
    obtain ⟨p, -, hp⟩ := List.mem_flatMap.mp hm
    simp [Gain.own_stored hp] at own
  cases read with
  | looking keys slots =>
    cases read' with
    | looking keys' slots' => exact absurd hx (stored _)
    | _ => cases hx
  | claiming keys slots claims wanted =>
    cases read' with
    | claiming keys' slots' claims' wanted' => exact absurd hx (stored _)
    | _ => cases hx
  | loading keys slots resolved guards chunks joined =>
    obtain ⟨chunks', hm, rfl⟩ | ⟨found, -, rfl, -⟩ := loading_goes h
    · obtain ⟨before, chunk, after, rfl, turn, ⟨chunk', rfl, move⟩ | ⟨found, rfl, move⟩⟩ :=
        Process.mover_of_moveFirst (Process.moveFirst_of_all hm)
      all_goals rw [gains, Process.ofEnded_at] at hx
      · cases hx
      · have hx : x ∈ Chunk.gains chunk.guards found := by simpa [Process.ofEnded] using hx
        simpa [deliveries, turn] using Chunk.own_delivered move x hx
    · cases hx
  | joining keys slots resolved parts =>
    obtain ⟨parts', hm, rfl⟩ := joining_goes h
    obtain ⟨before, part, after, rfl, turn, ⟨part', rfl, move⟩ | ⟨found, rfl, move⟩⟩ :=
      Process.mover_of_moveFirst (Process.moveFirst_of_all hm)
    all_goals rw [gains, Process.ofEnded_at] at hx
    · cases hx
    · have hx : x ∈ part.gains origin found := by simpa [Process.ofEnded] using hx
      simpa [deliveries, turn] using Part.own_delivered move x hx own

end ReadAll

namespace Reader

theorem own_delivered {reader reader' : Reader K V E L B} {origin : K → Option Nat}
    (h : (process loader).move now reader (s, w) = .goes reader' (s', w') events) :
    ∀ x ∈ reader.gains origin reader', x.own →
      ∃ d ∈ reader.deliveries loader now s w, d.Says x.key x.answer := by
  cases reader with
  | one read =>
    intro x hx
    cases reader' <;> cases hx
  | many read =>
    obtain ⟨read', w₁, hm, rfl, rfl⟩ := Process.lift_goes h
    exact ReadAll.own_delivered hm

theorem own_delivered_last {reader : Reader K V E L B} {answers : List (Lookup V E)}
    {origin : K → Option Nat}
    (h : (process loader).move now reader (s, w) = .ends answers (s', w') events) :
    ∀ x ∈ reader.lastGains origin answers, x.own →
      ∃ d ∈ reader.deliveries loader now s w, d.Says x.key x.answer := by
  intro x hx own
  cases reader with
  | one read =>
    obtain ⟨answer, w₁, hm, rfl, rfl⟩ := Process.lift_ends h
    rw [lastGains, List.flatMap_singleton] at hx
    exact Read.own_delivered hm x hx own
  | many read => cases hx

end Reader

omit [DecidableEq K] in
theorem mem_landed {gains : List (Gain K V E)} {landings : List (Landing K V E)}
    {l : Landing K V E} (h : l ∈ landed now gains landings) :
    l ∈ landings ∨ ∃ x ∈ gains, x.own ∧ x.key = l.key ∧ x.answer = l.answer := by
  rcases List.mem_append.mp h with h | h
  · obtain ⟨x, hx, hl⟩ := List.mem_filterMap.mp (List.mem_reverse.mp h)
    simp only [Gain.landing?] at hl
    split at hl
    · next own =>
      cases hl
      exact .inr ⟨x, hx, own, rfl, rfl⟩
    · cases hl
  · exact .inl h

namespace Room

variable {room room' : Room K V E σ L B} {deed : Deed K σ} {deeds : List (Deed K σ)}

theorem mem_landings_of_perform (h : room.perform loader deed = some room') :
    ∀ l ∈ room'.landings, l ∈ room.landings ∨
      ∃ d ∈ room.deliveries loader deed, d.Says l.key l.answer := by
  intro l hl
  cases deed with
  | go place =>
    simp only [perform] at h
    split at h
    · cases h
    · next v hv =>
      simp only [deliveries, hv, Option.toList_some, List.flatMap_singleton]
      split at h
      · cases h
      · next moves =>
        cases h
        rcases mem_landed hl with old | ⟨x, hx, own, hk, ha⟩
        · exact .inl old
        · exact .inr (hk ▸ ha ▸ Reader.own_delivered moves x hx own)
      · next moves =>
        cases h
        rcases mem_landed hl with old | ⟨x, hx, own, hk, ha⟩
        · exact .inl old
        · exact .inr (hk ▸ ha ▸ Reader.own_delivered_last moves x hx own)
  | leave place =>
    simp only [perform] at h
    split at h
    · cases h
    · cases h
      exact .inl hl
  | wait later =>
    simp only [perform] at h
    split at h
    · cases h
      exact .inl hl
    · cases h
  | arrive inquiry => cases h; exact .inl hl
  | invalidate key => cases h; exact .inl hl
  | invalidateAll => cases h; exact .inl hl
  | change world => cases h; exact .inl hl

theorem mem_landings_of_play (h : play loader deeds room = some room') :
    ∀ l ∈ room'.landings, l ∈ room.landings ∨
      ∃ d ∈ history loader deeds room, d.Says l.key l.answer := by
  intro l hl
  induction deeds generalizing room with
  | nil =>
    cases h
    exact .inl hl
  | cons deed more ih =>
    obtain ⟨next, hp, hm⟩ := Option.bind_eq_some_iff.mp h
    simp only [history, hp, Option.toList_some, List.flatMap_singleton, List.mem_append]
    rcases ih hm with hl | ⟨d, hd, hs⟩
    · rcases mem_landings_of_perform hp l hl with hl | ⟨d, hd, hs⟩
      · exact .inl hl
      · exact .inr ⟨d, .inl hd, hs⟩
    · exact .inr ⟨d, .inr hd, hs⟩

end Room

end

end PacedCalls.Cache
