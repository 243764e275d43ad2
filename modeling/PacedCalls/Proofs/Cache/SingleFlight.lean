import PacedCalls.Proofs.Cache.Runs
import PacedCalls.Proofs.Cache.Sound

set_option autoImplicit false

namespace PacedCalls.Cache

section

variable {K V E σ L B : Type}

theorem Read.coe_guards (read : Read K L) :
    (read.guards : Multiset (Guard K)) = guardsOf (read.held : Multiset (Holding K V E)) := by
  cases read <;> rfl

theorem Part.coe_guards (part : Part K L) :
    (part.guards : Multiset (Guard K)) = guardsOf (part.held : Multiset (Holding K V E)) := by
  cases part with
  | watching key flight => rfl
  | reading key read => exact read.coe_guards

theorem coe_partsGuards (parts : List (Part K L ⊕ (K × Lookup V E))) :
    ((parts.filterMap Sum.getLeft?).flatMap Part.guards : Multiset (Guard K)) =
      guardsOf (partsHeld parts) := by
  induction parts with
  | nil => rfl
  | cons part rest ih =>
    cases part with
    | inl part =>
      rw [partsHeld_inl, guardsOf_add, ← ih, ← part.coe_guards, Multiset.coe_add]
      rfl
    | inr x =>
      rw [partsHeld_inr, guardsOf_add, ← ih, guardsOf_singleton]
      exact (zero_add _).symm

theorem ReadAll.coe_guards (read : ReadAll K V E L B) :
    (read.guards : Multiset (Guard K)) = guardsOf read.held := by
  cases read with
  | looking keys slots => simp [ReadAll.guards, held]
  | claiming keys slots claims wanted =>
    simp [ReadAll.guards, held, Claims.held, guardsOf_guardsHeld]
  | loading keys slots resolved guards chunks joined =>
    simp [ReadAll.guards, held, guardsOf_chunksHeld, guardsOf_guardsHeld]
  | joining keys slots resolved parts =>
    simp [ReadAll.guards, held, coe_partsGuards]

theorem Reader.coe_guards (reader : Reader K V E L B) :
    (reader.guards : Multiset (Guard K)) = guardsOf reader.held := by
  cases reader with
  | one read => exact read.coe_guards
  | many read => exact read.coe_guards

theorem Room.coe_guards (room : Room K V E σ L B) :
    (room.guards : Multiset (Guard K)) = guardsOf (heldBy room.visits) := by
  unfold Room.guards
  induction room.visits with
  | nil => rfl
  | cons v rest ih =>
    rw [List.flatMap_cons, ← Multiset.coe_add, ih, heldBy_cons, guardsOf_add, v.reader.coe_guards]

def loadKeys (held : Multiset (Holding K V E)) : Multiset K := (loadsOf held).map (·.key)

theorem loadKeys_add (a b : Multiset (Holding K V E)) :
    loadKeys (a + b) = loadKeys a + loadKeys b := by
  simp [loadKeys]

theorem Read.coe_calls (read : Read K L) :
    (read.calls.flatten : Multiset K) = loadKeys (read.held : Multiset (Holding K V E)) := by
  cases read <;> rfl

theorem Part.coe_calls (part : Part K L) :
    (part.calls.flatten : Multiset K) = loadKeys (part.held : Multiset (Holding K V E)) := by
  cases part with
  | watching key flight => rfl
  | reading key read => exact read.coe_calls

theorem coe_partsCalls (parts : List (Part K L ⊕ (K × Lookup V E))) :
    (((parts.filterMap Sum.getLeft?).flatMap Part.calls).flatten : Multiset K) =
      loadKeys (partsHeld parts) := by
  induction parts with
  | nil => rfl
  | cons part rest ih =>
    cases part with
    | inl part =>
      rw [partsHeld_inl, loadKeys_add, ← ih, ← part.coe_calls, Multiset.coe_add,
        ← List.flatten_append]
      rfl
    | inr x =>
      rw [partsHeld_inr, loadKeys_add, ← ih]
      exact (zero_add _).symm

theorem coe_chunksCalls (chunks : List (Chunk K B ⊕ List (K × Lookup V E))) :
    (((chunks.filterMap Sum.getLeft?).map fun chunk => chunk.guards.map (·.key)).flatten :
      Multiset K) = loadKeys (chunksHeld chunks) := by
  induction chunks with
  | nil => rfl
  | cons chunk rest ih =>
    cases chunk with
    | inl chunk =>
      rw [chunksHeld_inl, loadKeys_add, ← ih, loadKeys, loadsOf_loadsHeld, Multiset.map_coe,
        Multiset.coe_add]
      rfl
    | inr found =>
      rw [chunksHeld_inr, loadKeys_add, ← ih, loadKeys, loadsOf_answersHeld]
      exact (zero_add _).symm

/-- A reader that has claimed keys is about to begin calls for them. -/
theorem ReadAll.calls_le (read : ReadAll K V E L B) :
    (read.calls.flatten : Multiset K) ≤ loadKeys read.held := by
  cases read with
  | looking keys slots => exact Multiset.zero_le _
  | claiming keys slots claims wanted => exact Multiset.zero_le _
  | loading keys slots resolved guards chunks joined =>
    simp only [ReadAll.calls, coe_chunksCalls, held, loadKeys_add]
    simp [loadKeys]
  | joining keys slots resolved parts =>
    simp only [ReadAll.calls, coe_partsCalls, held, loadKeys_add]
    simp [loadKeys]

theorem Reader.calls_le (reader : Reader K V E L B) :
    (reader.calls.flatten : Multiset K) ≤ loadKeys reader.held := by
  cases reader with
  | one read => exact read.coe_calls.le
  | many read => exact read.calls_le

theorem Room.calls_le (room : Room K V E σ L B) :
    (room.calls.flatten : Multiset K) ≤ loadKeys (heldBy room.visits) := by
  unfold Room.calls
  induction room.visits with
  | nil => exact Multiset.zero_le _
  | cons v rest ih =>
    rw [List.flatMap_cons, List.flatten_append, ← Multiset.coe_add, heldBy_cons, loadKeys_add]
    exact add_le_add v.reader.calls_le ih

end

section

variable {R K V E σ L B : Type} [DecidableEq K] {loader : Loader (Event R) K V E σ L B}
  {outside : σ → σ → Prop}

theorem Orderly.guardKeys_nodup {d : Desk K V E} {held : Multiset (Holding K V E)}
    (h : Orderly d held) : ((guardsOf held).map (·.key)).Nodup := by
  have keys : (d.cache.underWay.map (·.1) : Multiset K) = (guardsOf held).map (·.key) := by
    rw [← Multiset.map_coe, h.table, Multiset.map_map]
    rfl
  rw [← keys]
  exact Multiset.coe_nodup.mpr h.keys

theorem length_filter_mem_le {ls : List (List K)} (h : ls.flatten.Nodup) (key : K) :
    (ls.filter (key ∈ ·)).length ≤ 1 := by
  refine le_trans ?_ (List.nodup_iff_count_le_one.mp h key)
  clear h
  induction ls with
  | nil => simp
  | cons l rest ih =>
    rw [List.flatten_cons, List.count_append]
    by_cases hk : key ∈ l
    · have := List.count_pos_iff.mpr hk
      simp only [hk, decide_true, List.filter_cons_of_pos, List.length_cons]
      omega
    · simp only [hk, decide_false, Bool.false_eq_true, not_false_eq_true, List.filter_cons_of_neg]
      omega

/-- In every room that can be reached, whatever its readers do in whatever order: a key is covered
by at most one running call of the loader; the keys under way are those of the guards held, each
held once, and the flight under way for its key is its own; and without readers nothing is under
way. -/
theorem Room.single_flight (c : Config) (world : σ) (start : Nat) {room : Room K V E σ L B}
    (h : Reach loader outside (opening c world start) room) :
    (∀ key, (room.calls.filter (key ∈ ·)).length ≤ 1) ∧
      (room.cache.underWay.map (·.1)).Nodup ∧
      (∀ key, key ∈ room.cache.underWay.map (·.1) ↔ key ∈ room.guards.map (·.key)) ∧
      (room.guards.map (·.key)).Nodup ∧
      (∀ g ∈ room.guards, room.cache.underWay.lookup g.key = some g.flight) ∧
      (room.visits = [] → room.cache.inFlight = 0) := by
  have order : Orderly room.desk (heldBy room.visits) := ((sound_opening c world start).reach h).orderly
  have table : (room.cache.underWay : Multiset (K × Nat)) =
      (room.guards.map fun g => (g.key, g.flight) : List (K × Nat)) := by
    rw [← Multiset.map_coe, room.coe_guards]
    exact order.table
  have once : (room.guards.map (·.key)).Nodup := by
    rw [← Multiset.coe_nodup, ← Multiset.map_coe, room.coe_guards]
    exact order.guardKeys_nodup
  have perm : room.cache.underWay.Perm (room.guards.map fun g => (g.key, g.flight)) :=
    Multiset.coe_eq_coe.mp table
  refine ⟨length_filter_mem_le ?_, order.keys, fun key => ?_, once, fun g hg => ?_, fun hv => ?_⟩
  · -- Running calls are covered by guards, and these have different keys.
    have guarded := room.calls_le.trans (Multiset.map_le_map order.covered)
    exact Multiset.coe_nodup.mp (Multiset.nodup_of_le guarded order.guardKeys_nodup)
  · rw [(perm.map (·.1)).mem_iff, List.map_map]
    rfl
  · refine Assoc.lookup_of_mem order.keys (perm.mem_iff.mpr ?_)
    exact List.mem_map.mpr ⟨g, hg, rfl⟩
  · have none_ : room.guards = [] := by simp [guards, hv]
    rw [none_] at perm
    simpa [State.inFlight] using perm.length_eq

/-- The law for a room in which one reader loads two keys, in two batches, and a second one waits
for one of them and loads a third. -/
theorem Room.single_flight_overlapping :
    ∃ room, Reach (Loader.board 1) (fun _ _ => True) (opening {} [] 0) room ∧
      room.guards = [⟨1, 0⟩, ⟨2, 1⟩, ⟨3, 2⟩] ∧
      room.calls = [[1], [2], [3]] ∧ (∀ key, (room.calls.filter (key ∈ ·)).length ≤ 1) ∧
      (∀ g ∈ room.guards, room.cache.underWay.lookup g.key = some g.flight) := by
  have run : play (Loader.board 1) (.arrive (.many [1, 2]) :: List.replicate 6 (.go 0) ++
      .arrive (.many [3, 2]) :: List.replicate 6 (.go 1)) (opening {} [] 0) = some _ := rfl
  obtain ⟨calls, -, -, -, flights, -⟩ := single_flight {} [] 0 (reach_of_play run)
  exact ⟨_, reach_of_play run, by decide, by decide, calls, flights⟩

end

end PacedCalls.Cache
