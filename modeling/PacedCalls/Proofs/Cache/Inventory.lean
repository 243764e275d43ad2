import PacedCalls.Proofs.Cache.Looks
import PacedCalls.Proofs.Cache.SingleFlight
import PacedCalls.Proofs.Cache.Turns

/-!
What becomes of what is stored. Every load that returns puts its answers in as new entries, since
the keys that are being loaded are never stored: a claim starts a load only of a key that it does
not find, and nobody else loads it meanwhile. So an entry that is no longer there has given way to
another one, has been found too old, or has been dropped. A claim drops what is too old without
counting it, but it only finds such an entry if time has passed since the look before it.
-/

set_option autoImplicit false

namespace PacedCalls.Cache

/-- An answer is put into a store, which is given as it was just before. -/
structure Write (K V : Type) where
  store : Store K V
  key : K
  value : Option V

section

variable {K V E : Type} [DecidableEq K]

def Write.New (w : Write K V) : Prop := w.key ∉ w.store.keys

instance (w : Write K V) : Decidable w.New := inferInstanceAs (Decidable (w.key ∉ w.store.keys))

/-- What is stored of what a call returns: no failure, and of a batch all keys it was for. -/
def Delivery.kept : Delivery K V E → List (K × Option V)
  | .one key answer => answer.settled?.toList.map (key, ·)
  | .many keys (.ok found) => keys.map fun key => (key, found.lookup key)
  | .many _ (.error _) => []

namespace Store

theorem size_remove (s : Store K V) (key : K) :
    (s.remove key).size + s.keys.count key = s.size := by
  have split := s.entries.length_eq_length_filter_add fun e => decide (e.key = key)
  have dropped : s.keys.count key = (s.entries.filter fun e => decide (e.key = key)).length := by
    rw [keys, List.count, List.countP_map, List.countP_eq_length_filter]
    rfl
  simp only [Store.size, remove, others, ne_eq, decide_not] at split ⊢
  omega

def stock (s : Store K V) (now : ℕ) : List (K × Option V) → Store K V
  | [] => s
  | (key, value) :: rest => (s.insert key value now).2.stock now rest

def writes (s : Store K V) (now : ℕ) : List (K × Option V) → List (Write K V)
  | [] => []
  | (key, value) :: rest => ⟨s, key, value⟩ :: (s.insert key value now).2.writes now rest

def gaveWay (s : Store K V) (now : ℕ) : List (K × Option V) → ℕ
  | [] => 0
  | (key, value) :: rest =>
    (s.insert key value now).1.toNat + (s.insert key value now).2.gaveWay now rest

theorem stock_append (s : Store K V) (now : ℕ) (kept more : List (K × Option V)) :
    s.stock now (kept ++ more) = (s.stock now kept).stock now more := by
  induction kept generalizing s with
  | nil => rfl
  | cons p rest ih => exact ih _

variable {s : Store K V} {key : K} {now : ℕ}

theorem insert_absent (room : 0 < s.capacity) (bounded : s.size ≤ s.capacity)
    (absent : key ∉ s.keys) (value : Option V) (now : ℕ) :
    (s.insert key value now).2.size + (s.insert key value now).1.toNat = s.size + 1 ∧
      (s.insert key value now).2.size ≤ s.capacity ∧
      ∀ k ∈ (s.insert key value now).2.keys, k = key ∨ k ∈ s.keys := by
  obtain ⟨present, -⟩ | ⟨-, lt, eq⟩ | ⟨stay, last, -, full, split, eq⟩ :=
    insert_cases value now key room bounded
  · exact absurd present absent
  · rw [eq]
    refine ⟨rfl, lt, fun k hk => ?_⟩
    rwa [keys_cons, List.mem_cons] at hk
  · have size : s.size = stay.length + 1 := by rw [Store.size, split, List.length_append]; rfl
    rw [eq]
    refine ⟨?_, ?_, fun k hk => ?_⟩
    · simp only [Store.size, List.length_cons, Bool.toNat_true] at size ⊢
      omega
    · simp only [Store.size, List.length_cons] at size full ⊢
      omega
    · rw [keys_cons, List.mem_cons] at hk
      have sub : stay.Sublist s.entries := split ▸ List.sublist_append_left stay [last]
      exact hk.imp id fun hk => (keys_sublist sub).subset hk

theorem insert_capacity (s : Store K V) (key : K) (value : Option V) (now : ℕ) :
    (s.insert key value now).2.capacity = s.capacity :=
  (s.serve_settings now (.insert key value)).1

theorem stock_absent {kept : List (K × Option V)} (room : 0 < s.capacity)
    (bounded : s.size ≤ s.capacity) (once : (kept.map (·.1)).Nodup)
    (absent : ∀ key ∈ kept.map (·.1), key ∉ s.keys) (now : ℕ) :
    (∀ w ∈ s.writes now kept, w.New) ∧
      (s.stock now kept).size + s.gaveWay now kept = s.size + (s.writes now kept).length ∧
      ∀ k ∈ (s.stock now kept).keys, k ∈ kept.map (·.1) ∨ k ∈ s.keys := by
  induction kept generalizing s with
  | nil => exact ⟨by simp [writes], rfl, fun k hk => .inr hk⟩
  | cons p rest ih =>
    obtain ⟨key, value⟩ := p
    obtain ⟨fresh, once⟩ := List.nodup_cons.mp once
    obtain ⟨grown, bounded', keys⟩ :=
      insert_absent room bounded (absent key List.mem_cons_self) value now
    obtain ⟨news, counted, held⟩ := ih (s := (s.insert key value now).2)
      (by rwa [insert_capacity]) (by rwa [insert_capacity]) once fun k hk hm => by
        rcases keys k hm with rfl | hm
        · exact fresh hk
        · exact absent k (.tail _ hk) hm
    refine ⟨?_, ?_, fun k hk => ?_⟩
    · simp only [writes, List.forall_mem_cons]
      exact ⟨absent key List.mem_cons_self, news⟩
    · simp only [stock, gaveWay, writes, List.length_cons] at counted ⊢
      omega
    · rcases held k hk with hk | hk
      · exact .inl (.tail _ hk)
      · rcases keys k hk with rfl | hk
        · exact .inl List.mem_cons_self
        · exact .inr hk

end Store

/-- The store is only looked into, and then some keys begin to be loaded that are not there; or
some keys are loaded no longer, and answers for some of these are put in. A look that is not
prompt may drop entries that are not counted. -/
inductive Stirs (prompt : Prop) (now : ℕ) : State K V E → Multiset K → List (K × Option V) →
    State K V E → Multiset K → Prop where
  | looks {s s' : State K V E} (new running : Multiset K)
      (fewer : ∀ e ∈ s'.store.entries, e ∈ s.store.entries)
      (counted : prompt →
        s'.store.size + s'.stats.expirations = s.store.size + s.stats.expirations)
      (evictions : s'.stats.evictions = s.stats.evictions)
      (absent : ∀ key ∈ new, key ∉ s'.store.keys) :
      Stirs prompt now s running [] s' (new + running)
  | lands {s s' : State K V E} (kept : List (K × Option V)) (gone running : Multiset K)
      (store : s'.store = s.store.stock now kept)
      (evictions : s'.stats.evictions = s.stats.evictions + s.store.gaveWay now kept)
      (expirations : s'.stats.expirations = s.stats.expirations)
      (keys : (kept.map (·.1) : Multiset K) ≤ gone) :
      Stirs prompt now s (gone + running) kept s' running

namespace Stirs

variable {prompt more : Prop} {now : ℕ} {s s' : State K V E} {running running' : Multiset K}
  {kept : List (K × Option V)}

theorem mono (h : Stirs prompt now s running kept s' running') (imp : more → prompt) :
    Stirs more now s running kept s' running' := by
  cases h with
  | looks new running fewer counted evictions absent =>
    exact .looks new running fewer (fun h => counted (imp h)) evictions absent
  | lands kept gone running store evictions expirations keys =>
    exact .lands kept gone running' store evictions expirations keys

theorem beside (h : Stirs prompt now s running kept s' running') (others : Multiset K) :
    Stirs prompt now s (running + others) kept s' (running' + others) := by
  cases h with
  | looks new running fewer counted evictions absent =>
    rw [add_assoc]
    exact .looks new (running + others) fewer counted evictions absent
  | lands kept gone running store evictions expirations keys =>
    rw [add_assoc]
    exact .lands kept gone (running' + others) store evictions expirations keys

theorem still (running : Multiset K) (store : s'.store = s.store)
    (evictions : s'.stats.evictions = s.stats.evictions)
    (expirations : s'.stats.expirations = s.stats.expirations) :
    Stirs prompt now s running [] s' running := by
  have looked : Stirs prompt now s running [] s' (0 + running) :=
    .looks 0 running (fun e he => store ▸ he) (fun _ => by rw [store, expirations]) evictions
      (by simp)
  rwa [zero_add] at looked

theorem of_look (once : s.store.keys.Nodup) {key : K} {slot : Option (Lookup V E)}
    (h : s.readStore key now = (slot, s')) (running : Multiset K) :
    Stirs prompt now s running [] s' running := by
  have skimmed := State.readStore_skimmed once key now
  rw [h] at skimmed
  have looked : Stirs prompt now s running [] s' (0 + running) := by
    refine .looks 0 running (fun e he => ((skimmed.entries e).mp he).1) (fun _ => skimmed.expired)
      ?_ (by simp)
    rw [skimmed.counted]
  rwa [zero_add] at looked

theorem of_claim (once : s.store.keys.Nodup) {key : K} {c : Claim K V E} {s₁ : State K V E}
    (h : s.claim key now = (c, s₁)) (store : s'.store = s₁.store)
    (evictions : s'.stats.evictions = s₁.stats.evictions)
    (expirations : s'.stats.expirations = s₁.stats.expirations) {new : Multiset K}
    (owned : new = 0 ∨ new = {key} ∧ ∃ g, c = .owner g) (running : Multiset K) :
    Stirs (s.store.Current now key) now s running [] s' (new + running) := by
  obtain ⟨fewer, stats, absent, size⟩ := State.claim_store once h
  have same_evictions : s₁.stats.evictions = s.stats.evictions := by rw [stats]
  have same_expirations : s₁.stats.expirations = s.stats.expirations := by rw [stats]
  refine .looks new running (fun e he => fewer e (store ▸ he)) (fun current => ?_)
    (evictions.trans same_evictions) fun k hk => ?_
  · rw [store, size current, expirations, same_expirations]
  · obtain rfl | ⟨rfl, g, rfl⟩ := owned
    · simp at hk
    · obtain rfl := Multiset.mem_singleton.mp hk
      exact store ▸ (absent g rfl).2

theorem of_landed {gone : Multiset K} (store : s'.store = s.store.stock now kept)
    (evictions : s'.stats.evictions = s.stats.evictions + s.store.gaveWay now kept)
    (expirations : s'.stats.expirations = s.stats.expirations)
    (keys : (kept.map (·.1) : Multiset K) ≤ gone) : Stirs prompt now s gone kept s' 0 := by
  have landed : Stirs prompt now s (gone + 0) kept s' 0 :=
    .lands kept gone 0 store evictions expirations keys
  rwa [add_zero] at landed

theorem accounts (h : Stirs prompt now s running kept s' running') (room : 0 < s.store.capacity)
    (bounded : s.store.size ≤ s.store.capacity) (once : running.Nodup)
    (absent : ∀ key ∈ running, key ∉ s.store.keys) :
    (∀ w ∈ s.store.writes now kept, w.New) ∧
      (prompt → s'.store.size + s'.stats.evictions + s'.stats.expirations =
        s.store.size + s.stats.evictions + s.stats.expirations +
          (s.store.writes now kept).length) ∧
      ∀ key ∈ running', key ∉ s'.store.keys := by
  cases h with
  | looks new running fewer counted evictions outside =>
    refine ⟨by simp [Store.writes], fun h => ?_, fun key hk hm => ?_⟩
    · have := counted h
      simp only [Store.writes, List.length_nil]
      omega
    · rcases Multiset.mem_add.mp hk with hk | hk
      · exact outside key hk hm
      · obtain ⟨e, he, rfl⟩ := Store.mem_keys.mp hm
        exact absent _ hk (Store.mem_keys.mpr ⟨e, fewer e he, rfl⟩)
  | lands kept gone running store evictions expirations keys =>
    obtain ⟨gone_once, -, apart⟩ := Multiset.nodup_add.mp once
    have kept_once : (kept.map (·.1)).Nodup :=
      Multiset.coe_nodup.mp (Multiset.nodup_of_le keys gone_once)
    have mine (key : K) (hk : key ∈ kept.map (·.1)) : key ∈ gone :=
      Multiset.mem_of_le keys (Multiset.mem_coe.mpr hk)
    obtain ⟨news, counted, held⟩ := Store.stock_absent room bounded kept_once
      (fun key hk => absent key (Multiset.mem_add.mpr (.inl (mine key hk)))) now
    refine ⟨news, fun _ => ?_, fun key hk hm => ?_⟩
    · rw [store, evictions, expirations]
      omega
    · rw [store] at hm
      rcases held key hm with hm | hm
      · exact Multiset.disjoint_left.mp apart (mine key hm) hk
      · exact absent key (Multiset.mem_add.mpr (.inr hk)) hm

end Stirs

end

section

variable {K V E L B : Type}

def Read.missed : Read K L → List K
  | .claiming key _ => [key]
  | _ => []

def Part.missed : Part K L → List K
  | .watching _ _ => []
  | .reading _ read => read.missed

variable [DecidableEq K]

/-- The keys of which a look has found nothing and that are still to be claimed. -/
def ReadAll.missed : ReadAll K V E L B → List K
  | .looking keys slots => missing keys slots
  | .claiming _ _ _ wanted => wanted
  | .loading _ _ _ _ _ _ => []
  | .joining _ _ _ parts => (parts.filterMap Sum.getLeft?).flatMap Part.missed

def Reader.missed : Reader K V E L B → List K
  | .one read => read.missed
  | .many read => read.missed

@[simp]
theorem ReadAll.missed_join (keys : List K) (slots : List (Option (Lookup V E)))
    (resolved : List (K × Lookup V E)) (joined : List (K × ℕ)) :
    (join keys slots resolved joined : ReadAll K V E L B).missed = [] := by
  rw [join, missed, List.flatMap_eq_nil_iff]
  intro part hp
  simp only [List.mem_filterMap, List.mem_map, exists_exists_and_eq_and, Sum.getLeft?_inl] at hp
  obtain ⟨_, -, same⟩ := hp
  cases same
  rfl

theorem Inquiry.missed_start (inquiry : Inquiry K) :
    (inquiry.start : Reader K V E L B).missed = [] := by
  cases inquiry with
  | one key => rfl
  | many keys =>
    simp only [start, Reader.missed, ReadAll.start, ReadAll.missed, ReadAll.missing,
      List.zip_nil_right]
    rfl

omit [DecidableEq K] in
theorem mem_zip_concat {keys : List K} {slots : List (Option (Lookup V E))} {key : K}
    (next : keys[slots.length]? = some key) {slot : Option (Lookup V E)} {k : K} :
    (k, none) ∈ keys.zip (slots ++ [slot]) ↔ (k, none) ∈ keys.zip slots ∨ k = key ∧ slot = none := by
  induction slots generalizing keys with
  | nil =>
    cases keys with
    | nil => cases next
    | cons first keys =>
      cases next
      simp [eq_comm]
  | cons old slots ih =>
    cases keys with
    | nil => cases next
    | cons first keys =>
      rw [List.cons_append, List.zip_cons_cons, List.zip_cons_cons, List.mem_cons, List.mem_cons,
        ih (by simpa using next), or_assoc]

end

def Claim.keys {K V E : Type} (key : K) : Claim K V E → Multiset K
  | .owner _ => {key}
  | _ => 0

theorem Claim.keys_cases {K V E : Type} (claim : Claim K V E) (key : K) :
    claim.keys key = 0 ∨ claim.keys key = {key} ∧ ∃ g, claim = .owner g := by
  cases claim with
  | owner g => exact .inr ⟨rfl, g, rfl⟩
  | _ => exact .inl rfl

theorem Claims.owned_add {K V E : Type} [DecidableEq K] {s s' : State K V E} {key : K} {now : ℕ}
    {claim : Claim K V E} (h : s.claim key now = (claim, s')) (c : Claims K V E) :
    ((c.add key claim).owned.map (·.key) : Multiset K) =
      claim.keys key + (c.owned.map (·.key) : Multiset K) := by
  cases claim with
  | owner g =>
    rw [add, List.map_append, ← Multiset.coe_add, add_comm, List.map_singleton,
      State.claim_owner_key h]
    rfl
  | stored a => exact (zero_add _).symm
  | joined flight => exact (zero_add _).symm

namespace State

variable {K V E : Type} (s : State K V E) (claim : Claim K V E)

theorem countClaim_store : (s.countClaim claim).store = s.store := by
  cases claim <;> rfl

theorem countClaim_evictions : (s.countClaim claim).stats.evictions = s.stats.evictions := by
  cases claim <;> rfl

theorem countClaim_expirations : (s.countClaim claim).stats.expirations = s.stats.expirations := by
  cases claim <;> rfl

end State

theorem loadKeys_zero {K V E : Type} : loadKeys (0 : Multiset (Holding K V E)) = 0 := rfl

namespace ReadAll

variable {R K V E σ L B : Type} {loader : Loader (Event R) K V E σ L B}

theorem loadKeys_looking (keys : List K) (slots : List (Option (Lookup V E))) :
    loadKeys (ReadAll.looking keys slots : ReadAll K V E L B).held = 0 := by
  simp [held, loadKeys]

theorem loadKeys_claiming (keys : List K) (slots : List (Option (Lookup V E))) (c : Claims K V E)
    (wanted : List K) :
    loadKeys (ReadAll.claiming keys slots c wanted : ReadAll K V E L B).held =
      (c.owned.map (·.key) : Multiset K) := by
  have own : loadKeys (loadsHeld c.owned : Multiset (Holding K V E)) =
      (c.owned.map (·.key) : Multiset K) := by
    rw [loadKeys, loadsOf_loadsHeld, Multiset.map_coe]
  simp only [held, Claims.held, loadKeys_add, own]
  simp [loadKeys]

theorem loadKeys_loading (keys : List K) (slots : List (Option (Lookup V E)))
    (resolved : List (K × Lookup V E)) (guards : List (Guard K))
    (chunks : List (Chunk K B ⊕ List (K × Lookup V E))) (joined : List (K × ℕ)) :
    loadKeys (ReadAll.loading keys slots resolved guards chunks joined : ReadAll K V E L B).held =
      loadKeys (chunksHeld chunks) := by
  simp only [held, loadKeys_add]
  simp [loadKeys]

theorem loadKeys_joining (keys : List K) (slots : List (Option (Lookup V E)))
    (resolved : List (K × Lookup V E)) (parts : List (Part K L ⊕ (K × Lookup V E))) :
    loadKeys (ReadAll.joining keys slots resolved parts : ReadAll K V E L B).held =
      loadKeys (partsHeld parts) := by
  simp only [held, loadKeys_add]
  simp [loadKeys]

theorem loadKeys_join (keys : List K) (slots : List (Option (Lookup V E)))
    (resolved : List (K × Lookup V E)) (joined : List (K × ℕ)) :
    loadKeys (join keys slots resolved joined : ReadAll K V E L B).held = 0 := by
  rw [join, loadKeys_joining, partsHeld_watched]
  simp [loadKeys]

theorem loadKeys_started (owned : List (Guard K)) :
    loadKeys (chunksHeld
        ((started loader owned).map .inl : List (Chunk K B ⊕ List (K × Lookup V E)))) =
      (owned.map (·.key) : Multiset K) := by
  rw [chunksHeld_begun, guards_started, loadKeys, loadsOf_loadsHeld, Multiset.map_coe]

end ReadAll

section

variable {R K V E σ L B : Type} [DecidableEq K] {loader : Loader (Event R) K V E σ L B} {now : ℕ}
  {s s' : State K V E} {w w' : σ} {events : List (Event R)}

theorem State.settle_stock (s : State K V E) (g : Guard K) (answer : Lookup V E) (now : ℕ) :
    (s.settle g answer now).store =
        s.store.stock now (answer.settled?.toList.map (g.key, ·)) ∧
      (s.settle g answer now).stats.evictions = s.stats.evictions +
        s.store.gaveWay now (answer.settled?.toList.map (g.key, ·)) ∧
      (s.settle g answer now).stats.expirations = s.stats.expirations := by
  rw [settle_store, settle_stats]
  cases answer.settled? with
  | none => exact ⟨rfl, rfl, rfl⟩
  | some value =>
    have evictions := congrArg Stats.evictions (s.insert_stats g.key value now)
    have expirations := congrArg Stats.expirations (s.insert_stats g.key value now)
    exact ⟨rfl, evictions, expirations⟩

theorem State.settleChunk_stock (s : State K V E) (now : ℕ) (found : List (K × V))
    (guards : List (Guard K)) :
    (s.settleChunk now (.ok found) guards).2.store =
        s.store.stock now (guards.map fun g => (g.key, found.lookup g.key)) ∧
      (s.settleChunk now (.ok found) guards).2.stats.evictions = s.stats.evictions +
        s.store.gaveWay now (guards.map fun g => (g.key, found.lookup g.key)) ∧
      (s.settleChunk now (.ok found) guards).2.stats.expirations = s.stats.expirations := by
  induction guards generalizing s with
  | nil => exact ⟨rfl, rfl, rfl⟩
  | cons g rest ih =>
    obtain ⟨store, evictions, expirations⟩ :=
      ih ((s.insert g.key (found.lookup g.key) now).publish g (.ofOption (found.lookup g.key)))
    have stored : ((s.insert g.key (found.lookup g.key) now).publish g
        (.ofOption (found.lookup g.key))).store =
          (s.store.insert g.key (found.lookup g.key) now).2 := s.insert_store ..
    have counted : ((s.insert g.key (found.lookup g.key) now).publish g
        (.ofOption (found.lookup g.key))).stats = _ := s.insert_stats ..
    rw [stored] at store evictions
    rw [counted] at evictions expirations
    exact ⟨store, evictions.trans (Nat.add_assoc ..), expirations⟩

theorem State.settleChunk_error (s : State K V E) (now : ℕ) (e : E) (guards : List (Guard K)) :
    (s.settleChunk now (.error e) guards).2.store = s.store ∧
      (s.settleChunk now (.error e) guards).2.stats = s.stats := by
  induction guards generalizing s with
  | nil => exact ⟨rfl, rfl⟩
  | cons g rest ih => exact ih (s.publish g (.error e))

/-- What a process does to the store with each of its moves: `missed` are the keys that it is to
claim, `held` those that it is loading, and `deliveries` what its loads return. -/
structure Stocks {α st : Type} (p : Process (Event R) (State K V E × σ) st α)
    (missed : st → List K) (held : st → Multiset K)
    (deliveries : ℕ → State K V E → σ → st → List (Delivery K V E)) : Prop where
  goes : ∀ {now x x' s s' w w' events}, s.store.keys.Nodup →
    p.move now x (s, w) = .goes x' (s', w') events →
      Stirs (∀ key ∈ missed x, s.store.Current now key) now s (held x)
        ((deliveries now s w x).flatMap Delivery.kept) s' (held x')
  ends : ∀ {now x a s s' w w' events}, s.store.keys.Nodup →
    p.move now x (s, w) = .ends a (s', w') events →
      Stirs (∀ key ∈ missed x, s.store.Current now key) now s (held x)
        ((deliveries now s w x).flatMap Delivery.kept) s' 0

theorem Read.stocks : Stocks (Read.process loader) Read.missed
    (fun read => (read.calls.flatten : Multiset K))
    (fun now _ w => Read.deliveries loader now w) where
  goes {now x x' s s' w w' events} once h := by
    cases x with
    | looking key missed =>
      obtain ⟨hr, rfl, -⟩ := looking_goes h
      exact .of_look once hr 0
    | claiming key missed =>
      obtain ⟨g, s₁, hc, rfl, rfl, -⟩ | ⟨flight, s₁, hc, rfl, rfl, -⟩ := claiming_goes h
      · have owned : ([g.key] : Multiset K) = {key} := by rw [State.claim_owner_key hc]; rfl
        have claimed : Stirs (s.store.Current now key) now s 0 []
            ((if missed then s₁ else s₁.countMiss).countLoads 1) (([g.key] : Multiset K) + 0) := by
          refine .of_claim once hc ?_ ?_ ?_ (.inr ⟨owned, g, rfl⟩) 0 <;> cases missed <;> rfl
        rw [add_zero] at claimed
        exact claimed.mono fun current => current key (List.mem_singleton_self key)
      · have claimed : Stirs (s.store.Current now key) now s 0 []
            ((if missed then s₁ else s₁.countMiss).countJoin) (0 + 0) := by
          refine .of_claim once hc ?_ ?_ ?_ (.inl rfl) 0 <;> cases missed <;> rfl
        exact claimed.mono fun current => current key (List.mem_singleton_self key)
    | loading g l =>
      obtain ⟨l', moves, rfl, rfl⟩ := loading_goes h
      simp only [deliveries, moves]
      exact .still _ rfl rfl rfl
    | waiting key flight =>
      obtain ⟨-, rfl, rfl, -⟩ := waiting_goes h
      exact .still 0 rfl rfl rfl
  ends {now x a s s' w w' events} once h := by
    cases x with
    | looking key missed =>
      exact .of_look once (looking_ends h).1 0
    | claiming key missed =>
      have claimed : Stirs (s.store.Current now key) now s 0 [] s' (0 + 0) :=
        .of_claim once (claiming_ends h).1 rfl rfl rfl (.inl rfl) 0
      exact claimed.mono fun current => current key (List.mem_singleton_self key)
    | loading g l =>
      obtain ⟨more, moves, rfl⟩ := loading_ends h
      obtain ⟨store, evictions, expirations⟩ := s.settle_stock g a now
      simp only [deliveries, moves, List.flatMap_singleton]
      refine .of_landed store evictions expirations ?_
      cases hv : a.settled? with
      | none => simp [Delivery.kept, hv]
      | some value => simp [Delivery.kept, hv, calls]
    | waiting key flight =>
      obtain ⟨-, rfl, -⟩ := waiting_ends h
      exact .still 0 rfl rfl rfl

theorem Chunk.stocks : Stocks (Chunk.process loader) (fun _ => [])
    (fun chunk => (chunk.keys : Multiset K)) (fun now _ w => Chunk.deliveries loader now w) where
  goes {now x x' s s' w w' events} once h := by
    obtain ⟨b, moves, rfl, rfl⟩ := move_goes h
    have quiet : x.deliveries loader now w = [] := by simp only [deliveries, moves]
    rw [quiet]
    exact .still _ rfl rfl rfl
  ends {now x a s s' w w' events} once h := by
    obtain ⟨found, more, moves, settled⟩ | ⟨e, more, moves, settled⟩ := move_ends h
    · obtain ⟨store, evictions, expirations⟩ := s.settleChunk_stock now found x.guards
      rw [settled] at store evictions expirations
      have kept : (Chunk.deliveries loader now w x).flatMap Delivery.kept =
          x.guards.map fun g => (g.key, found.lookup g.key) := by
        simp [deliveries, moves, Delivery.kept, keys]
      rw [kept]
      refine .of_landed store evictions expirations ?_
      simp [keys, Function.comp_def]
    · obtain ⟨store, stats⟩ := s.countLoadFailure.settleChunk_error now e x.guards
      rw [settled] at store stats
      have kept : (Chunk.deliveries loader now w x).flatMap Delivery.kept = [] := by
        simp [deliveries, moves, Delivery.kept]
      rw [kept]
      exact .of_landed store (by rw [stats]; rfl) (by rw [stats]; rfl) (by simp)

theorem Part.stocks : Stocks (Part.process loader) Part.missed
    (fun part => (part.calls.flatten : Multiset K))
    (fun now _ w => Part.deliveries loader now w) where
  goes {now x x' s s' w w' events} once h := by
    cases x with
    | watching key flight =>
      obtain ⟨-, rfl, rfl, -⟩ := watching_goes h
      exact .still 0 rfl rfl rfl
    | reading key read =>
      obtain ⟨read', moves, rfl⟩ := reading_goes h
      exact Read.stocks.goes once moves
  ends {now x a s s' w w' events} once h := by
    cases x with
    | watching key flight =>
      obtain ⟨answer, -, -, rfl, -⟩ := watching_ends h
      exact .still 0 rfl rfl rfl
    | reading key read =>
      obtain ⟨answer, moves, rfl⟩ := reading_ends h
      exact Read.stocks.ends once moves

theorem Stocks.all {α st : Type} {p : Process (Event R) (State K V E × σ) st α}
    {missed : st → List K} {held : st → Multiset K}
    {deliveries : ℕ → State K V E → σ → st → List (Delivery K V E)}
    {heldBy : List (st ⊕ α) → Multiset K} (stocks : Stocks p missed held deliveries)
    (split : ∀ before x after, heldBy (before ++ x :: after) =
      x.elim held (fun _ => 0) + heldBy (before ++ after))
    (ended : ∀ values : List α, heldBy (values.map .inr) = 0) :
    Stocks p.all (fun parts => (parts.filterMap Sum.getLeft?).flatMap missed) heldBy
      (fun now s w parts => (p.mover now (s, w) parts).toList.flatMap (deliveries now s w)) where
  goes {now x x' s s' w w' events} once h := by
    obtain ⟨before, part, after, rfl, turn, ⟨part', rfl, move⟩ | ⟨a, rfl, move⟩⟩ :=
      Process.mover_of_moveFirst (Process.moveFirst_of_all h)
    all_goals
      rw [turn, split, split, Option.toList_some, List.flatMap_singleton]
      refine Stirs.mono ?_ fun current key hk =>
        current key (List.mem_flatMap.mpr ⟨part, by simp, hk⟩)
    · exact (stocks.goes once move).beside _
    · exact (stocks.ends once move).beside _
  ends {now x a s s' w w' events} once h := by
    obtain ⟨rfl, same, -⟩ := Process.all_ends h
    cases same
    rw [Process.mover_ended, ended]
    exact .still 0 rfl rfl rfl

theorem ReadAll.chunks_stock : Stocks (Chunk.process loader).all
    (fun chunks => (chunks.filterMap Sum.getLeft?).flatMap fun _ => [])
    (fun chunks => loadKeys (chunksHeld chunks)) (fun now s w chunks =>
      ((Chunk.process loader).mover now (s, w) chunks).toList.flatMap
        (Chunk.deliveries loader now w)) := by
  refine Chunk.stocks.all (fun before x after => ?_) fun values => ?_
  · have others : chunksHeld (before ++ after) = chunksHeld before + chunksHeld after := by
      simp [chunksHeld]
    rw [chunksHeld_at, loadKeys_add, others]
    congr 1
    cases x with
    | inl chunk =>
      rw [Sum.elim_inl, Sum.elim_inl, loadKeys, loadsOf_loadsHeld, Multiset.map_coe]
      rfl
    | inr found => simp [loadKeys]
  · rw [chunksHeld_ended]
    simp [loadKeys]

theorem ReadAll.parts_stock : Stocks (Part.process loader).all
    (fun parts => (parts.filterMap Sum.getLeft?).flatMap Part.missed)
    (fun parts => loadKeys (partsHeld parts)) (fun now s w parts =>
      ((Part.process loader).mover now (s, w) parts).toList.flatMap
        (Part.deliveries loader now w)) := by
  refine Part.stocks.all (fun before x after => ?_) fun values => ?_
  · have others : partsHeld (before ++ after) = partsHeld before + partsHeld after := by
      simp [partsHeld]
    rw [partsHeld_at, loadKeys_add, others]
    congr 1
    cases x with
    | inl part => exact part.coe_calls.symm
    | inr found => rfl
  · rw [partsHeld_ended]
    simp [loadKeys]

theorem ReadAll.stocks : Stocks (ReadAll.process loader) ReadAll.missed
    (fun read => loadKeys read.held) (ReadAll.deliveries loader) where
  goes {now x x' s s' w w' events} once h := by
    cases x with
    | looking keys slots =>
      obtain ⟨key, -, rfl, rfl, -⟩ | ⟨-, -, rfl, rfl, -⟩ := looking_goes h
      · rw [loadKeys_looking, loadKeys_looking]
        exact .of_look once rfl 0
      · rw [loadKeys_looking, loadKeys_claiming]
        exact .still 0 rfl rfl rfl
    | claiming keys slots c wanted =>
      obtain ⟨key, rest, claim, s₁, rfl, hc, rfl, rfl, -⟩ |
        ⟨rfl, ⟨none_, rfl, rfl, -⟩ | ⟨-, rfl, rfl, -⟩⟩ := claiming_goes h
      · rw [loadKeys_claiming, loadKeys_claiming, Claims.owned_add hc]
        have claimed : Stirs (s.store.Current now key) now s (c.owned.map (·.key) : Multiset K) []
            (s₁.countClaim claim) _ :=
          .of_claim once hc (s₁.countClaim_store claim) (s₁.countClaim_evictions claim)
            (s₁.countClaim_expirations claim) (claim.keys_cases key) _
        exact claimed.mono fun current => current key List.mem_cons_self
      · rw [loadKeys_claiming, loadKeys_join, none_]
        exact .still 0 rfl rfl rfl
      · rw [loadKeys_claiming, loadKeys_loading, loadKeys_started]
        exact .still _ rfl rfl rfl
    | loading keys slots resolved guards chunks joined =>
      obtain ⟨chunks', moves, rfl⟩ | ⟨found, rfl, rfl, rfl, -⟩ := loading_goes h
      · rw [loadKeys_loading, loadKeys_loading]
        exact (chunks_stock.goes once moves).mono fun _ key hk => by simp at hk
      · rw [loadKeys_loading, loadKeys_join, chunksHeld_ended, deliveries, Process.mover_ended,
          loadKeys, loadsOf_answersHeld]
        have stats := s.retireAll_stats guards
        exact .still 0 (s.retireAll_store guards) (by rw [stats]) (by rw [stats])
    | joining keys slots resolved parts =>
      obtain ⟨parts', moves, rfl⟩ := joining_goes h
      rw [loadKeys_joining, loadKeys_joining]
      exact parts_stock.goes once moves
  ends {now x a s s' w w' events} once h := by
    cases x with
    | looking keys slots =>
      obtain ⟨-, -, -, rfl, -⟩ := looking_ends h
      rw [loadKeys_looking]
      exact .still 0 rfl rfl rfl
    | claiming keys slots c wanted => exact absurd h not_claiming_ends
    | loading keys slots resolved guards chunks joined => exact absurd h not_loading_ends
    | joining keys slots resolved parts =>
      obtain ⟨found, rfl, -, rfl, -⟩ := joining_ends h
      rw [loadKeys_joining, partsHeld_ended, deliveries, Process.mover_ended, loadKeys,
        loadsOf_answersHeld]
      exact .still 0 rfl rfl rfl

theorem Reader.stocks : Stocks (Reader.process loader) Reader.missed
    (fun reader => loadKeys reader.held) (Reader.deliveries loader) where
  goes {now x x' s s' w w' events} once h := by
    cases x with
    | one read =>
      obtain ⟨read', w₁, moves, rfl, rfl⟩ := Process.lift_goes h
      have stirs := Read.stocks.goes once moves
      rw [Read.coe_calls, Read.coe_calls] at stirs
      exact stirs
    | many read =>
      obtain ⟨read', w₁, moves, rfl, rfl⟩ := Process.lift_goes h
      exact ReadAll.stocks.goes once moves
  ends {now x a s s' w w' events} once h := by
    cases x with
    | one read =>
      obtain ⟨answer, w₁, moves, rfl, rfl⟩ := Process.lift_ends h
      have stirs := Read.stocks.ends once moves
      rw [Read.coe_calls] at stirs
      exact stirs
    | many read =>
      obtain ⟨answers, w₁, moves, rfl, rfl⟩ := Process.lift_ends h
      exact ReadAll.stocks.ends once moves

theorem Read.missed_goes {read read' : Read K L}
    (h : (process loader).move now read (s, w) = .goes read' (s', w') events) :
    ∀ key ∈ read'.missed, key ∉ s'.store.keys := by
  cases read with
  | looking key missed =>
    obtain ⟨hr, rfl, -⟩ := looking_goes h
    exact List.forall_mem_singleton.mpr (State.absent_of_readStore hr)
  | claiming key missed =>
    obtain ⟨g, s₁, -, rfl, -⟩ | ⟨flight, s₁, -, rfl, -⟩ := claiming_goes h <;> simp [Read.missed]
  | loading g l =>
    obtain ⟨l', -, rfl, -⟩ := loading_goes h
    simp [Read.missed]
  | waiting key flight =>
    obtain ⟨-, rfl, -⟩ := waiting_goes h
    simp [Read.missed]

theorem Part.missed_goes {part part' : Part K L}
    (h : (process loader).move now part (s, w) = .goes part' (s', w') events) :
    ∀ key ∈ part'.missed, key ∉ s'.store.keys := by
  cases part with
  | watching key flight =>
    obtain ⟨-, rfl, -⟩ := watching_goes h
    simp [Part.missed, Read.missed, Read.start]
  | reading key read =>
    obtain ⟨read', moves, rfl⟩ := reading_goes h
    exact Read.missed_goes moves

theorem ReadAll.missed_goes {read read' : ReadAll K V E L B}
    (h : (process loader).move now read (s, w) = .goes read' (s', w') events) :
    ∀ key ∈ read'.missed, key ∈ read.missed ∨ key ∉ s'.store.keys := by
  cases read with
  | looking keys slots =>
    obtain ⟨key, next, rfl, rfl, -⟩ | ⟨-, -, rfl, -⟩ := looking_goes h
    · intro k hk
      rw [missed, mem_missing, mem_zip_concat next] at hk
      obtain hk | ⟨rfl, none_⟩ := hk
      · exact .inl (mem_missing.mpr hk)
      · exact .inr (State.absent_of_readStore (Prod.ext none_ rfl))
    · exact fun k hk => .inl hk
  | claiming keys slots c wanted =>
    obtain ⟨key, rest, claim, s₁, rfl, -, rfl, -⟩ | ⟨rfl, ⟨-, rfl, -⟩ | ⟨-, rfl, -⟩⟩ :=
      claiming_goes h
    · exact fun k hk => .inl (.tail _ hk)
    · simp
    · simp [missed]
  | loading keys slots resolved guards chunks joined =>
    obtain ⟨chunks', -, rfl⟩ | ⟨found, -, rfl, -, -⟩ := loading_goes h
    · simp [missed]
    · simp
  | joining keys slots resolved parts =>
    obtain ⟨parts', goes, rfl⟩ := joining_goes h
    obtain ⟨before, after, part, part', rfl, rfl, move⟩ |
      ⟨before, after, part, found, rfl, rfl, move⟩ := Process.all_goes goes
    · intro k hk
      simp only [missed, List.filterMap_append, List.filterMap_cons, Sum.getLeft?_inl,
        List.flatMap_append, List.flatMap_cons, List.mem_append] at hk ⊢
      obtain hk | hk | hk := hk
      · exact .inl (.inl hk)
      · exact .inr (Part.missed_goes move k hk)
      · exact .inl (.inr (.inr hk))
    · intro k hk
      simp only [missed, List.filterMap_append, List.filterMap_cons, Sum.getLeft?_inl,
        Sum.getLeft?_inr, List.flatMap_append, List.flatMap_cons, List.mem_append] at hk ⊢
      tauto

theorem Reader.missed_goes {reader reader' : Reader K V E L B}
    (h : (process loader).move now reader (s, w) = .goes reader' (s', w') events) :
    ∀ key ∈ reader'.missed, key ∈ reader.missed ∨ key ∉ s'.store.keys := by
  cases reader with
  | one read =>
    obtain ⟨read', w₁, moves, rfl, rfl⟩ := Process.lift_goes h
    exact fun key hk => .inr (Read.missed_goes moves key hk)
  | many read =>
    obtain ⟨read', w₁, moves, rfl, rfl⟩ := Process.lift_goes h
    exact ReadAll.missed_goes moves

theorem Stirs.store_cases {prompt : Prop} {running running' : Multiset K}
    {kept : List (K × Option V)} (h : Stirs prompt now s running kept s' running') :
    (kept = [] ∧ ∀ e ∈ s'.store.entries, e ∈ s.store.entries) ∨
      s'.store = s.store.stock now kept := by
  cases h with
  | looks new running fewer => exact .inl ⟨rfl, fewer⟩
  | lands kept gone running store => exact .inr store

def Turn.kept (loader : Loader (Event R) K V E σ L B) (t : Turn K V E σ L B) :
    List (K × Option V) :=
  (t.reader.deliveries loader t.now t.cache t.world).flatMap Delivery.kept

def Turn.writes (loader : Loader (Event R) K V E σ L B) (t : Turn K V E σ L B) :
    List (Write K V) :=
  t.cache.store.writes t.now (t.kept loader)

namespace Room

def writes (loader : Loader (Event R) K V E σ L B) (deeds : List (Deed K σ))
    (room : Room K V E σ L B) : List (Write K V) :=
  (turns loader deeds room).flatMap (Turn.writes loader)

def dropping (room : Room K V E σ L B) : Deed K σ → ℕ
  | .invalidate key => room.cache.store.keys.count key
  | .invalidateAll => room.cache.size
  | _ => 0

def dropped (loader : Loader (Event R) K V E σ L B) : List (Deed K σ) → Room K V E σ L B → ℕ
  | [], _ => 0
  | deed :: more, room =>
    room.dropping deed + (room.perform loader deed).elim 0 (dropped loader more)

variable {outside : σ → σ → Prop} {room room' : Room K V E σ L B} {deed : Deed K σ}
  {deeds : List (Deed K σ)} {c : Config} {world : σ} {start : ℕ}

omit [DecidableEq K] in
theorem loadKeys_at {before after : List (Visit K V E L B)} {v : Visit K V E L B}
    (here : room.visits = before ++ v :: after) :
    loadKeys (heldBy room.visits) =
      loadKeys v.reader.held + loadKeys (heldBy (before ++ after)) := by
  rw [here, heldBy_at, loadKeys_add]

theorem go_stirs (once : room.cache.store.keys.Nodup) {place : ℕ}
    (h : room.perform loader (.go place) = some room') :
    ∃ v ∈ room.visits, room.turn (.go place : Deed K σ) = [v.turn room] ∧
      room'.cache = (v.turn room).after loader ∧
      Stirs (∀ key ∈ v.reader.missed, room.cache.store.Current room.now key) room.now room.cache
        (loadKeys (heldBy room.visits)) ((v.turn room).kept loader) room'.cache
        (loadKeys (heldBy room'.visits)) := by
  obtain ⟨before, v, after, here, rfl, moved⟩ := go_cases h
  refine ⟨v, by simp [here], turn_go here, ?_⟩
  rw [loadKeys_at here]
  obtain ⟨reader, cache, world, events, moves, rfl⟩ | ⟨answers, cache, world, events, moves, rfl⟩ :=
    moved
  · rw [Turn.after_goes moves, heldBy_at, loadKeys_add]
    exact ⟨rfl, (Reader.stocks.goes once moves).beside _⟩
  · have stirs := (Reader.stocks.ends once moves).beside (loadKeys (heldBy (before ++ after)))
    rw [zero_add] at stirs
    rw [Turn.after_ends moves]
    exact ⟨rfl, stirs⟩

/-- Nothing is stored that is too old for a key that is still to be claimed. -/
def Timely (room : Room K V E σ L B) : Prop :=
  ∀ v ∈ room.visits, ∀ key ∈ v.reader.missed, room.cache.store.Current room.now key

def late (room : Room K V E σ L B) : Deed K σ → List K
  | .wait _ => room.visits.flatMap (·.reader.missed)
  | _ => []

/-- The keys of which time has gone on in a run between the look and the claim. -/
def overdue (loader : Loader (Event R) K V E σ L B) : List (Deed K σ) → Room K V E σ L B → List K
  | [], _ => []
  | deed :: more, room =>
    room.late deed ++ (room.perform loader deed).elim [] (overdue loader more)

theorem Timely.step (timely : room.Timely) (sound : room.Sound)
    (s : Step loader outside room room') (same : room'.now = room.now) : room'.Timely := by
  have kept {key : K} (current : room.cache.store.Current room.now key) :
      room'.cache.store.Current room.now key :=
    s.store_kept (S := fun t => t.Current room.now key) (fun _ op h => h.serve op) sound current
  intro u hu key hk
  rw [same]
  obtain hu | ⟨-, inquiry, start⟩ | ⟨v, hv, -, events, moves⟩ := s.visits_cases u hu
  · exact kept (timely u hu key hk)
  · rw [start, inquiry.missed_start] at hk
    cases hk
  · obtain hk | absent := Reader.missed_goes moves key hk
    · exact kept (timely v hv key hk)
    · exact Store.current_of_absent absent

theorem Timely.perform (timely : room.Timely) (sound : room.Sound)
    (h : room.perform loader deed = some room') (prompt : room.late deed = []) :
    room'.Timely := by
  by_cases waits : ∃ later, deed = .wait later
  · obtain ⟨later, rfl⟩ := waits
    obtain rfl := wait_eq h
    intro v hv key hk
    rw [List.flatMap_eq_nil_iff.mp prompt v hv] at hk
    cases hk
  · simp only [not_exists] at waits
    have step : Step loader (fun _ _ => True) room room' := step_of_perform (fun _ _ => trivial) h
    exact timely.step sound step (now_eq h waits)

structure Stocked (room : Room K V E σ L B) : Prop where
  space : 0 < room.cache.store.capacity
  bounded : room.cache.store.size ≤ room.cache.store.capacity
  once : room.cache.store.keys.Nodup
  alone : (loadKeys (heldBy room.visits)).Nodup
  absent : ∀ key ∈ loadKeys (heldBy room.visits), key ∉ room.cache.store.keys

theorem Stocked.perform (stocked : room.Stocked) (h : room.perform loader deed = some room') :
    (∀ w ∈ (room.turn deed).flatMap (Turn.writes loader), w.New) ∧
      (room.Timely → room'.cache.size + room'.cache.stats.evictions +
          room'.cache.stats.expirations + room.dropping deed =
        room.cache.size + room.cache.stats.evictions + room.cache.stats.expirations +
          ((room.turn deed).flatMap (Turn.writes loader)).length) ∧
      ∀ key ∈ loadKeys (heldBy room'.visits), key ∉ room'.cache.store.keys := by
  cases deed with
  | go place =>
    obtain ⟨v, hv, turn, -, stirs⟩ := go_stirs stocked.once h
    obtain ⟨news, counted, absent⟩ :=
      stirs.accounts stocked.space stocked.bounded stocked.alone stocked.absent
    rw [turn, List.flatMap_singleton]
    exact ⟨news, fun timely => counted (timely v hv), absent⟩
  | leave place =>
    obtain ⟨before, v, after, here, rfl⟩ := leave_cases h
    obtain ⟨store, stats⟩ := v.reader.leaves_alone loader (room.cache, room.world)
    refine ⟨by simp [turn], fun _ => ?_, fun key hk => ?_⟩
    · simp only [State.size, store, stats]
      rfl
    · rw [store]
      refine stocked.absent key ?_
      rw [loadKeys_at here]
      exact Multiset.mem_add.mpr (.inr hk)
  | invalidate key =>
    cases h
    refine ⟨by simp [turn], fun _ => ?_, fun k hk hm => ?_⟩
    · have removed := room.cache.store.size_remove key
      simp only [invalidate, State.invalidate, State.size, dropping, turn, List.flatMap_nil,
        List.length_nil]
      omega
    · obtain ⟨e, he, rfl⟩ := Store.mem_keys.mp hm
      exact stocked.absent _ hk (Store.mem_keys.mpr ⟨e, (Store.mem_remove.mp he).1, rfl⟩)
  | invalidateAll =>
    cases h
    refine ⟨by simp [turn], fun _ => ?_, fun k hk hm => by cases hm⟩
    simp only [invalidateAll, State.invalidateAll, State.size, dropping, turn, List.flatMap_nil,
      List.length_nil, Store.clear, Store.size]
    omega
  | wait later =>
    obtain rfl := wait_eq h
    exact ⟨by simp [turn], fun _ => rfl, stocked.absent⟩
  | arrive inquiry =>
    cases h
    have arrived := loadKeys_at (rfl : (room.arrive inquiry).visits = room.visits ++ _ :: [])
    rw [held_start, List.append_nil, loadKeys_zero, zero_add] at arrived
    exact ⟨by simp [turn], fun _ => rfl, arrived ▸ stocked.absent⟩
  | change world => cases h; exact ⟨by simp [turn], fun _ => rfl, stocked.absent⟩

theorem Stocked.of_reach (valid : c.validate = .ok ())
    (h : Reach loader outside (opening c world start) room)
    (absent : ∀ key ∈ loadKeys (heldBy room.visits), key ∉ room.cache.store.keys) :
    room.Stocked := by
  have size : c.maxSize ≠ 0 := by
    intro zero
    rw [Config.validate, if_pos zero] at valid
    cases valid
  obtain ⟨capacity, past, kept⟩ : room.cache.store.capacity = c.maxSize ∧
      ∃ past, room.cache.store.Kept past := by
    refine store_of_reach (S := fun s => s.capacity = c.maxSize ∧ ∃ past, s.Kept past) ?_ h
      ⟨rfl, [], .empty _ _⟩
    rintro s now op ⟨capacity, past, kept⟩
    exact ⟨(s.serve_settings now op).1.trans capacity, _, kept.serve (by omega) now op⟩
  have order : Orderly room.desk (heldBy room.visits) :=
    ((sound_opening c world start).reach h).orderly
  exact
    { space := by omega
      bounded := kept.bounded
      once := kept.nodup
      alone := Multiset.nodup_of_le (Multiset.map_le_map order.covered) order.guardKeys_nodup
      absent := absent }

theorem accounts_of_play (valid : c.validate = .ok ())
    (reach : Reach loader (fun _ _ => True) (opening c world start) room)
    (absent : ∀ key ∈ loadKeys (heldBy room.visits), key ∉ room.cache.store.keys)
    (run : play loader deeds room = some room') :
    (∀ w ∈ writes loader deeds room, w.New) ∧
      (room.Timely → overdue loader deeds room = [] →
        room'.cache.size + room'.cache.stats.evictions + room'.cache.stats.expirations +
            dropped loader deeds room =
          room.cache.size + room.cache.stats.evictions + room.cache.stats.expirations +
            (writes loader deeds room).length) := by
  induction deeds generalizing room with
  | nil =>
    cases run
    exact ⟨by simp [writes, turns], fun _ _ => rfl⟩
  | cons deed more ih =>
    obtain ⟨next, hp, hm⟩ := Option.bind_eq_some_iff.mp run
    have step : Step loader (fun _ _ => True) room next := step_of_perform (fun _ _ => trivial) hp
    -- That no key is stored while it is being loaded is the invariant; the rest is known anyway.
    obtain ⟨news, counted, absent'⟩ := (Stocked.of_reach valid reach absent).perform hp
    obtain ⟨news', counted'⟩ := ih (reach.tail step) absent' hm
    rw [writes] at news' counted'
    rw [writes, turns_cons hp, List.flatMap_append, List.length_append, dropped, overdue, hp,
      Option.elim_some, Option.elim_some]
    refine ⟨fun w hw => (List.mem_append.mp hw).elim (news w) (news' w), fun timely prompt => ?_⟩
    obtain ⟨now_, later⟩ := List.append_eq_nil_iff.mp prompt
    have sound : room.Sound := (sound_opening c world start).reach reach
    have := counted timely
    have := counted' (timely.perform sound hp now_) later
    omega

theorem turns_of_play {P : Turn K V E σ L B → Prop}
    (reach : Reach loader (fun _ _ => True) (opening c world start) room)
    (taken : ∀ a b place t, Reach loader (fun _ _ => True) (opening c world start) a →
      a.perform loader (.go place) = some b → a.turn (.go place : Deed K σ) = [t] → P t)
    (run : play loader deeds room = some room') : ∀ t ∈ turns loader deeds room, P t := by
  induction deeds generalizing room with
  | nil => simp [turns]
  | cons deed more ih =>
    obtain ⟨next, hp, hm⟩ := Option.bind_eq_some_iff.mp run
    have step : Step loader (fun _ _ => True) room next := step_of_perform (fun _ _ => trivial) hp
    rw [turns_cons hp]
    refine fun t ht => (List.mem_append.mp ht).elim (fun ht => ?_) (ih (reach.tail step) hm t)
    cases deed with
    | go place =>
      obtain ⟨before, v, after, here, rfl, -⟩ := go_cases hp
      rw [turn_go here, List.mem_singleton] at ht
      exact taken _ _ _ _ reach hp (ht ▸ turn_go here)
    | _ => cases ht

/-- No entry disappears unaccounted for, in any run with reads that are given up. Every answer that
is stored is stored as a new entry, since its key is not there. In each turn the store only loses
entries, or has what the calls of the turn have returned put in. And if every key that a look has
missed is claimed before time goes on, as many answers as have been stored are there, have given
way, have been found too old, or have been dropped. -/
theorem entries_accounted (valid : c.validate = .ok ())
    (run : play loader deeds (opening c world start) = some room) :
    (overdue loader deeds (opening c world start) = [] →
      (writes loader deeds (opening c world start)).countP (·.New) =
        room.cache.size + room.cache.stats.evictions + room.cache.stats.expirations +
          dropped loader deeds (opening c world start)) ∧
      (∀ w ∈ writes loader deeds (opening c world start), w.key ∉ w.store.keys) ∧
      ∀ t ∈ turns loader deeds (opening c world start),
        (t.kept loader = [] ∧
            ∀ e ∈ (t.after loader).store.entries, e ∈ t.cache.store.entries) ∨
          (t.after loader).store = t.cache.store.stock t.now (t.kept loader) := by
  have idle : loadKeys (heldBy (opening c world start : Room K V E σ L B).visits) = 0 := by
    simp [opening, heldBy, loadKeys_zero]
  obtain ⟨news, counted⟩ := accounts_of_play valid .refl (by simp [idle]) run
  refine ⟨fun prompt => ?_, news, turns_of_play .refl (fun a b place t reach went turn => ?_) run⟩
  · have timely : (opening c world start : Room K V E σ L B).Timely := by simp [Timely, opening]
    have counted := counted timely prompt
    rw [List.countP_eq_length.mpr (by simpa using news)]
    have empty : (opening c world start : Room K V E σ L B).cache.size +
        (opening c world start : Room K V E σ L B).cache.stats.evictions +
        (opening c world start : Room K V E σ L B).cache.stats.expirations = 0 := rfl
    omega
  · obtain ⟨v, -, same, after_, stirs⟩ := go_stirs (once_of_reach reach) went
    rw [turn] at same
    cases same
    rw [← after_]
    exact stirs.store_cases

/-- Three keys are read where there is room for two; later a load is given up, one of the keys is
found too old and loaded anew, and another one is dropped. -/
def crowdedDay : List (Deed ℕ (List (ℕ × ℕ))) :=
  .arrive (.many [1, 2, 3]) :: List.replicate 11 (.go 0) ++
    [.wait 6, .arrive (.one 4), .go 0, .go 0, .arrive (.one 3), .go 1, .go 1, .leave 0, .go 0,
      .invalidate 2]

theorem entries_accounted_crowdedDay :
    ∃ c board room, c.validate = .ok () ∧
      play (Loader.board 3) crowdedDay (opening c board 0) = some room ∧
      overdue (Loader.board 3) crowdedDay (opening c board 0) = [] ∧
      room.cache.size = 1 ∧ room.cache.stats.evictions = 1 ∧ room.cache.stats.expirations = 1 ∧
      dropped (Loader.board 3) crowdedDay (opening c board 0) = 1 ∧
      (writes (Loader.board 3) crowdedDay (opening c board 0)).countP (·.New) = 4 := by
  have run : play (Loader.board 3) crowdedDay
      (opening { ttl := 5, maxSize := 2 } [(1, 10), (2, 20), (3, 30)] 0) = some _ := rfl
  have prompt : overdue (Loader.board 3) crowdedDay
      (opening { ttl := 5, maxSize := 2 } [(1, 10), (2, 20), (3, 30)] 0) = [] := rfl
  obtain ⟨accounted, -, -⟩ := entries_accounted rfl run
  exact ⟨_, _, _, rfl, run, prompt, rfl, rfl, rfl, rfl, accounted prompt⟩

end Room

end

end PacedCalls.Cache
