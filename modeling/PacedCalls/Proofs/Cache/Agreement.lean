import Mathlib.Data.Finset.Card
import Mathlib.Data.List.Perm.Basic
import PacedCalls.Proofs.Cache.Inventory

/-!
Reads of many keys beside reads of one key after another. With a loader that answers at once from a
table, both tell of a key what is stored, if that is not too old, and else what the table says; and
both leave what is stored and not too old, and put in the rest. So they agree, as long as nothing
has to give way and nobody else is loading. A loader without a batch call of its own is such a
loader if its loads are.
-/

set_option autoImplicit false

namespace PacedCalls.Cache

section

variable {ν K V E σ L B : Type} [BEq K]

/-- A loader that answers at once from a table, in every world of those it works in. A batch says of
its keys what single loads say. -/
structure Loader.Tabled (loader : Loader ν K V E σ L B) (now : ℕ) (fixed : σ → Prop)
    (table : K → Option V) : Prop where
  load : ∀ key w, fixed w → ∃ w',
    loader.load.Runs now (loader.begin key) w (.ofOption (table key)) w' ∧ fixed w'
  loadBatch : ∀ keys w, fixed w → ∃ found w',
    loader.loadBatch.Runs now (loader.beginBatch keys) w (.ok found) w' ∧ fixed w' ∧
      ∀ key ∈ keys, found.lookup key = table key

end

section

variable {ν K V E σ L : Type} [DecidableEq K] {now : ℕ} {load : Process ν σ L (Lookup V E)}
  {begin : K → L} {fixed : σ → Prop} {table : K → Option V}

theorem lookup_putFound (key k : K) (value : V) (found : List (K × V)) :
    (putFound key value found).lookup k = if k = key then some value else found.lookup k := by
  induction found with
  | nil => exact Assoc.lookup_cons_eq k key value []
  | cons p rest ih =>
    obtain ⟨k', v⟩ := p
    rw [putFound]
    split_ifs with here asked asked
    · rw [Assoc.lookup_cons_eq, if_pos asked]
    · rw [Assoc.lookup_cons_eq, Assoc.lookup_cons_eq, if_neg asked, here, if_neg asked]
    · rw [Assoc.lookup_cons_eq, ih, if_pos asked, if_neg (asked.trans_ne (Ne.symm here))]
    · rw [Assoc.lookup_cons_eq, Assoc.lookup_cons_eq, ih, if_neg asked]

theorem Sequence.runs_current {key : K} {l : L} {upcoming : List K} {found : List (K × V)}
    {value : Option V} {answer : Lookup V E} {result : Except E (List (K × V))} {w w₁ w' : σ}
    (run : load.Runs now l w answer w₁) (told : answer = .ofOption value)
    (more : (process load begin).Runs now
      (next begin (value.elim found (putFound key · found)) upcoming) w₁ result w') :
    (process load begin).Runs now { current := some (key, l), upcoming := upcoming, found := found }
      w result w' := by
  induction run with
  | ends h =>
    subst told
    cases value <;> exact .goes (by simp only [process, h]; rfl) more
  | goes h _ ih => exact .goes (by simp only [process, h]; rfl) (ih told more)

theorem Sequence.runs_process (answers : ∀ key w, fixed w → ∃ w',
      load.Runs now (begin key) w (.ofOption (table key)) w' ∧ fixed w')
    (keys : List K) (found : List (K × V)) {w : σ} (here : fixed w) :
    ∃ found' w', (process load begin).Runs now (next begin found keys) w (.ok found') w' ∧
      fixed w' ∧ ∀ key, found'.lookup key =
        if key ∈ keys then (table key).or (found.lookup key) else found.lookup key := by
  induction keys generalizing found w with
  | nil => exact ⟨found, w, .ends rfl, here, fun key => by simp⟩
  | cons key rest ih =>
    obtain ⟨w₁, run, here₁⟩ := answers key w here
    obtain ⟨found', w', more, here', agrees⟩ :=
      ih ((table key).elim found (putFound key · found)) here₁
    refine ⟨found', w', runs_current run rfl more, here', fun k => ?_⟩
    have put : ((table key).elim found (putFound key · found)).lookup k =
        if k = key then (table key).or (found.lookup k) else found.lookup k := by
      cases table key with
      | none => simp
      | some value => simpa using lookup_putFound key k value found
    rw [agrees, put]
    by_cases same : k = key
    · subst same
      cases table k <;> simp
    · simp [same]

theorem Loader.tabled_ofLoad (answers : ∀ key w, fixed w → ∃ w',
      load.Runs now (begin key) w (.ofOption (table key)) w' ∧ fixed w') (maxBatch : ℕ) :
    Loader.Tabled { Loader.ofLoad load begin with maxBatch := maxBatch } now fixed table where
  load := answers
  loadBatch keys w here := by
    obtain ⟨found, w', run, here', agrees⟩ := Sequence.runs_process answers keys [] here
    refine ⟨found, w', run, here', fun key hk => ?_⟩
    rw [agrees, if_pos hk, List.lookup_nil, Option.or_none]

/-- A loader that looks a key up in a register, for what is not there as for what is. -/
def Loader.register (maxBatch : ℕ) :
    Loader (Event ℕ) ℕ ℕ Unit (List (ℕ × ℕ)) ℕ (Sequence ℕ ℕ ℕ) :=
  { Loader.ofLoad
      { move := fun _ key register => .ends (.ofOption (register.lookup key)) register [] } id with
    maxBatch := maxBatch }

theorem Loader.register_tabled (register : List (ℕ × ℕ)) (maxBatch now : ℕ) :
    (Loader.register maxBatch).Tabled now (· = register) fun key => register.lookup key :=
  tabled_ofLoad (fun key w same => by subst same; exact ⟨w, .ends rfl, rfl⟩) maxBatch

end

section

variable {K V E : Type} [DecidableEq K]

namespace Store

variable {s : Store K V} {all : Finset K} {key : K}

structure Within (s : Store K V) (all : Finset K) : Prop where
  once : s.keys.Nodup
  stored : ∀ key ∈ s.keys, key ∈ all
  room : all.card ≤ s.capacity

theorem Within.insert_eq (h : s.Within all) (come : key ∈ all) (absent : key ∉ s.keys)
    (value : Option V) (now : ℕ) :
    s.insert key value now = (false, { s with entries := ⟨key, value, now⟩ :: s.entries }) := by
  -- What is stored is among all keys but this one, so there is room for one more.
  have others : s.keys.toFinset ⊆ all.erase key := by
    intro k hk
    have hk : k ∈ s.keys := List.mem_toFinset.mp hk
    exact Finset.mem_erase.mpr ⟨fun same => absent (same ▸ hk), h.stored k hk⟩
  have size := Finset.card_le_card others
  rw [List.toFinset_card_of_nodup h.once, Finset.card_erase_of_mem come, keys, List.length_map]
    at size
  have some_ : 0 < all.card := Finset.card_pos.mpr ⟨key, come⟩
  have lt : s.entries.length < s.capacity := by
    have := h.room
    omega
  rw [Store.insert, find?_eq_none.mpr absent]
  simp only [lt, if_true]

theorem Within.stock (h : s.Within all) {kept : List (K × Option V)} (come : ∀ p ∈ kept, p.1 ∈ all)
    (once : (kept.map (·.1)).Nodup) (absent : ∀ p ∈ kept, p.1 ∉ s.keys) (now : ℕ) :
    (s.stock now kept).Within all ∧ (s.stock now kept).capacity = s.capacity ∧
      (s.stock now kept).ttl = s.ttl ∧
      ∀ e, e ∈ (s.stock now kept).entries ↔
        e ∈ s.entries ∨ ∃ p ∈ kept, e = ⟨p.1, p.2, now⟩ := by
  induction kept generalizing s with
  | nil => exact ⟨h, rfl, rfl, fun e => by simp [Store.stock]⟩
  | cons p rest ih =>
    obtain ⟨key, value⟩ := p
    obtain ⟨fresh, once⟩ := List.nodup_cons.mp once
    obtain ⟨mine, come⟩ := List.forall_mem_cons.mp come
    obtain ⟨new, absent⟩ := List.forall_mem_cons.mp absent
    have within : ({ s with entries := ⟨key, value, now⟩ :: s.entries } : Store K V).Within all :=
      { once := List.nodup_cons.mpr ⟨new, h.once⟩
        stored := List.forall_mem_cons.mpr ⟨mine, h.stored⟩
        room := h.room }
    obtain ⟨within, capacity, ttl, entries⟩ := ih within come once fun p hp hm => by
      rcases List.mem_cons.mp hm with same | hm
      · exact fresh (same ▸ List.mem_map_of_mem hp)
      · exact absent p hp hm
    rw [Store.stock, h.insert_eq mine new]
    refine ⟨within, capacity, ttl, fun e => ?_⟩
    rw [entries, List.mem_cons, List.exists_mem_cons_iff]
    tauto

end Store

namespace State

variable {s s' s'' : State K V E} {table : K → Option V} {now : ℕ} {keys more : List K}
  {all : Finset K} {key : K}

def tell (s : State K V E) (table : K → Option V) (now : ℕ) (key : K) : Lookup V E :=
  (s.peek now key).getD (.ofOption (table key))

theorem tell_of_stale (once : s.store.keys.Nodup) (stale : s.Stale key now)
    (table : K → Option V) : s.tell table now key = .ofOption (table key) := by
  rw [tell, (peek_eq_none once now key).mpr stale, Option.getD_none]

theorem tell_of_live (once : s.store.keys.Nodup) {e : Entry K V} (he : e ∈ s.store.entries)
    (live : now ≤ e.since + s.store.ttl) (table : K → Option V) :
    s.tell table now e.key = .ofOption e.value := by
  obtain ⟨x, hx, same, -, eq⟩ | ⟨absent, -⟩ | ⟨x, hx, same, old, -⟩ := s.readStore_cases e.key now
  · rw [tell, peek, eq, Store.eq_of_key once hx he same, Option.getD_some]
  · exact absurd (Store.mem_keys.mpr ⟨e, he, rfl⟩) absent
  · rw [Store.eq_of_key once hx he same] at old
    omega

omit [DecidableEq K] in
theorem exists_of_not_stale (h : ¬ s.Stale key now) :
    ∃ e ∈ s.store.entries, e.key = key ∧ now ≤ e.since + s.store.ttl := by
  simp only [Stale, not_forall, not_lt] at h
  obtain ⟨e, he, same, live⟩ := h
  exact ⟨e, he, same, live⟩

/-- For some keys, what was too old has given way to what the table says, and what was missing has
been added; everything else is as it was. -/
structure Refreshed (table : K → Option V) (now : ℕ) (keys : List K) (s s' : State K V E) :
    Prop where
  once : s'.store.keys.Nodup
  capacity : s'.store.capacity = s.store.capacity
  ttl : s'.store.ttl = s.store.ttl
  entries : ∀ e, e ∈ s'.store.entries ↔
    (e ∈ s.store.entries ∧ (e.key ∈ keys → now ≤ e.since + s.store.ttl)) ∨
      e.key ∈ keys ∧ s.Stale e.key now ∧ e = ⟨e.key, table e.key, now⟩

omit [DecidableEq K] in
theorem refreshed_nil (once : s.store.keys.Nodup) (table : K → Option V) (now : ℕ) :
    s.Refreshed table now [] s :=
  ⟨once, rfl, rfl, fun e => by simp⟩

theorem refreshed_of_stock {s₁ : State K V E} (within : s.store.Within all)
    (come : ∀ key ∈ keys, key ∈ all) (skimmed : s.Skimmed now keys s₁)
    (store : s'.store =
      s₁.store.stock now ((ReadAll.wanted s now keys).map fun key => (key, table key))) :
    s.Refreshed table now keys s' := by
  have within₁ : s₁.store.Within all :=
    { once := skimmed.once
      stored := fun key hk => by
        obtain ⟨e, he, rfl⟩ := Store.mem_keys.mp hk
        exact within.stored _ (Store.mem_keys.mpr ⟨e, ((skimmed.entries e).mp he).1, rfl⟩)
      room := skimmed.capacity ▸ within.room }
  have asked (p) (hp : p ∈ (ReadAll.wanted s now keys).map fun key => (key, table key)) :
      p.1 ∈ keys ∧ s.Stale p.1 now ∧ p.2 = table p.1 := by
    obtain ⟨key, hk, rfl⟩ := List.mem_map.mp hp
    obtain ⟨hk, stale⟩ := ReadAll.mem_wanted.mp hk
    exact ⟨hk, stale, rfl⟩
  obtain ⟨stocked, capacity, ttl, entries⟩ := within₁.stock (fun p hp => come _ (asked p hp).1)
    (by simpa [Function.comp_def] using ReadAll.nodup_wanted s now keys)
    (fun p hp => skimmed.absent (asked p hp).1 (asked p hp).2.1) now
  rw [← store] at stocked capacity ttl entries
  refine ⟨stocked.once, capacity.trans skimmed.capacity, ttl.trans skimmed.ttl, fun e => ?_⟩
  rw [entries, skimmed.entries]
  refine or_congr_right ⟨?_, ?_⟩
  · rintro ⟨p, hp, rfl⟩
    obtain ⟨hk, stale, value⟩ := asked p hp
    exact ⟨hk, stale, by rw [value]⟩
  · rintro ⟨hk, stale, new⟩
    have wanted : e.key ∈ ReadAll.wanted s now keys := ReadAll.mem_wanted.mpr ⟨hk, stale⟩
    exact ⟨_, List.mem_map_of_mem wanted, new⟩

namespace Refreshed

omit [DecidableEq K] in
theorem within (h : s.Refreshed table now keys s') (within : s.store.Within all)
    (come : ∀ key ∈ keys, key ∈ all) : s'.store.Within all where
  once := h.once
  stored key hk := by
    obtain ⟨e, he, rfl⟩ := Store.mem_keys.mp hk
    rcases (h.entries e).mp he with ⟨he, -⟩ | ⟨hk, -⟩
    · exact within.stored _ (Store.mem_keys.mpr ⟨e, he, rfl⟩)
    · exact come _ hk
  room := h.capacity ▸ within.room

omit [DecidableEq K] in
theorem stale_iff (h : s.Refreshed table now keys s') (key : K) :
    s'.Stale key now ↔ s.Stale key now ∧ key ∉ keys := by
  constructor
  · intro stale
    have old : s.Stale key now := by
      intro e he hk
      by_contra live
      have stays : e ∈ s'.store.entries := (h.entries e).mpr (.inl ⟨he, fun _ => by omega⟩)
      have := stale e stays hk
      rw [h.ttl] at this
      omega
    refine ⟨old, fun hk => ?_⟩
    have new : (⟨key, table key, now⟩ : Entry K V) ∈ s'.store.entries :=
      (h.entries _).mpr (.inr ⟨hk, old, rfl⟩)
    have : now + s'.store.ttl < now := stale _ new rfl
    omega
  · rintro ⟨stale, no⟩ e he rfl
    rcases (h.entries e).mp he with ⟨he, -⟩ | ⟨hk, -⟩
    · rw [h.ttl]
      exact stale e he rfl
    · exact absurd hk no

theorem trans (h : s.Refreshed table now keys s') (h' : s'.Refreshed table now more s'') :
    s.Refreshed table now (keys ++ more) s'' where
  once := h'.once
  capacity := h'.capacity.trans h.capacity
  ttl := h'.ttl.trans h.ttl
  entries e := by
    have young : e = ⟨e.key, table e.key, now⟩ → now ≤ e.since + s.store.ttl := by
      intro new
      rw [new]
      exact Nat.le_add_right ..
    rw [h'.entries, h.entries, h.stale_iff, h.ttl, List.mem_append]
    by_cases first : e.key ∈ keys
    · -- It is up to date from then on, so that nothing comes of it any more.
      simp only [first, true_or, true_imp_iff, not_true_eq_false, and_false, false_and, or_false,
        true_and]
      constructor
      · rintro ⟨⟨here, live⟩ | ⟨stale, new⟩, -⟩
        · exact .inl ⟨here, live⟩
        · exact .inr ⟨stale, new⟩
      · rintro (⟨here, live⟩ | ⟨stale, new⟩)
        · exact ⟨.inl ⟨here, live⟩, fun _ => live⟩
        · exact ⟨.inr ⟨stale, new⟩, fun _ => young new⟩
    · simp only [first, false_or, false_imp_iff, not_false_eq_true, and_true, false_and, or_false]

omit [DecidableEq K] in
theorem perm (h : s.Refreshed table now keys s') (h' : s.Refreshed table now keys s'') :
    s'.store.entries.Perm s''.store.entries := by
  refine (List.perm_ext_iff_of_nodup (.of_map _ h.once) (.of_map _ h'.once)).mpr fun e => ?_
  rw [h.entries, h'.entries]

theorem tell_eq (h : s.Refreshed table now keys s') (once : s.store.keys.Nodup) :
    s'.tell table now = s.tell table now := by
  funext key
  by_cases stale : s.Stale key now
  · rw [tell_of_stale once stale]
    by_cases hk : key ∈ keys
    · have new : (⟨key, table key, now⟩ : Entry K V) ∈ s'.store.entries :=
        (h.entries _).mpr (.inr ⟨hk, stale, rfl⟩)
      exact tell_of_live h.once new (Nat.le_add_right ..) table
    · exact tell_of_stale h.once ((h.stale_iff key).mpr ⟨stale, hk⟩) table
  · obtain ⟨e, he, rfl, live⟩ := exists_of_not_stale stale
    have stays : e ∈ s'.store.entries := (h.entries e).mpr (.inl ⟨he, fun _ => live⟩)
    rw [tell_of_live once he live, tell_of_live h.once stays (h.ttl ▸ live)]

end Refreshed

end State

end

section

variable {R K V E σ L B : Type} [DecidableEq K] {loader : Loader (Event R) K V E σ L B} {now : ℕ}
  {s s' : State K V E} {w w' : σ} {fixed : σ → Prop} {table : K → Option V} {all : Finset K}

theorem Read.runs_loading {g : Guard K} {l : L} {answer : Lookup V E}
    (h : loader.load.Runs now l w answer w') (s : State K V E) :
    (process loader).Runs now (.loading g l) (s, w) answer (s.settle g answer now, w') := by
  induction h with
  | ends h => exact .ends (by simp only [process, h]; rfl)
  | goes h _ ih => exact .goes (by simp only [process, h]; rfl) ih

theorem Chunk.runs_loading {b : B} {found : List (K × V)} {result : Except E (List (K × V))}
    (h : loader.loadBatch.Runs now b w result w') (ok : result = .ok found)
    (guards : List (Guard K)) (s : State K V E) :
    (process loader).Runs now { guards := guards, state := b } (s, w)
      (s.settleChunk now (.ok found) guards).1 ((s.settleChunk now (.ok found) guards).2, w') := by
  induction h with
  | ends h =>
    subst ok
    exact .ends (by simp only [process, h]; rfl)
  | goes h _ ih => exact .goes (by simp only [process, h]; rfl) (ih ok)

theorem State.settle_underWay (s : State K V E) (g : Guard K) (answer : Lookup V E) (now : ℕ) :
    (s.settle g answer now).underWay = s.underWay.filter (· ≠ (g.key, g.flight)) := by
  simp only [settle, retire_underWay, publish]
  cases answer.settled? with
  | some value => rw [insert_underWay]
  | none => rfl

theorem Read.runs_tabled (tabled : loader.Tabled now fixed table) (here : fixed w)
    (once : s.store.keys.Nodup) (idle : s.underWay = []) (key : K) :
    ∃ s' w', (process loader).Runs now (.start key) (s, w) (s.tell table now key) (s', w') ∧
      fixed w' ∧ s'.underWay = [] ∧ ∃ s₁, s.Skimmed now [key] s₁ ∧ s'.store =
        s₁.store.stock now ((ReadAll.wanted s now [key]).map fun key => (key, table key)) := by
  have skimmed := State.readStore_skimmed once key now
  have stale_iff := State.peek_eq_none once now key
  rcases hr : s.readStore key now with ⟨slot, s₁⟩
  rw [hr] at skimmed
  have idle₁ : s₁.underWay = [] := skimmed.underWay.trans idle
  have look : s.peek now key = slot := by rw [State.peek, hr]
  cases slot with
  | some hit =>
    have live : ¬ s.Stale key now := by simp [← stale_iff, look]
    have told : s.tell table now key = hit := by rw [State.tell, look, Option.getD_some]
    have none_ : ReadAll.wanted s now [key] = [] := by simp [ReadAll.wanted, live]
    have ends : (process loader).move now (.start key) (s, w) = .ends hit (s₁, w) [] := by
      simp only [start, process, hr]
    rw [told, none_]
    exact ⟨s₁, w, .ends ends, here, idle₁, s₁, skimmed, rfl⟩
  | none =>
    have stale : s.Stale key now := stale_iff.mp look
    have one : ReadAll.wanted s now [key] = [key] := by
      simp [ReadAll.wanted, stale, List.eraseDups_cons]
    -- The look drops what is too old, so the claim finds nothing either.
    have claim : s₁.claim key now = (.owner ⟨key, s₁.flights.size⟩, s₁.launch key) := by
      rw [State.claim_of_absent (skimmed.absent List.mem_cons_self stale), idle₁]
      rfl
    have looks : (process loader).move now (.start key) (s, w) =
        .goes (.claiming key false) (s₁, w) [] := by
      simp only [start, process, hr]
    have claims : (process loader).move now (.claiming key false) (s₁, w) =
        .goes (.loading ⟨key, s₁.flights.size⟩ (loader.begin key))
          ((s₁.launch key).countMiss.countLoads 1, w) [] := by
      simp only [process, Read.claim, claim]
      rfl
    obtain ⟨w', run, here'⟩ := tabled.load key w here
    rw [State.tell_of_stale once stale, one]
    refine ⟨_, w', .goes looks (.goes claims (runs_loading run _)), here', ?_, s₁, skimmed, ?_⟩
    · rw [State.settle_underWay]
      simp [State.countLoads, State.countMiss, State.count, State.launch, idle₁]
    · rw [(State.settle_stock _ _ _ now).1, Lookup.settled?_ofOption]
      rfl

theorem Chunk.runs_each (tabled : loader.Tabled now fixed table) (pieces : List (List (Guard K)))
    (here : fixed w) (s : State K V E) :
    ∃ answers s' w', (process loader).RunsEach now (pieces.map fun guards =>
        { guards := guards, state := loader.beginBatch (guards.map (·.key)) }) (s, w) answers
        (s', w') ∧
      fixed w' ∧
      answers.flatten = (pieces.flatten.map fun g => (g.key, .ofOption (table g.key))) ∧
      s'.store = s.store.stock now (pieces.flatten.map fun g => (g.key, table g.key)) := by
  induction pieces generalizing s w with
  | nil => exact ⟨[], s, w, .nil _, here, rfl, rfl⟩
  | cons guards rest ih =>
    obtain ⟨found, w₁, run, here₁, agrees⟩ := tabled.loadBatch (guards.map (·.key)) w here
    have agrees (g : Guard K) (hg : g ∈ guards) : found.lookup g.key = table g.key :=
      agrees g.key (List.mem_map_of_mem hg)
    have first := runs_loading run rfl guards s
    obtain ⟨answers, s', w', more, here', told, store⟩ :=
      ih here₁ (s.settleChunk now (.ok found) guards).2
    refine ⟨_, s', w', .cons first more, here', ?_, ?_⟩
    · rw [List.flatten_cons, List.flatten_cons, List.map_append, told, State.settleChunk_answers]
      congr 1
      exact List.map_congr_left fun g hg => by rw [batchAnswer, agrees g hg]
    · have stocked := (s.settleChunk_stock now found guards).1
      have same : (guards.map fun g => (g.key, found.lookup g.key)) =
          guards.map fun g => (g.key, table g.key) :=
        List.map_congr_left fun g hg => by rw [agrees g hg]
      rw [store, stocked, same, List.flatten_cons, List.map_append, Store.stock_append]

namespace ReadAll

variable {keys : List K} {slots : List (Option (Lookup V E))} {resolved : List (K × Lookup V E)}

theorem runs_join (keys : List K) (slots : List (Option (Lookup V E)))
    (resolved : List (K × Lookup V E)) (x : State K V E × σ) :
    (process loader).Runs now (join keys slots resolved []) x (assemble keys slots resolved) x := by
  have ends : (process loader).move now (join keys slots resolved []) x =
      .ends (assemble keys slots (resolved ++ [])) x [] := rfl
  rw [List.append_nil] at ends
  exact .ends ends

theorem runs_loading {guards : List (Guard K)} {chunks : List (Chunk K B ⊕ List (K × Lookup V E))}
    {answers : List (List (K × Lookup V E))} {x y : State K V E × σ}
    (h : (Chunk.process loader).all.Runs now chunks x answers y) :
    (process loader).Runs now (.loading keys slots resolved guards chunks []) x
      (assemble keys slots (resolved ++ answers.flatten)) (y.1.retireAll guards, y.2) := by
  induction h with
  | ends h => exact .goes (by simp only [process, h]; rfl) (runs_join ..)
  | goes h _ ih => exact .goes (by simp only [process, h]; rfl) ih

theorem assemble_tell (table : K → Option V) (once : s.store.keys.Nodup)
    (found : ∀ key ∈ wanted s now keys, resolved.lookup key = some (.ofOption (table key))) :
    assemble keys (keys.map (s.peek now)) resolved = keys.map (s.tell table now) := by
  rw [assemble_map]
  refine List.map_congr_left fun key hk => ?_
  cases hp : s.peek now key with
  | some hit => rw [State.tell, hp, Option.some_or, Option.getD_some, Option.getD_some]
  | none =>
    have stale : s.Stale key now := (State.peek_eq_none once now key).mp hp
    rw [Option.none_or, found key (mem_wanted.mpr ⟨hk, stale⟩), State.tell_of_stale once stale,
      Option.getD_some]

theorem runs_tabled (tabled : loader.Tabled now fixed table) (here : fixed w)
    (once : s.store.keys.Nodup) (idle : s.underWay = []) (keys : List K) :
    ∃ s' w', (process loader).Runs now (.start keys) (s, w) (keys.map (s.tell table now)) (s', w') ∧
      ∃ s₁, s.Skimmed now keys s₁ ∧ s'.store =
        s₁.store.stock now ((wanted s now keys).map fun key => (key, table key)) := by
  obtain ⟨n, s₁, skimmed, ⟨none_, looks, eq⟩ | ⟨c, s₂, claimed, some_, looks⟩⟩ :=
    pass_cases loader now keys w once
  · rw [assemble_tell table once (by simp [none_])] at eq
    rw [none_]
    exact ⟨s₁, w, looks.runs (.ends eq), s₁, skimmed, rfl⟩
  · have idle₁ : s₁.underWay = [] := skimmed.underWay.trans idle
    -- Nobody else is loading, so every key that is missed is loaded here.
    have owned : c.owned.map (·.key) = wanted s now keys := by
      rw [claimed.owned, idle₁]
      simp
    have joined : c.joined = [] := by
      rw [claimed.joined, idle₁]
      simp
    obtain ⟨all, -⟩ | ⟨-, eq⟩ := load_cases loader keys (keys.map (s.peek now)) c s₂ w
    · rw [all] at owned
      exact absurd owned.symm some_
    · rw [joined, claimed.resolved] at eq
      obtain ⟨answers, s₃, w', run, -, told, store⟩ := Chunk.runs_each tabled
        (chunksOf (max loader.maxBatch 1) c.owned.length c.owned) here
        (s₂.countLoads (started loader c.owned).length)
      rw [flatten_chunksOf (by omega) _ _ le_rfl] at told store
      have found (key : K) (hk : key ∈ wanted s now keys) :
          ([] ++ answers.flatten).lookup key = some (.ofOption (table key)) := by
        rw [List.nil_append, told]
        rw [← owned] at hk
        obtain ⟨g, hg, rfl⟩ := List.mem_map.mp hk
        refine Assoc.lookup_of_mem ?_ (List.mem_map.mpr ⟨g, hg, rfl⟩)
        rw [List.map_map]
        exact owned ▸ nodup_wanted s now keys
      refine ⟨s₃.retireAll c.owned, w', ?_, s₁, skimmed, ?_⟩
      · rw [← assemble_tell table once found]
        exact looks.runs (.goes eq (runs_loading (run.all [])))
      · have kept : (s₂.countLoads (started loader c.owned).length).store = s₁.store :=
          claimed.store
        rw [State.retireAll_store, store, kept, ← owned, List.map_map]
        rfl

end ReadAll

/-- Reads of one key after another tell what a single look at the store would have told: what one of
them stores is what the table says anyway. -/
theorem Read.runs_each (tabled : loader.Tabled now fixed table) (here : fixed w)
    (within : s.store.Within all) (idle : s.underWay = []) {keys : List K}
    (come : ∀ key ∈ keys, key ∈ all) :
    ∃ s' w', (process loader).RunsEach now (keys.map .start) (s, w) (keys.map (s.tell table now))
        (s', w') ∧ s.Refreshed table now keys s' := by
  induction keys generalizing s w with
  | nil => exact ⟨s, w, .nil _, State.refreshed_nil within.once table now⟩
  | cons key rest ih =>
    obtain ⟨mine, come⟩ := List.forall_mem_cons.mp come
    obtain ⟨s₁, w₁, first, here₁, idle₁, _, skimmed, store⟩ :=
      runs_tabled tabled here within.once idle key
    have alone : ∀ k ∈ [key], k ∈ all := List.forall_mem_singleton.mpr mine
    have refreshed := State.refreshed_of_stock within alone skimmed store
    obtain ⟨s', w', more, refreshed'⟩ := ih here₁ (refreshed.within within alone) idle₁ come
    -- The first read leaves what is told of every key as it was, so the others tell the same.
    rw [refreshed.tell_eq within.once] at more
    exact ⟨s', w', .cons first more, refreshed.trans refreshed'⟩

namespace Room

variable {outside : σ → σ → Prop} {a : Room K V E σ L B} {c : Config} {world : σ} {start : ℕ}

theorem capacity_of_reach (reach : Reach loader outside (opening c world start) a) :
    a.cache.store.capacity = c.maxSize :=
  store_of_reach (S := fun s => s.capacity = c.maxSize)
    (fun s now op same => (s.serve_settings now op).1.trans same) reach rfl

/-- In every room where nothing is being loaded, for a loader that answers at once from a table: a
read of many keys comes to its end without waiting, and so do reads of these keys one after another
at the same instant. Both give the same answers, and they leave the same entries, if there is room
for all keys that are stored or asked for. -/
theorem batch_read_agrees (reach : Reach loader outside (opening c world start) a)
    (idle : a.cache.inFlight = 0) (tabled : loader.Tabled a.now fixed table) (here : fixed a.world)
    {keys : List K} (fits : (a.cache.store.keys ++ keys).toFinset.card ≤ c.maxSize) :
    ∃ s₁ w₁ s₂ w₂,
      (ReadAll.process loader).Runs a.now (.start keys) (a.cache, a.world)
        (keys.map (a.cache.tell table a.now)) (s₁, w₁) ∧
      (Read.process loader).RunsEach a.now (keys.map .start) (a.cache, a.world)
        (keys.map (a.cache.tell table a.now)) (s₂, w₂) ∧
      s₁.store.entries.Perm s₂.store.entries := by
  have idle : a.cache.underWay = [] := List.length_eq_zero_iff.mp idle
  have within : a.cache.store.Within (a.cache.store.keys ++ keys).toFinset :=
    { once := once_of_reach reach
      stored := fun key hk => by simp [hk]
      room := (capacity_of_reach reach).symm ▸ fits }
  have come (key : K) (hk : key ∈ keys) : key ∈ (a.cache.store.keys ++ keys).toFinset := by
    simp [hk]
  obtain ⟨s₁, w₁, batch, _, skimmed, store⟩ :=
    ReadAll.runs_tabled tabled here within.once idle keys
  obtain ⟨s₂, w₂, single, refreshed⟩ := Read.runs_each tabled here within idle come
  exact ⟨s₁, w₁, s₂, w₂, batch, single,
    (State.refreshed_of_stock within come skimmed store).perm refreshed⟩

/-- Two keys are read; later what they say has changed, and there is a third one. -/
def changedRegister : List (Deed ℕ (List (ℕ × ℕ))) :=
  [.arrive (.one 1), .go 0, .go 0, .go 0, .wait 4, .arrive (.one 2), .go 0, .go 0, .go 0,
    .change [(1, 11), (2, 21), (3, 31)], .wait 7]

/-- The first key is too old by now, the second one is not, the third one has not been asked for,
and of the fourth nothing is known. -/
theorem batch_read_agrees_changedRegister :
    ∃ a s₁ w₁ s₂ w₂, play (Loader.register 2) changedRegister
        (opening { ttl := 5, maxSize := 4 } [(1, 10), (2, 20)] 0) = some a ∧
      (ReadAll.process (Loader.register 2)).Runs 7 (.start [1, 2, 3, 4, 3, 1]) (a.cache, a.world)
        [.found 11, .found 20, .found 31, .notFound, .found 31, .found 11] (s₁, w₁) ∧
      (Read.process (Loader.register 2)).RunsEach 7 ([1, 2, 3, 4, 3, 1].map .start)
        (a.cache, a.world) [.found 11, .found 20, .found 31, .notFound, .found 31, .found 11]
        (s₂, w₂) ∧
      s₁.store.entries.Perm s₂.store.entries := by
  obtain ⟨a, come, now_, world, told, idle, fits⟩ : ∃ a, play (Loader.register 2) changedRegister
      (opening { ttl := 5, maxSize := 4 } [(1, 10), (2, 20)] 0) = some a ∧
      a.now = 7 ∧ a.world = [(1, 11), (2, 21), (3, 31)] ∧
      [1, 2, 3, 4, 3, 1].map (a.cache.tell (fun key => a.world.lookup key) a.now) =
        [.found 11, .found 20, .found 31, .notFound, .found 31, .found 11] ∧
      a.cache.inFlight = 0 ∧ (a.cache.store.keys ++ [1, 2, 3, 4, 3, 1]).toFinset.card ≤ 4 :=
    ⟨_, rfl, rfl, rfl, rfl, rfl, by decide⟩
  obtain ⟨s₁, w₁, s₂, w₂, batch, single, same⟩ :=
    batch_read_agrees (reach_of_play come) idle (Loader.register_tabled a.world 2 a.now) rfl fits
  rw [told, now_] at batch single
  exact ⟨a, s₁, w₁, s₂, w₂, come, batch, single, same⟩

end Room

end

end PacedCalls.Cache
