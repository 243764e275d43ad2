import PacedCalls.Assoc
import PacedCalls.Proofs.Cache.ReadMoves

set_option autoImplicit false

namespace PacedCalls.Cache

section

variable {K V E L B : Type}

def Claims.keys (c : Claims K V E) : List K :=
  c.resolved.map (·.1) ++ c.owned.map (·.key) ++ c.joined.map (·.1)

def ReadAll.keys : ReadAll K V E L B → List K
  | .looking keys _ => keys
  | .claiming keys _ _ _ => keys
  | .loading keys _ _ _ _ _ => keys
  | .joining keys _ _ _ => keys

/-- The keys whose answers were found after the first look, or are on their way. -/
def ReadAll.sought : ReadAll K V E L B → List K
  | .looking keys _ => keys
  | .claiming _ _ claims wanted => claims.keys ++ wanted
  | .loading _ _ resolved _ chunks joined =>
    resolved.map (·.1) ++ chunks.flatMap (Sum.elim Chunk.keys (List.map (·.1))) ++ joined.map (·.1)
  | .joining _ _ resolved parts => resolved.map (·.1) ++ parts.map (Sum.elim Part.key (·.1))

/-- Every position has a slot once all are looked up, and every empty slot a key that is sought. -/
def ReadAll.Whole : ReadAll K V E L B → Prop
  | .looking keys slots => slots.length ≤ keys.length
  | .claiming keys slots claims wanted =>
    slots.length = keys.length ∧
      ∀ key, (key, none) ∈ keys.zip slots →
        key ∈ (ReadAll.claiming keys slots claims wanted : ReadAll K V E L B).sought
  | .loading keys slots resolved guards chunks joined =>
    slots.length = keys.length ∧
      ∀ key, (key, none) ∈ keys.zip slots →
        key ∈ (ReadAll.loading keys slots resolved guards chunks joined : ReadAll K V E L B).sought
  | .joining keys slots resolved parts =>
    slots.length = keys.length ∧
      (∀ key, (key, none) ∈ keys.zip slots →
        key ∈ (ReadAll.joining keys slots resolved parts : ReadAll K V E L B).sought) ∧
      ∀ part, .inl part ∈ parts → part.Whole

def Reader.keys : Reader K V E L B → List K
  | .one read => [read.key]
  | .many read => read.keys

def Reader.Whole : Reader K V E L B → Prop
  | .one _ => True
  | .many read => read.Whole

theorem chunksHeld_inl (chunk : Chunk K B) (rest : List (Chunk K B ⊕ List (K × Lookup V E))) :
    chunksHeld (.inl chunk :: rest) = loadsHeld chunk.guards + chunksHeld rest := by
  simp [chunksHeld]

theorem chunksHeld_inr (found : List (K × Lookup V E))
    (rest : List (Chunk K B ⊕ List (K × Lookup V E))) :
    chunksHeld (.inr found :: rest) = answersHeld found + chunksHeld rest := by
  simp [chunksHeld]

theorem partsHeld_inl (part : Part K L) (rest : List (Part K L ⊕ (K × Lookup V E))) :
    partsHeld (.inl part :: rest) = part.held + partsHeld rest := by
  simp [partsHeld]

theorem partsHeld_inr (x : K × Lookup V E) (rest : List (Part K L ⊕ (K × Lookup V E))) :
    partsHeld (.inr x :: rest) = {.answer x.1 x.2} + partsHeld rest := by
  simp only [partsHeld, List.map_cons, List.sum_cons, Sum.elim_inr]

theorem chunksHeld_at (before after : List (Chunk K B ⊕ List (K × Lookup V E)))
    (x : Chunk K B ⊕ List (K × Lookup V E)) :
    chunksHeld (before ++ x :: after) = x.elim (fun chunk => loadsHeld chunk.guards) answersHeld +
      (chunksHeld before + chunksHeld after) := by
  simp [chunksHeld, add_left_comm]

theorem partsHeld_at (before after : List (Part K L ⊕ (K × Lookup V E)))
    (x : Part K L ⊕ (K × Lookup V E)) :
    partsHeld (before ++ x :: after) = x.elim Part.held (fun x => {.answer x.1 x.2}) +
      (partsHeld before + partsHeld after) := by
  simp [partsHeld, add_left_comm]

theorem covered_partsHeld (parts : List (Part K L ⊕ (K × Lookup V E))) :
    Covered (partsHeld parts) := by
  induction parts with
  | nil => exact covered_zero
  | cons part rest ih =>
    simp only [partsHeld, List.map_cons, List.sum_cons] at ih ⊢
    refine Covered.add ?_ ih
    cases part with
    | inl part => exact part.covered_held
    | inr x => exact covered_of_loadsOf rfl

theorem guardsOf_chunksHeld (chunks : List (Chunk K B ⊕ List (K × Lookup V E))) :
    guardsOf (chunksHeld chunks) = 0 := by
  induction chunks with
  | nil => rfl
  | cons chunk rest ih =>
    simp only [chunksHeld, List.map_cons, List.sum_cons, guardsOf_add] at ih ⊢
    rw [ih]
    cases chunk <;> simp

theorem chunksHeld_ended (found : List (List (K × Lookup V E))) :
    chunksHeld (found.map .inr : List (Chunk K B ⊕ List (K × Lookup V E))) =
      answersHeld found.flatten := by
  rw [answersHeld_flatten, chunksHeld, List.map_map]
  rfl

theorem partsHeld_ended (found : List (K × Lookup V E)) :
    partsHeld (found.map .inr : List (Part K L ⊕ (K × Lookup V E))) = answersHeld found := by
  induction found with
  | nil => rfl
  | cons x rest ih =>
    rw [answersHeld_cons, ← ih]
    rfl

theorem partsHeld_watched (joined : List (K × Nat)) :
    partsHeld (joined.map fun (k, flight) => .inl (.watching k flight) :
      List (Part K L ⊕ (K × Lookup V E))) = waitsHeld joined := by
  induction joined with
  | nil => rfl
  | cons x rest ih =>
    rw [waitsHeld_cons, ← ih]
    rfl

theorem keys_watched (joined : List (K × Nat)) :
    (joined.map fun (k, flight) => .inl (.watching k flight) :
      List (Part K L ⊕ (K × Lookup V E))).map (Sum.elim Part.key (·.1)) = joined.map (·.1) := by
  simp [Part.key, Function.comp_def]

theorem keys_begun (chunks : List (Chunk K B)) :
    (chunks.map .inl : List (Chunk K B ⊕ List (K × Lookup V E))).flatMap
      (Sum.elim Chunk.keys (List.map (·.1))) = (chunks.flatMap (·.guards)).map (·.key) := by
  rw [List.flatMap_map, List.map_flatMap]
  rfl

theorem chunksHeld_begun (chunks : List (Chunk K B)) :
    chunksHeld (chunks.map .inl : List (Chunk K B ⊕ List (K × Lookup V E))) =
      loadsHeld (chunks.flatMap (·.guards)) := by
  induction chunks with
  | nil => rfl
  | cons chunk rest ih =>
    rw [List.map_cons, chunksHeld_inl, ih, List.flatMap_cons, loadsHeld_append]

end

section

variable {K V E L B : Type}

namespace ReadAll

variable [DecidableEq K]

theorem mem_collected {xs acc : List K} {key : K} :
    key ∈ xs.foldl (fun acc k => if acc.contains k then acc else acc ++ [k]) acc ↔
      key ∈ acc ∨ key ∈ xs := by
  induction xs generalizing acc with
  | nil => simp
  | cons x rest ih =>
    rw [List.foldl_cons, ih]
    by_cases hx : acc.contains x
    · rw [if_pos hx]
      have := List.contains_iff_mem.mp hx
      grind
    · rw [if_neg hx]
      grind

theorem mem_missing {keys : List K} {slots : List (Option (Lookup V E))} {key : K} :
    key ∈ missing keys slots ↔ (key, none) ∈ keys.zip slots := by
  rw [missing, mem_collected, List.mem_filterMap]
  constructor
  · rintro (h | ⟨⟨k, slot⟩, hm, hs⟩)
    · cases h
    · cases slot with
      | none =>
        cases hs
        exact hm
      | some a => cases hs
  · intro hm
    exact .inr ⟨(key, none), hm, rfl⟩

theorem length_assemble {keys : List K} {slots : List (Option (Lookup V E))}
    (resolved : List (K × Lookup V E)) (h : slots.length = keys.length) :
    (assemble keys slots resolved).length = keys.length := by
  simp [assemble, h]

omit [DecidableEq K] in
theorem seen_concat {keys : List K} {slots : List (Option (Lookup V E))} {key : K}
    (next : keys[slots.length]? = some key) (slot : Option (Lookup V E)) :
    seen keys (slots ++ [slot]) = seen keys slots ++ slot.toList.map (key, ·) := by
  induction slots generalizing keys with
  | nil =>
    cases keys with
    | nil => cases next
    | cons first keys =>
      cases next
      cases slot <;> simp [seen]
  | cons old slots ih =>
    cases keys with
    | nil => cases next
    | cons first keys =>
      rw [List.cons_append, seen_cons, seen_cons, ih (by simpa using next), List.append_assoc]

omit [DecidableEq K] in
theorem landed_gains_looking (now : Nat) (origin : K → Option Nat) (keys : List K)
    (slots : List (Option (Lookup V E))) (read : ReadAll K V E L B) (l : List (Landing K V E)) :
    landed now (gains origin (.looking keys slots) read) l = l := by
  cases read with
  | looking keys' slots' => exact landed_stored ..
  | _ => rfl

omit [DecidableEq K] in
theorem landed_gains_claiming (now : Nat) (origin : K → Option Nat) (keys wanted : List K)
    (slots : List (Option (Lookup V E))) (c : Claims K V E) (read : ReadAll K V E L B)
    (l : List (Landing K V E)) :
    landed now (gains origin (.claiming keys slots c wanted) read) l = l := by
  cases read with
  | claiming keys' slots' c' wanted' => exact landed_stored ..
  | _ => rfl

theorem mem_assemble {keys : List K} {slots : List (Option (Lookup V E))}
    {resolved : List (K × Lookup V E)} (h : slots.length = keys.length)
    (open_ : ∀ key, (key, none) ∈ keys.zip slots → key ∈ resolved.map (·.1)) {key : K}
    {a : Lookup V E} (hm : (key, a) ∈ keys.zip (assemble keys slots resolved)) :
    (key, a) ∈ seen keys slots ++ resolved := by
  induction keys generalizing slots with
  | nil => cases hm
  | cons first keys ih =>
    cases slots with
    | nil => cases h
    | cons slot slots =>
      have hlen : slots.length = keys.length := by simpa using h
      rw [seen_cons]
      simp only [assemble, List.zip_cons_cons, List.map_cons, List.mem_cons] at hm
      rcases hm with hm | hm
      · cases hm
        cases slot with
        | some b => simp
        | none =>
          have hk := Assoc.isSome_lookup.mpr (open_ key (by simp))
          obtain ⟨b, hb⟩ := Option.isSome_iff_exists.mp hk
          simp [hb, Assoc.mem_of_lookup hb]
      · have := ih hlen (fun k hk => open_ k (by simp [hk])) hm
        simp only [List.mem_append] at this ⊢
        tauto

theorem seen_assemble {keys : List K} {slots : List (Option (Lookup V E))}
    (h : slots.length = keys.length) (none_ : ∀ key, (key, none) ∉ keys.zip slots) :
    keys.zip (assemble keys slots []) = seen keys slots := by
  induction keys generalizing slots with
  | nil => rfl
  | cons first keys ih =>
    cases slots with
    | nil => cases h
    | cons slot slots =>
      have hlen : slots.length = keys.length := by simpa using h
      have rest := ih hlen fun k hk => none_ k (by simp [hk])
      cases slot with
      | none => exact absurd (by simp) (none_ first)
      | some a =>
        rw [seen_cons, ← rest]
        rfl

end ReadAll

end

section

variable {R K V E σ L B : Type} [DecidableEq K] {loader : Loader (Event R) K V E σ L B}

namespace ReadAll

theorem looking_acts {now : Nat} {keys : List K} {slots : List (Option (Lookup V E))} {key : K}
    {slot : Option (Lookup V E)} {s s' : State K V E} (next : keys[slots.length]? = some key)
    (h : s.readStore key now = (slot, s')) (l : List (Landing K V E)) :
    Acts now ⟨s, l⟩ (answersHeld (seen keys slots))
      (((seen keys (slots ++ [slot])).drop (seen keys slots).length).flatMap
        (Gain.stored (origin l))) ⟨s', l⟩ (answersHeld (seen keys (slots ++ [slot]))) := by
  have acts := State.readStore_acts h l (answersHeld (seen keys slots))
  rw [seen_concat next, List.drop_left, answersHeld_append, List.flatMap_map]
  exact acts.holding (add_comm _ _)

theorem claiming_acts {now : Nat} {key : K} {claim : Claim K V E} {s s' : State K V E}
    (h : s.claim key now = (claim, s')) (c : Claims K V E) (l : List (Landing K V E))
    (rest : Multiset (Holding K V E)) :
    Acts now ⟨s, l⟩ (rest + c.held)
      (((c.add key claim).resolved.drop c.resolved.length).flatMap (Gain.stored (origin l)))
      ⟨s'.countClaim claim, l⟩ (rest + (c.add key claim).held) := by
  have acts := (State.claim_acts h l (rest + c.held)).andThen
    (s'.countClaim_acts claim now l _)
  rw [Claims.gains_add, Claims.held_add]
  exact acts.holding (add_left_comm _ _ _)

theorem mem_keys_add {s s' : State K V E} {key k : K} {now : Nat} {claim : Claim K V E}
    (h : s.claim key now = (claim, s')) (c : Claims K V E) :
    k ∈ (c.add key claim).keys ↔ k ∈ c.keys ∨ k = key := by
  cases claim with
  | stored result =>
    simp only [Claims.add, Claims.keys, List.map_append, List.mem_append, List.map_cons,
      List.map_nil, List.mem_singleton]
    tauto
  | owner g =>
    simp only [Claims.add, Claims.keys, List.map_append, List.mem_append, List.map_cons,
      List.map_nil, List.mem_singleton, State.claim_owner_key h]
    tauto
  | joined flight =>
    simp only [Claims.add, Claims.keys, List.map_append, List.mem_append, List.map_cons,
      List.map_nil, List.mem_singleton]
    tauto

omit [DecidableEq K] in
theorem whole_join {keys : List K} {slots : List (Option (Lookup V E))}
    {resolved : List (K × Lookup V E)} {joined : List (K × Nat)}
    (hlen : slots.length = keys.length)
    (sought : ∀ key, (key, none) ∈ keys.zip slots → key ∈ resolved.map (·.1) ++ joined.map (·.1)) :
    (join keys slots resolved joined : ReadAll K V E L B).Whole := by
  refine ⟨hlen, fun key hk => ?_, fun part hp => ?_⟩
  · simpa only [ReadAll.sought, keys_watched] using sought key hk
  · obtain ⟨x, -, hx⟩ := List.mem_map.mp hp
    cases hx
    trivial

omit [DecidableEq K] in
theorem held_join (keys : List K) (slots : List (Option (Lookup V E)))
    (resolved : List (K × Lookup V E)) (joined : List (K × Nat)) :
    (join keys slots resolved joined : ReadAll K V E L B).held =
      answersHeld (seen keys slots ++ resolved) + waitsHeld joined := by
  rw [join, held, partsHeld_watched]

theorem claim_goes {now : Nat} {keys : List K} {slots : List (Option (Lookup V E))}
    {c : Claims K V E} {wanted : List K} {read : ReadAll K V E L B} {s s' : State K V E} {w w' : σ}
    {events : List (Event R)}
    (h : (process loader).move now (.claiming keys slots c wanted) (s, w) =
      .goes read (s', w') events)
    (hw : (ReadAll.claiming keys slots c wanted : ReadAll K V E L B).Whole)
    (l : List (Landing K V E)) :
    read.Whole ∧ read.keys = keys ∧
      Acts now ⟨s, l⟩ (answersHeld (seen keys slots) + c.held)
        (gains (origin l) (.claiming keys slots c wanted) read) ⟨s', l⟩ read.held := by
  obtain ⟨hlen, sought⟩ := hw
  obtain ⟨key, rest, claim, s₁, rfl, hc, rfl, rfl, -⟩ |
    ⟨rfl, ⟨none_, rfl, rfl, -⟩ | ⟨-, rfl, rfl, -⟩⟩ := claiming_goes h
  · refine ⟨⟨hlen, fun k hk => ?_⟩, rfl, claiming_acts hc c l _⟩
    have := sought k hk
    simp only [ReadAll.sought, List.mem_append, List.mem_cons, mem_keys_add hc] at this ⊢
    tauto
  · refine ⟨whole_join hlen fun key hk => ?_, rfl, .holding (.done _ _) ?_⟩
    · simpa [ReadAll.sought, Claims.keys, none_] using sought key hk
    · rw [held_join, answersHeld_append, Claims.held, none_]
      simp only [guardsHeld, loadsHeld, List.map_nil, Multiset.coe_nil]
      abel
  · refine ⟨⟨hlen, fun key hk => ?_⟩, rfl, (s.count_acts _ now l _).holding ?_⟩
    · rw [ReadAll.sought, keys_begun, guards_started]
      simpa [ReadAll.sought, Claims.keys] using sought key hk
    · rw [held, chunksHeld_begun, guards_started, answersHeld_append, Claims.held]
      abel

theorem look_goes {now : Nat} {keys : List K} {slots : List (Option (Lookup V E))}
    {read : ReadAll K V E L B} {s s' : State K V E} {w w' : σ} {events : List (Event R)}
    (h : (process loader).move now (.looking keys slots) (s, w) = .goes read (s', w') events)
    (hw : (ReadAll.looking keys slots : ReadAll K V E L B).Whole) (l : List (Landing K V E)) :
    read.Whole ∧ read.keys = keys ∧
      Acts now ⟨s, l⟩ (answersHeld (seen keys slots))
        (gains (origin l) (.looking keys slots) read) ⟨s', l⟩ read.held := by
  obtain ⟨key, next, rfl, rfl, -⟩ | ⟨done, -, rfl, rfl, -⟩ := looking_goes h
  · refine ⟨?_, rfl, looking_acts next rfl l⟩
    obtain ⟨lt, -⟩ := List.getElem?_eq_some_iff.mp next
    simpa [Whole, Nat.succ_le_iff] using lt
  · have hlen : slots.length = keys.length := Nat.le_antisymm hw (List.getElem?_eq_none_iff.mp done)
    refine ⟨⟨hlen, fun key hk => ?_⟩, rfl, ?_⟩
    · simpa [ReadAll.sought, Claims.keys] using mem_missing.mpr hk
    · exact Acts.holding (.done _ _) (by simp [held, Claims.held, answersHeld, guardsHeld,
        loadsHeld, waitsHeld])

theorem look_ends {now : Nat} {keys : List K} {slots : List (Option (Lookup V E))}
    {answers : List (Lookup V E)} {s s' : State K V E} {w w' : σ} {events : List (Event R)}
    (h : (process loader).move now (.looking keys slots) (s, w) = .ends answers (s', w') events)
    (hw : (ReadAll.looking keys slots : ReadAll K V E L B).Whole) :
    answers.length = keys.length ∧ keys.zip answers = seen keys slots ∧ s' = s := by
  obtain ⟨done, none_, rfl, rfl, -⟩ := looking_ends h
  have hlen : slots.length = keys.length := Nat.le_antisymm hw (List.getElem?_eq_none_iff.mp done)
  refine ⟨length_assemble [] hlen, seen_assemble hlen fun key => ?_, rfl⟩
  rw [← mem_missing, none_]
  exact List.not_mem_nil

theorem chunks_move {now : Nat} {chunks chunks' : List (Chunk K B ⊕ List (K × Lookup V E))}
    {s s' : State K V E} {w w' : σ} {events : List (Event R)}
    (h : Process.OneMoved (Chunk.process loader) now (s, w) chunks chunks' (s', w') events)
    (l : List (Landing K V E)) (rest : Multiset (Holding K V E)) :
    chunks'.flatMap (Sum.elim Chunk.keys (List.map (·.1))) =
        chunks.flatMap (Sum.elim Chunk.keys (List.map (·.1))) ∧
      Acts now ⟨s, l⟩ (chunksHeld chunks + rest)
        (Process.ofEnded (fun chunk => Chunk.gains chunk.guards) chunks chunks')
        ⟨s', landed now
          (Process.ofEnded (fun chunk => Chunk.gains chunk.guards) chunks chunks') l⟩
        (chunksHeld chunks' + rest) := by
  cases h with
  | went before after chunk chunk' old new move =>
    subst old new
    obtain ⟨hg, rfl⟩ := Chunk.goes move
    refine ⟨by simp [Chunk.keys, hg], ?_⟩
    rw [Process.ofEnded_at, chunksHeld_at, chunksHeld_at, Sum.elim_inl, Sum.elim_inl, hg]
    exact .done _ _
  | ended before after chunk found old new move =>
    subst old new
    obtain ⟨hkeys, acts⟩ := Chunk.ends move l (chunksHeld before + (chunksHeld after + rest))
    refine ⟨by simp [hkeys], ?_⟩
    simp only [Process.ofEnded_at, chunksHeld_at, add_assoc]
    simpa [Process.ofEnded] using acts

theorem parts_move {now : Nat} {parts parts' : List (Part K L ⊕ (K × Lookup V E))}
    {s s' : State K V E} {w w' : σ} {events : List (Event R)}
    (h : Process.OneMoved (Part.process loader) now (s, w) parts parts' (s', w') events)
    (hw : ∀ part, .inl part ∈ parts → part.Whole) (l : List (Landing K V E))
    {rest : Multiset (Holding K V E)} (hr : Covered rest) :
    (∀ part, .inl part ∈ parts' → part.Whole) ∧
      parts'.map (Sum.elim Part.key (·.1)) = parts.map (Sum.elim Part.key (·.1)) ∧
      Acts now ⟨s, l⟩ (partsHeld parts + rest)
        (Process.ofEnded (Part.gains (origin l)) parts parts')
        ⟨s', landed now (Process.ofEnded (Part.gains (origin l)) parts parts') l⟩
        (partsHeld parts' + rest) := by
  cases h with
  | went before after part part' old new move =>
    subst old new
    obtain ⟨hw', hkey, acts⟩ := Part.goes move (hw part (by simp)) l
      (partsHeld before + (partsHeld after + rest))
    refine ⟨by grind, by simp [hkey], ?_⟩
    simp only [Process.ofEnded_at, partsHeld_at, add_assoc]
    exact acts
  | ended before after part found old new move =>
    subst old new
    have others : Covered (partsHeld before + (partsHeld after + rest)) :=
      (covered_partsHeld before).add ((covered_partsHeld after).add hr)
    obtain ⟨hkey, acts⟩ := Part.ends move (hw part (by simp)) l others
    refine ⟨by grind, by simp [hkey], ?_⟩
    simp only [Process.ofEnded_at, partsHeld_at, add_assoc]
    simpa [Process.ofEnded] using acts

theorem chunks_goes {now : Nat} {keys : List K} {slots : List (Option (Lookup V E))}
    {resolved : List (K × Lookup V E)} {guards : List (Guard K)}
    {chunks : List (Chunk K B ⊕ List (K × Lookup V E))} {joined : List (K × Nat)}
    {read : ReadAll K V E L B} {s s' : State K V E} {w w' : σ} {events : List (Event R)}
    (h : (process loader).move now (.loading keys slots resolved guards chunks joined) (s, w) =
      .goes read (s', w') events)
    (hw : (loading keys slots resolved guards chunks joined : ReadAll K V E L B).Whole)
    (l : List (Landing K V E)) :
    let start : ReadAll K V E L B := .loading keys slots resolved guards chunks joined
    read.Whole ∧ read.keys = keys ∧
      Acts now ⟨s, l⟩ start.held (gains (origin l) start read)
        ⟨s', landed now (gains (origin l) start read) l⟩ read.held := by
  obtain ⟨hlen, sought⟩ := hw
  obtain ⟨chunks', moves, rfl⟩ | ⟨found, rfl, rfl, rfl, -⟩ := loading_goes h
  · obtain ⟨hkeys, acts⟩ := chunks_move (Process.all_goes moves) l
      (answersHeld (seen keys slots ++ resolved) + guardsHeld guards + waitsHeld joined)
    refine ⟨⟨hlen, fun key hk => ?_⟩, rfl, ?_⟩
    · simpa only [ReadAll.sought, hkeys] using sought key hk
    · have start (chunks) : (loading keys slots resolved guards chunks joined :
          ReadAll K V E L B).held = chunksHeld chunks + (answersHeld (seen keys slots ++ resolved) +
            guardsHeld guards + waitsHeld joined) := by
        simp only [held]
        abel
      rw [start, start]
      exact acts
  · refine ⟨whole_join hlen fun key hk => ?_, rfl, ?_⟩
    · simpa [ReadAll.sought, List.flatMap_def, List.map_flatten] using sought key hk
    · have start : (loading keys slots resolved guards (found.map .inr) joined :
          ReadAll K V E L B).held = guardsHeld guards +
            (answersHeld (seen keys slots ++ resolved) + answersHeld found.flatten +
              waitsHeld joined) := by
        simp only [held, chunksHeld_ended]
        abel
      rw [start, held_join, ← List.append_assoc, answersHeld_append _ found.flatten]
      exact State.retireAll_acts guards s now l (covered_of_loadsOf (by simp))

theorem parts_goes {now : Nat} {keys : List K} {slots : List (Option (Lookup V E))}
    {resolved : List (K × Lookup V E)} {parts : List (Part K L ⊕ (K × Lookup V E))}
    {read : ReadAll K V E L B} {s s' : State K V E} {w w' : σ} {events : List (Event R)}
    (h : (process loader).move now (.joining keys slots resolved parts) (s, w) =
      .goes read (s', w') events)
    (hw : (joining keys slots resolved parts : ReadAll K V E L B).Whole)
    (l : List (Landing K V E)) :
    let start : ReadAll K V E L B := .joining keys slots resolved parts
    read.Whole ∧ read.keys = keys ∧
      Acts now ⟨s, l⟩ start.held (gains (origin l) start read)
        ⟨s', landed now (gains (origin l) start read) l⟩ read.held := by
  obtain ⟨hlen, sought, whole⟩ := hw
  obtain ⟨parts', moves, rfl⟩ := joining_goes h
  obtain ⟨whole', hkeys, acts⟩ := parts_move (Process.all_goes moves) whole l
    (covered_of_loadsOf (loadsOf_answersHeld (seen keys slots ++ resolved)))
  refine ⟨⟨hlen, fun key hk => ?_, whole'⟩, rfl, ?_⟩
  · simpa only [ReadAll.sought, hkeys] using sought key hk
  · rw [held, held, add_comm, add_comm (answersHeld _)]
    exact acts

theorem goes {now : Nat} {read read' : ReadAll K V E L B} {s s' : State K V E} {w w' : σ}
    {events : List (Event R)}
    (h : (process loader).move now read (s, w) = .goes read' (s', w') events) (hw : read.Whole)
    (l : List (Landing K V E)) :
    read'.Whole ∧ read'.keys = read.keys ∧
      Acts now ⟨s, l⟩ read.held (gains (origin l) read read')
        ⟨s', landed now (gains (origin l) read read') l⟩ read'.held := by
  cases read with
  | looking keys slots =>
    obtain ⟨whole, same, acts⟩ := look_goes h hw l
    rw [landed_gains_looking]
    exact ⟨whole, same, acts⟩
  | claiming keys slots claims wanted =>
    obtain ⟨whole, same, acts⟩ := claim_goes h hw l
    rw [landed_gains_claiming]
    exact ⟨whole, same, acts⟩
  | loading keys slots resolved guards chunks joined => exact chunks_goes h hw l
  | joining keys slots resolved parts => exact parts_goes h hw l

theorem ends {now : Nat} {read : ReadAll K V E L B} {answers : List (Lookup V E)}
    {s s' : State K V E} {w w' : σ} {events : List (Event R)}
    (h : (process loader).move now read (s, w) = .ends answers (s', w') events) (hw : read.Whole)
    (l : List (Landing K V E)) :
    answers.length = read.keys.length ∧
      ∃ found, (∀ p ∈ read.keys.zip answers, p ∈ found) ∧
        Acts now ⟨s, l⟩ read.held [] ⟨s', l⟩ (answersHeld found) := by
  cases read with
  | looking keys slots =>
    obtain ⟨hlen, all, rfl⟩ := look_ends h hw
    exact ⟨hlen, seen keys slots, fun p hp => all ▸ hp, .done _ _⟩
  | claiming keys slots claims wanted => exact absurd h not_claiming_ends
  | loading keys slots resolved guards chunks joined => exact absurd h not_loading_ends
  | joining keys slots resolved parts =>
    obtain ⟨hlen, sought, -⟩ := hw
    obtain ⟨found, rfl, rfl, rfl, -⟩ := joining_ends h
    refine ⟨length_assemble _ hlen, seen keys slots ++ (resolved ++ found), fun p hp => ?_, ?_⟩
    · refine mem_assemble hlen (fun key hk => ?_) hp
      simpa [ReadAll.sought] using sought key hk
    · rw [held, partsHeld_ended, ← List.append_assoc, answersHeld_append _ found]
      exact .done _ _

theorem chunks_leave (chunks : List (Chunk K B ⊕ List (K × Lookup V E))) (s : State K V E) (w : σ) :
    (Process.abandonAll (Chunk.process loader) chunks (s, w)).1 = s := by
  induction chunks generalizing w with
  | nil => rfl
  | cons chunk rest ih =>
    cases chunk with
    | inl chunk => exact ih _
    | inr found => exact ih w

theorem parts_leave {parts : List (Part K L ⊕ (K × Lookup V E))} {s s' : State K V E} {w w' : σ}
    (h : Process.abandonAll (Part.process loader) parts (s, w) = (s', w')) (now : Nat)
    (l : List (Landing K V E)) : Acts now ⟨s, l⟩ (partsHeld parts) [] ⟨s', l⟩ 0 := by
  induction parts generalizing s w with
  | nil =>
    cases h
    exact .done _ _
  | cons part rest ih =>
    simp only [partsHeld, List.map_cons, List.sum_cons] at ih ⊢
    cases part with
    | inl part =>
      rw [Process.abandonAll] at h
      rcases hp : (Part.process loader).abandon part (s, w) with ⟨s₁, w₁⟩
      rw [hp] at h
      exact (Part.leaves hp now l (covered_partsHeld rest)).before (ih h)
    | inr x =>
      rw [Process.abandonAll] at h
      exact (Acts.drop now _ (by simp [Holding.guard?]) _).before (ih h)

theorem leaves {read : ReadAll K V E L B} {s s' : State K V E} {w w' : σ}
    (h : (process loader).abandon read (s, w) = (s', w')) (now : Nat) (l : List (Landing K V E)) :
    Acts now ⟨s, l⟩ read.held [] ⟨s', l⟩ 0 := by
  cases read with
  | looking keys slots =>
    cases h
    simpa [held] using Acts.drop now _ (guardsOf_answersHeld (seen keys slots)) 0
  | claiming keys slots claims wanted =>
    cases h
    have start : (claiming keys slots claims wanted : ReadAll K V E L B).held =
        (answersHeld (seen keys slots ++ claims.resolved) + loadsHeld claims.owned +
          waitsHeld claims.joined) + (guardsHeld claims.owned + 0) := by
      simp only [held, Claims.held, answersHeld_append]
      abel
    rw [start]
    exact (Acts.drop now _ (by simp) _).before (s.retireAll_acts claims.owned now l covered_zero)
  | loading keys slots resolved guards chunks joined =>
    simp only [process, Process.all, Prod.mk.injEq, chunks_leave] at h
    obtain ⟨rfl, -⟩ := h
    have start : (loading keys slots resolved guards chunks joined : ReadAll K V E L B).held =
        (answersHeld (seen keys slots ++ resolved) + chunksHeld chunks + waitsHeld joined) +
          (guardsHeld guards + 0) := by
      simp only [held]
      abel
    rw [start]
    exact (Acts.drop now _ (by simp [guardsOf_chunksHeld]) _).before
      (s.retireAll_acts guards now l covered_zero)
  | joining keys slots resolved parts =>
    exact (Acts.drop now _ (guardsOf_answersHeld _) _).before (parts_leave h now l)

end ReadAll

namespace Reader

theorem goes {now : Nat} {reader reader' : Reader K V E L B} {s s' : State K V E} {w w' : σ}
    {events : List (Event R)}
    (h : (process loader).move now reader (s, w) = .goes reader' (s', w') events)
    (hw : reader.Whole) (l : List (Landing K V E)) :
    reader'.Whole ∧ reader'.keys = reader.keys ∧
      Acts now ⟨s, l⟩ reader.held (reader.gains (origin l) reader')
        ⟨s', landed now (reader.gains (origin l) reader') l⟩ reader'.held := by
  cases reader with
  | one read =>
    obtain ⟨read', w₁, hm, rfl, rfl⟩ := Process.lift_goes h
    obtain ⟨hkey, acts⟩ := Read.goes hm l 0
    rw [add_zero, add_zero] at acts
    exact ⟨trivial, congrArg (fun key => [key]) hkey, acts⟩
  | many read =>
    obtain ⟨read', w₁, hm, rfl, rfl⟩ := Process.lift_goes h
    exact ReadAll.goes hm hw l

theorem ends {now : Nat} {reader : Reader K V E L B} {answers : List (Lookup V E)}
    {s s' : State K V E} {w w' : σ} {events : List (Event R)}
    (h : (process loader).move now reader (s, w) = .ends answers (s', w') events)
    (hw : reader.Whole) (l : List (Landing K V E)) :
    answers.length = reader.keys.length ∧
      ∃ found, (∀ p ∈ reader.keys.zip answers, p ∈ found) ∧
        Acts now ⟨s, l⟩ reader.held (reader.lastGains (origin l) answers)
          ⟨s', landed now (reader.lastGains (origin l) answers) l⟩ (answersHeld found) := by
  cases reader with
  | one read =>
    obtain ⟨answer, w₁, hm, rfl, rfl⟩ := Process.lift_ends h
    have acts := Read.ends hm l covered_zero
    refine ⟨rfl, [(read.key, answer)], fun p hp => by simpa [keys] using hp, ?_⟩
    rw [add_zero, add_zero] at acts
    rw [lastGains, List.flatMap_singleton]
    exact acts
  | many read =>
    obtain ⟨answers, w₁, hm, rfl, rfl⟩ := Process.lift_ends h
    exact ReadAll.ends hm hw l

theorem leaves {reader : Reader K V E L B} {s s' : State K V E} {w w' : σ}
    (h : (process loader).abandon reader (s, w) = (s', w')) (now : Nat)
    (l : List (Landing K V E)) : Acts now ⟨s, l⟩ reader.held [] ⟨s', l⟩ 0 := by
  cases reader with
  | one read =>
    have acts := Read.leaves h now l covered_zero
    rw [add_zero] at acts
    exact acts
  | many read => exact ReadAll.leaves h now l

end Reader

end

end PacedCalls.Cache
