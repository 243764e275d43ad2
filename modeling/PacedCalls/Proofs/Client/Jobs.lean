import PacedCalls.Proofs.Client.Passage

set_option autoImplicit false

namespace PacedCalls

open Rate (Hand)

namespace Retry

variable {R σ s α : Type} [Scalar R] {policy : Policy R} {target : String}
  {work : Process (Event R) σ s (Except CallError α)} {fresh : s} {now : ℕ} {phase phase' : Phase s}
  {w w' : σ} {events : List (Event R)}

theorem loop_goes (h : (loop policy target work fresh).move now phase w = .goes phase' w' events) :
    (∃ n st st', phase = .attempting n st ∧ phase' = .attempting n st' ∧
      ∃ events, work.move now st w = .goes st' w' events) ∨
    (∃ n st wake, phase = .attempting n st ∧ phase' = .waiting n wake ∧
      ∃ result events, work.move now st w = .ends result w' events ∧
        ∃ d failure, policy.verdict n result = .wait d failure) ∨
    (∃ n wake, phase = .waiting n wake ∧ phase' = .attempting (min (n + 1) lastAttempt) fresh ∧
      w' = w) := by
  cases phase with
  | attempting n st =>
    simp only [loop] at h
    split at h
    · cases h
    · next moves =>
      cases h
      exact .inl ⟨n, st, _, rfl, rfl, _, moves⟩
    · next moves =>
      split at h
      · cases h
      · cases h
      · next ruled =>
        cases h
        exact .inr (.inl ⟨n, st, _, rfl, rfl, _, _, moves, _, _, ruled⟩)
  | waiting n wake =>
    simp only [loop] at h
    split at h
    · cases h
      exact .inr (.inr ⟨n, wake, rfl, rfl, rfl⟩)
    · cases h

theorem loop_ends {result : Except CallError α}
    (h : (loop policy target work fresh).move now phase w = .ends result w' events) :
    ∃ n st, phase = .attempting n st ∧
      ∃ attempted events, work.move now st w = .ends attempted w' events ∧
        (policy.verdict n attempted = .return result ∨
          ∃ failure, policy.verdict n attempted = .giveUp failure ∧
            result = .error (.retryExhausted target n failure)) := by
  cases phase with
  | attempting n st =>
    simp only [loop] at h
    split at h
    · cases h
    · cases h
    · next moves =>
      split at h
      · next ruled =>
        cases h
        exact ⟨n, st, rfl, _, _, moves, .inl ruled⟩
      · next ruled =>
        cases h
        exact ⟨n, st, rfl, _, _, moves, .inr ⟨_, ruled, rfl⟩⟩
      · cases h
  | waiting n wake =>
    simp only [loop] at h
    split at h <;> cases h

theorem loop_waits {wake : Option ℕ}
    (h : (loop policy target work fresh).move now phase w = .waits wake) :
    ∀ st ∈ phase.attempt?, work.move now st w = .waits wake := by
  intro st hs
  cases phase with
  | attempting n st' =>
    cases hs
    simp only [loop] at h
    split at h
    · next moves =>
      cases h
      exact moves
    · cases h
    · split at h <;> cases h
  | waiting n wake => cases hs

end Retry

namespace Retry.Policy

variable {R α : Type} [Scalar R] {p : Policy R} {n : ℕ} {result result' : Except CallError α}
  {failure : TransportError}

theorem verdict_return (h : p.verdict n result = .return result') : result' = result := by
  simp only [verdict] at h
  split at h
  · split at h
    · cases h
      rfl
    · split at h <;> cases h
  · cases h
    rfl

theorem verdict_giveUp (h : p.verdict n result = .giveUp failure) :
    result = .error (.transient failure) := by
  simp only [verdict] at h
  split at h
  · split at h
    · cases h
    · split at h
      · cases h
        rfl
      · cases h
  · cases h

theorem verdict_wait {d : ℕ} (h : p.verdict n result = .wait d failure) :
    result = .error (.transient failure) := by
  simp only [verdict] at h
  split at h
  · split at h
    · cases h
    · split at h
      · cases h
      · cases h
        rfl
  · cases h

end Retry.Policy

def Errand.hand {R U S V : Type} (errand : Errand R U S V) : Hand :=
  match errand.pass? with
  | some pass => pass.hand
  | none => 0

def Errand.Proper {R U S V : Type} (errand : Errand R U S V) : Prop :=
  ∀ pass ∈ errand.pass?, pass.Proper

def Errand.client? {R U S V : Type} : Errand R U S V → Option (Client R U S)
  | .call client _ _ => some client
  | .branch _ => none

theorem Errand.hand_some {R U S V : Type} {errand : Errand R U S V} {pass : Chain.Pass R U S}
    (h : errand.pass? = some pass) : errand.hand = pass.hand := by
  simp only [hand, h]

theorem Errand.hand_none {R U S V : Type} {errand : Errand R U S V} (h : errand.pass? = none) :
    errand.hand = 0 := by
  simp only [hand, h]

namespace Client

theorem guarded_layers {R U S : Type} (c : Client R U S) : Chain.Guarded c.layers :=
  Chain.guarded_append c.outer c.countNotFound

variable {R T U S V : Type} [Scalar R] [Transport T] {c : Client R U S} {decode : Body.Reader V}
  {now : ℕ} {st st' : Call R U S} {lane lane' : Lane R T U} {events : List (Event R)}

theorem call_goes_loop (h : (c.call decode).move now st lane = .goes st' lane' events) :
    ∃ phase events, st' = { st with phase := phase } ∧
      (Retry.loop c.policy st.request.description (attempt st.request decode)
        (.start c.layers st.request)).move now st.phase lane = .goes phase lane' events := by
  obtain ⟨phase, w, moves, rfl, rfl⟩ := Process.lift_goes h
  simp only [loop, Process.thenReport] at moves
  split at moves
  · cases moves
  · exact ⟨phase, _, rfl, moves⟩

theorem call_ends_loop {result : Except CallError (Outcome V)}
    (h : (c.call decode).move now st lane = .ends result lane' events) :
    ∃ events, (Retry.loop c.policy st.request.description
      (attempt (T := T) st.request decode) (.start c.layers st.request)).move now st.phase lane =
        .ends result lane' events := by
  obtain ⟨result', w, moves, rfl, rfl⟩ := Process.lift_ends h
  simp only [loop, Process.thenReport] at moves
  split at moves
  · next moves' =>
    cases moves
    exact ⟨_, moves'⟩
  · exact ⟨_, moves⟩

theorem call_waits_loop {wake : Option ℕ} (h : (c.call decode).move now st lane = .waits wake) :
    (Retry.loop c.policy st.request.description (attempt (T := T) st.request decode)
      (.start c.layers st.request)).move now st.phase lane = .waits wake := by
  have moves := Process.lift_waits h
  simp only [loop, Process.thenReport] at moves
  split at moves
  · cases moves
  · exact moves

theorem call_goes_cases (h : (c.call decode).move now st lane = .goes st' lane' events) :
    st'.request = st.request ∧
      ((∃ n pass pass' events, st.phase = .attempting n pass ∧ st'.phase = .attempting n pass' ∧
          Chain.process.move now pass lane = .goes pass' lane' events) ∨
        (∃ n exchange wake failure, st.phase = .attempting n (.leaving exchange []) ∧
          st'.phase = .waiting n wake ∧ lane' = lane ∧
          resultOf st.request decode exchange = .error (.transient failure)) ∨
        ∃ n wake, st.phase = .waiting n wake ∧
          st'.phase = .attempting (min (n + 1) Retry.lastAttempt) (.start c.layers st.request) ∧
          lane' = lane) := by
  obtain ⟨phase', _, rfl, looped⟩ := call_goes_loop h
  refine ⟨rfl, ?_⟩
  rcases Retry.loop_goes looped with ⟨n, pass, pass', hp, rfl, _, attempted⟩ |
    ⟨n, pass, wake, hp, rfl, result, _, attempted, d, failure, ruled⟩ | ⟨n, wake, hp, rfl, rfl⟩
  · obtain ⟨pass'', w, passed, rfl, rfl⟩ := Process.lift_goes attempted
    exact .inl ⟨n, pass, pass'', _, hp, rfl, passed⟩
  · obtain ⟨exchange, w, passed, rfl, rfl⟩ := Process.lift_ends attempted
    obtain ⟨rfl, same⟩ := Chain.process_ends_leaving passed
    exact .inr (.inl ⟨n, exchange, wake, failure, hp, rfl, same, Retry.Policy.verdict_wait ruled⟩)
  · exact .inr (.inr ⟨n, wake, hp, rfl, rfl⟩)

theorem call_ends_cases {result : Except CallError (Outcome V)}
    (h : (c.call decode).move now st lane = .ends result lane' events) :
    ∃ n exchange, st.phase = .attempting n (.leaving exchange []) ∧ lane' = lane ∧
      (result = resultOf st.request decode exchange ∨
        ∃ failure, resultOf st.request decode exchange = .error (.transient failure) ∧
          result = .error (.retryExhausted st.request.description n failure)) := by
  obtain ⟨_, looped⟩ := call_ends_loop h
  obtain ⟨n, pass, hp, attempt, _, attempted, ruled⟩ := Retry.loop_ends looped
  obtain ⟨exchange, w, passed, rfl, rfl⟩ := Process.lift_ends attempted
  obtain ⟨rfl, same⟩ := Chain.process_ends_leaving passed
  refine ⟨n, exchange, hp, same, ?_⟩
  rcases ruled with ruled | ⟨failure, ruled, rfl⟩
  · exact .inl (Retry.Policy.verdict_return ruled)
  · exact .inr ⟨failure, Retry.Policy.verdict_giveUp ruled, rfl⟩

end Client

namespace Job

variable {R T U S V P : Type} [Scalar R] [Transport T] {now : ℕ} {job job' : Job R U S V P}
  {lane lane' : Lane R T U} {events : List (Event R)}

theorem goes_cases (h : Job.process.move now job lane = .goes job' lane' events) :
    job'.place = job.place ∧ job'.errand.client? = job.errand.client? ∧
      ((∃ pass pass' events, job.errand.pass? = some pass ∧ job'.errand.pass? = some pass' ∧
          Chain.process.move now pass lane = .goes pass' lane' events) ∨
        (∃ pass result events, job.errand.pass? = some pass ∧ job'.errand.pass? = none ∧
          Chain.process.move now pass lane = .ends result lane' events) ∨
        ∃ client request, job.errand.client? = some client ∧ job.errand.pass? = none ∧
          job'.errand.pass? = some (.start client.layers request) ∧ lane' = lane) := by
  obtain ⟨place, errand⟩ := job
  cases errand with
  | call client decode state =>
    obtain ⟨state', w, moves, rfl, rfl⟩ := Process.lift_goes h
    refine ⟨rfl, rfl, ?_⟩
    obtain ⟨-, ⟨n, pass, pass', _, old, new, passed⟩ | ⟨n, exchange, wake, _, old, new, rfl, -⟩ |
      ⟨n, wake, old, new, rfl⟩⟩ := Client.call_goes_cases moves
    · exact .inl ⟨pass, pass', _, congrArg Retry.Phase.attempt? old,
        congrArg Retry.Phase.attempt? new, passed⟩
    · exact .inr (.inl ⟨.leaving exchange [], exchange, _, congrArg Retry.Phase.attempt? old,
        congrArg Retry.Phase.attempt? new, rfl⟩)
    · exact .inr (.inr ⟨client, state.request, rfl, congrArg Retry.Phase.attempt? old,
        congrArg Retry.Phase.attempt? new, rfl⟩)
  | branch pass =>
    obtain ⟨pass', w, moves, rfl, rfl⟩ := Process.lift_goes h
    exact ⟨rfl, rfl, .inl ⟨pass, pass', _, rfl, rfl, moves⟩⟩

theorem ends_cases (h : Job.process.move now job lane = .ends () lane' events) :
    ∃ pass result events, job.errand.pass? = some pass ∧
      Chain.process.move now pass lane = .ends result lane' events := by
  obtain ⟨place, errand⟩ := job
  cases errand with
  | call client decode state =>
    obtain ⟨result, w, moves, -, rfl⟩ := Process.lift_ends h
    obtain ⟨n, exchange, here, rfl, -⟩ := Client.call_ends_cases moves
    exact ⟨.leaving exchange [], exchange, _, congrArg Retry.Phase.attempt? here, rfl⟩
  | branch pass =>
    obtain ⟨result, w, moves, -, rfl⟩ := Process.lift_ends h
    exact ⟨pass, result, _, rfl, moves⟩

theorem process_goes [Scalar.Lawful R]
    (h : Job.process.move now job lane = .goes job' lane' events) (proper : job.errand.Proper) :
    job'.place = job.place ∧ job'.errand.Proper ∧
      lane.Deals now job.errand.hand lane' job'.errand.hand := by
  obtain ⟨place, -, ⟨pass, pass', _, old, new, goes⟩ | ⟨pass, result, _, old, new, ends⟩ |
    ⟨client, request, -, old, new, rfl⟩⟩ := goes_cases h
  · obtain ⟨proper', deals⟩ := Chain.process_goes goes (proper pass old)
    refine ⟨place, fun p hp => ?_, ?_⟩
    · rw [new] at hp
      cases hp
      exact proper'
    · rw [Errand.hand_some old, Errand.hand_some new]
      exact deals
  · obtain ⟨-, rfl⟩ := Chain.process_ends ends
    refine ⟨place, fun p hp => ?_, ?_⟩
    · rw [new] at hp
      cases hp
    · rw [Errand.hand_none new]
      exact Lane.deals_of_keep rfl rfl (fun _ h => h) ⟨zero_le, zero_le⟩
  · obtain ⟨fresh, none⟩ := Chain.Pass.start_proper client.guarded_layers request
    refine ⟨place, fun p hp => ?_, ?_⟩
    · rw [new] at hp
      cases hp
      exact fresh
    · rw [Errand.hand_none old, Errand.hand_some new, none]
      exact Lane.deals_of_keep rfl rfl (fun _ h => h) le_rfl

theorem process_ends (h : Job.process.move now job lane = .ends () lane' events) :
    job.errand.hand = 0 ∧ lane' = lane := by
  obtain ⟨pass, result, _, old, ends⟩ := ends_cases h
  rw [Errand.hand_some old]
  exact Chain.process_ends ends

theorem process_abandon (job : Job R U S V P) (lane : Lane R T U) :
    Job.process.abandon job lane = lane := by
  obtain ⟨place, errand⟩ := job
  cases errand with
  | call client decode state =>
    obtain ⟨request, phase⟩ := state
    cases phase <;> rfl
  | branch pass => rfl

omit [Scalar R] in
theorem hand_of_pauses {pass : Chain.Pass R U S} (h : pass.pauses = true) : pass.hand = 0 := by
  unfold Chain.Pass.pauses at h
  split at h
  · rfl
  · rfl
  · cases h

theorem hand_of_idle {later : ℕ} (h : job.idle now later lane = true) :
    job.errand.hand.2 = 0 ∧ ∀ slot ∈ job.errand.hand.1, later ≤ Instant.tick slot := by
  simp only [Errand.hand]
  split
  · next pass hp =>
    simp only [Job.idle, hp, Option.any_some, Bool.or_eq_true] at h
    rcases h with pauses | idle
    · rw [hand_of_pauses pauses]
      simp
    · split at idle
      · next wake waits =>
        have moves : Chain.process.move now pass lane = .waits wake := by
          obtain ⟨place, errand⟩ := job
          cases errand with
          | call client decode state =>
            have looped := Client.call_waits_loop (Process.lift_waits waits)
            exact Process.lift_waits (Retry.loop_waits looped pass hp)
          | branch pass' =>
            cases hp
            exact Process.lift_waits waits
        obtain ⟨none, slots⟩ := Chain.process_waits moves
        refine ⟨none, fun slot hs => ?_⟩
        obtain ⟨w, hw, before⟩ := slots slot hs
        cases hw
        exact (by simpa using idle : later ≤ Instant.tick w).trans before
      · cases idle
  · simp

end Job

end PacedCalls
