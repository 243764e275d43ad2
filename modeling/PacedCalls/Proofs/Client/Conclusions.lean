import PacedCalls.Proofs.Client.Exchanges
import PacedCalls.Proofs.Retry.Course

/-!
What comes of a process that has a transport to itself. While it is under way the clock may stand
anywhere, and others may do whatever they like with the controller and with what the users keep; a
process settles if all this makes no difference, and if it comes to its end when it is left alone.
-/

set_option autoImplicit false

namespace PacedCalls

/-- What a run comes to: what was heard, how often its own moves raised and lowered the rate, what
was returned, and how the transport was left. -/
structure Upshot (T α : Type) where
  heard : List Exchange := []
  swayed : ℕ × ℕ := 0
  value : α
  left : T

namespace Upshot

variable {T α β : Type}

def after (a : Upshot T α) (heard : List Exchange) (swayed : ℕ × ℕ) : Upshot T α :=
  { a with heard := heard ++ a.heard, swayed := swayed + a.swayed }

def map (f : α → β) (a : Upshot T α) : Upshot T β :=
  { heard := a.heard, swayed := a.swayed, value := f a.value, left := a.left }

@[simp]
theorem after_nil (a : Upshot T α) : a.after [] 0 = a := by
  simp [after]

theorem after_after (a : Upshot T α) (heard more : List Exchange) (swayed also : ℕ × ℕ) :
    (a.after more also).after heard swayed = a.after (heard ++ more) (swayed + also) := by
  simp [after, add_assoc]

end Upshot

def Transport.answer {T : Type} [Transport T] (request : Request) (t : T) : Exchange :=
  (Transport.exchange request t).1.result

def Transport.next {T : Type} [Transport T] (request : Request) (t : T) : T :=
  (Transport.exchange request t).2

/-- How often the rate was raised and lowered from one lane to the other. -/
def Lane.swayed {R T U : Type} (lane lane' : Lane R T U) : ℕ × ℕ :=
  (lane'.governor.increases - lane.governor.increases,
    lane'.governor.decreases - lane.governor.decreases)

theorem Lane.swayed_of_eq {R T U : Type} {lane lane' : Lane R T U}
    (raised : lane'.governor.increases = lane.governor.increases)
    (lowered : lane'.governor.decreases = lane.governor.decreases) : lane.swayed lane' = 0 := by
  simp [swayed, raised, lowered]

namespace Process

variable {ν σ s t α β : Type}

/-- A process that is left alone: where it waits, the clock goes on to the instant it waits for. -/
inductive Alone (p : Process ν σ s α) : ℕ → s → σ → α → σ → Prop where
  | ends {now : ℕ} {st : s} {w w' : σ} {a : α} {events : List ν}
    (ends : p.move now st w = .ends a w' events) : Alone p now st w a w'
  | goes {now : ℕ} {st st' : s} {w w₁ w' : σ} {a : α} {events : List ν}
    (moves : p.move now st w = .goes st' w₁ events) (rest : Alone p now st' w₁ a w') :
    Alone p now st w a w'
  | rests {now moment : ℕ} {st : s} {w w' : σ} {a : α}
    (waits : p.move now st w = .waits (some moment))
    (rest : Alone p (max now (Instant.tick moment)) st w a w') : Alone p now st w a w'

inductive MoveWraps (state : s → t) (value : α → β) : Move ν σ s α → Move ν σ t β → Prop where
  | waits (wake : Option ℕ) : MoveWraps state value (.waits wake) (.waits wake)
  | goes (st : s) (w : σ) (events events' : List ν) :
    MoveWraps state value (.goes st w events) (.goes (state st) w events')
  | ends (a : α) (w : σ) (events events' : List ν) :
    MoveWraps state value (.ends a w events) (.ends (value a) w events')

def Wraps (p : Process ν σ s α) (q : Process ν σ t β) (state : s → t) (value : α → β) : Prop :=
  ∀ now st w, MoveWraps state value (p.move now st w) (q.move now (state st) w)

theorem wraps_lift (state : s → t) (value : α → β) (m : Move ν σ s α) :
    MoveWraps state value m (m.lift state value id) := by
  cases m with
  | waits wake => exact .waits wake
  | goes st w events => exact .goes st w events events
  | ends a w events => exact .ends a w events events

theorem wraps_map (p : Process ν σ s α) (f : α → β) : p.Wraps (p.map f) id f :=
  fun _ _ _ => wraps_lift id f _

theorem wraps_thenReport (p : Process ν σ s α) (f : α → List ν) :
    p.Wraps (p.thenReport f) id id := by
  intro now st w
  simp only [thenReport, id_eq]
  cases p.move now st w with
  | waits wake => exact .waits wake
  | goes st w events => exact .goes st w events events
  | ends a w events => exact .ends a w events _

theorem wraps_announce (p : Process ν σ s α) (events : List ν) :
    p.Wraps (p.announce events) (false, ·) id :=
  fun _ _ _ => wraps_lift _ _ _

theorem Wraps.trans {u γ : Type} {p : Process ν σ s α} {q : Process ν σ t β} {r : Process ν σ u γ}
    {e : s → t} {e' : t → u} {f : α → β} {f' : β → γ} (first : p.Wraps q e f)
    (next : q.Wraps r e' f') : p.Wraps r (e' ∘ e) (f' ∘ f) := by
  intro now st w
  have inner := first now st w
  have outer := next now (e st) w
  show MoveWraps (e' ∘ e) (f' ∘ f) _ (r.move now (e' (e st)) w)
  generalize p.move now st w = m at inner ⊢
  generalize q.move now (e st) w = m' at inner outer
  generalize r.move now (e' (e st)) w = m'' at outer ⊢
  cases inner <;> cases outer <;> constructor

theorem Wraps.alone {p : Process ν σ s α} {q : Process ν σ t β} {e : s → t} {f : α → β}
    (wraps : p.Wraps q e f) {now : ℕ} {st : s} {w w' : σ} {a : α} (alone : p.Alone now st w a w') :
    q.Alone now (e st) w (f a) w' := by
  induction alone with
  | @ends now st w w' a events ends =>
    have wrapped := wraps now st w
    rw [ends] at wrapped
    generalize moved : q.move now (e st) w = m at wrapped
    cases wrapped
    exact .ends moved
  | @goes now st st' w w₁ w' a events moves _ ih =>
    have wrapped := wraps now st w
    rw [moves] at wrapped
    generalize moved : q.move now (e st) w = m at wrapped
    cases wrapped
    exact .goes moved ih
  | @rests now moment st w w' a waits _ ih =>
    have wrapped := wraps now st w
    rw [waits] at wrapped
    generalize moved : q.move now (e st) w = m at wrapped
    cases wrapped
    exact .rests moved ih

end Process

section

variable {R T U s α : Type} [Transport T] {p : Process (Event R) (Lane R T U) s α}
  {sends? : s → Option Request}

/-- A run of a process that nobody shares the transport with; at each move the clock, the controller
and what the users keep are as they happen to be. -/
inductive Concludes (p : Process (Event R) (Lane R T U) s α) (sends? : s → Option Request) :
    s → T → Upshot T α → Prop where
  | ends {st : s} {t : T} {now : ℕ} {lane lane' : Lane R T U} {value : α} {events : List (Event R)}
      (held : lane.remote.transport = t) (ends : p.move now st lane = .ends value lane' events) :
      Concludes p sends? st t
        { heard := ((sends? st).map (Transport.answer · t)).toList, swayed := lane.swayed lane'
          value := value, left := lane'.remote.transport }
  | goes {st st' : s} {t : T} {now : ℕ} {lane lane' : Lane R T U} {events : List (Event R)}
      {a : Upshot T α} (held : lane.remote.transport = t)
      (moves : p.move now st lane = .goes st' lane' events)
      (rest : Concludes p sends? st' lane'.remote.transport a) :
      Concludes p sends? st t
        (a.after ((sends? st).map (Transport.answer · t)).toList (lane.swayed lane'))

/-- Every run comes to the same, and alone a process gets there from any lane at any instant. -/
structure Settles (p : Process (Event R) (Lane R T U) s α) (sends? : s → Option Request) (st : s)
    (t : T) (a : Upshot T α) : Prop where
  always : ∀ a', Concludes p sends? st t a' → a' = a
  alone : ∀ (now : ℕ) (lane : Lane R T U), lane.remote.transport = t →
    ∃ lane', p.Alone now st lane a.value lane' ∧ lane'.remote.transport = a.left

variable {st : s} {t t' : T} {a : Upshot T α}

theorem Concludes.first_move (run : Concludes p sends? st t a) :
    ∃ (now : ℕ) (lane : Lane R T U), lane.remote.transport = t ∧
      ((∃ lane' value events, p.move now st lane = .ends value lane' events ∧
          a = { heard := ((sends? st).map (Transport.answer · t)).toList
                swayed := lane.swayed lane', value := value, left := lane'.remote.transport }) ∨
        ∃ st' lane' events rest, p.move now st lane = .goes st' lane' events ∧
          Concludes p sends? st' lane'.remote.transport rest ∧
          a = rest.after ((sends? st).map (Transport.answer · t)).toList (lane.swayed lane')) := by
  cases run with
  | ends held ends => exact ⟨_, _, held, .inl ⟨_, _, _, ends, rfl⟩⟩
  | goes held moves rest => exact ⟨_, _, held, .inr ⟨_, _, _, _, moves, rest, rfl⟩⟩

theorem Concludes.exists_lane (h : Concludes p sends? st t a) :
    ∃ lane : Lane R T U, lane.remote.transport = t := by
  cases h with
  | ends held => exact ⟨_, held⟩
  | goes held => exact ⟨_, held⟩

theorem Concludes.of_alone {now : ℕ} {lane lane' : Lane R T U} {value : α}
    (alone : p.Alone now st lane value lane') :
    ∃ a, Concludes p sends? st lane.remote.transport a := by
  induction alone with
  | ends ends => exact ⟨_, .ends rfl ends⟩
  | goes moves _ ih =>
    obtain ⟨a, rest⟩ := ih
    exact ⟨_, .goes rfl moves rest⟩
  | rests _ _ ih => exact ih

theorem Settles.concludes (settles : Settles p sends? st t a) (lane : Lane R T U)
    (held : lane.remote.transport = t) : Concludes p sends? st t a := by
  obtain ⟨lane', alone, -⟩ := settles.alone 0 lane held
  obtain ⟨a', run⟩ : ∃ a', Concludes p sends? st lane.remote.transport a' :=
    Concludes.of_alone alone
  rw [held] at run
  exact settles.always a' run ▸ run

theorem Settles.of_ends {value : α} (silent : sends? st = none)
    (ends : ∀ (now : ℕ) (lane : Lane R T U), ∃ events,
      p.move now st lane = .ends value lane events) :
    Settles p sends? st t { value := value, left := t } where
  always a' run := by
    obtain ⟨now, lane, held, first⟩ := run.first_move
    obtain ⟨lane', value, _, ended, rfl⟩ | ⟨_, _, _, _, moves, -⟩ := first
    · obtain ⟨_, same⟩ := ends now lane
      cases same.symm.trans ended
      rw [silent, held, lane.swayed_of_eq rfl rfl]
      rfl
    · obtain ⟨_, same⟩ := ends now lane
      cases same.symm.trans moves
  alone now lane held := by
    obtain ⟨_, ended⟩ := ends now lane
    exact ⟨lane, .ends ended, held⟩

def Leads (p : Process (Event R) (Lane R T U) s α) (t' : T) (swayed : ℕ × ℕ) (next : s → Prop)
    (now : ℕ) (st : s) (lane : Lane R T U) : Prop :=
  ∃ st' lane' events, p.move now st lane = .goes st' lane' events ∧
    lane'.remote.transport = t' ∧ lane.swayed lane' = swayed ∧ next st'

theorem Settles.of_moves {swayed : ℕ × ℕ}
    (moves : ∀ lane : Lane R T U, lane.remote.transport = t → ∃ moment, ∀ now,
      if Instant.due moment now then
        Leads p t' swayed (fun st' => Settles p sends? st' t' a) now st lane
      else p.move now st lane = .waits (some moment)) :
    Settles p sends? st t (a.after ((sends? st).map (Transport.answer · t)).toList swayed) where
  always a' run := by
    obtain ⟨now, lane, held, first⟩ := run.first_move
    obtain ⟨moment, at_⟩ := moves lane held
    have here := at_ now
    split at here
    · obtain ⟨_, _, _, goes, rfl, rfl, settles⟩ := here
      obtain ⟨_, _, _, ended, -⟩ | ⟨_, _, _, rest, went, run, rfl⟩ := first
      · cases goes.symm.trans ended
      · cases goes.symm.trans went
        rw [settles.always _ run]
    · obtain ⟨_, _, _, ended, -⟩ | ⟨_, _, _, _, went, -⟩ := first
      · cases here.symm.trans ended
      · cases here.symm.trans went
  alone now lane held := by
    obtain ⟨moment, at_⟩ := moves lane held
    have leads (now : ℕ) (due : Instant.due moment now = true) :
        ∃ lane', p.Alone now st lane a.value lane' ∧ lane'.remote.transport = a.left := by
      have here := at_ now
      rw [if_pos due] at here
      obtain ⟨_, lane₁, _, goes, held', -, settles⟩ := here
      obtain ⟨lane', alone, left⟩ := settles.alone now lane₁ held'
      exact ⟨lane', .goes goes alone, left⟩
    by_cases due : Instant.due moment now = true
    · exact leads now due
    · have here := at_ now
      rw [if_neg due] at here
      have later : Instant.due moment (max now (Instant.tick moment)) = true := by
        rw [Instant.due, decide_eq_true_eq]
        exact le_max_right _ _
      obtain ⟨lane', alone, left⟩ := leads _ later
      exact ⟨lane', .rests here alone, left⟩

theorem Settles.of_move {swayed : ℕ × ℕ}
    (moves : ∀ (now : ℕ) (lane : Lane R T U), lane.remote.transport = t →
      Leads p t' swayed (fun st' => Settles p sends? st' t' a) now st lane) :
    Settles p sends? st t (a.after ((sends? st).map (Transport.answer · t)).toList swayed) := by
  have due (now : ℕ) : Instant.due 0 now = true := decide_eq_true (Nat.zero_le now)
  have ready (lane : Lane R T U) (held : lane.remote.transport = t) : ∃ moment, ∀ now,
      if Instant.due moment now then
        Leads p t' swayed (fun st' => Settles p sends? st' t' a) now st lane
      else p.move now st lane = .waits (some moment) :=
    ⟨0, fun now => by rw [if_pos (due now)]; exact moves now lane held⟩
  exact .of_moves ready

theorem concludes_iff_of_idle {idle : s}
    (moves : ∀ (now : ℕ) (lane : Lane R T U), ∃ events, p.move now idle lane = .goes st lane events)
    (silent : sends? idle = none) : Concludes p sends? idle t a ↔ Concludes p sends? st t a := by
  constructor
  · intro run
    obtain ⟨now, lane, held, first⟩ := run.first_move
    obtain ⟨_, _, _, ended, -⟩ | ⟨_, _, _, rest, went, run, rfl⟩ := first
    · obtain ⟨_, goes⟩ := moves now lane
      cases goes.symm.trans ended
    · obtain ⟨_, goes⟩ := moves now lane
      cases goes.symm.trans went
      rw [held] at run
      rw [silent, lane.swayed_of_eq rfl rfl]
      simpa using run
  · intro run
    obtain ⟨lane, held⟩ := run.exists_lane
    obtain ⟨_, goes⟩ := moves 0 lane
    have first : Concludes p sends? idle t _ := .goes held goes (held.symm ▸ run)
    rw [silent, lane.swayed_of_eq rfl rfl] at first
    simpa using first

theorem Settles.of_idle {idle : s}
    (moves : ∀ (now : ℕ) (lane : Lane R T U), ∃ events, p.move now idle lane = .goes st lane events)
    (silent : sends? idle = none) (settles : Settles p sends? st t a) :
    Settles p sends? idle t a where
  always a' run := settles.always a' ((concludes_iff_of_idle moves silent).mp run)
  alone now lane held := by
    obtain ⟨_, goes⟩ := moves now lane
    obtain ⟨lane', alone, left⟩ := settles.alone now lane held
    exact ⟨lane', .goes goes alone, left⟩

section

variable {u β : Type} {q : Process (Event R) (Lane R T U) u β} {asks? : u → Option Request}
  {e : s → u} {f : α → β}

theorem Process.Wraps.concludes (wraps : p.Wraps q e f) (sends : ∀ st, asks? (e st) = sends? st)
    {b : Upshot T β} (run : Concludes q asks? (e st) t b) :
    ∃ a, Concludes p sends? st t a ∧ b = a.map f := by
  generalize begun : e st = st₀ at run
  induction run generalizing st with
  | @ends _ t now lane lane' value events held ends =>
    subst begun
    have wrapped := wraps now st lane
    rw [ends] at wrapped
    generalize moved : p.move now st lane = m at wrapped
    cases wrapped
    exact ⟨_, .ends held moved, by rw [sends]; rfl⟩
  | @goes _ _ t now lane lane' events b held moves _ ih =>
    subst begun
    have wrapped := wraps now st lane
    rw [moves] at wrapped
    generalize moved : p.move now st lane = m at wrapped
    cases wrapped
    obtain ⟨a, rest, rfl⟩ := ih rfl
    exact ⟨_, .goes held moved rest, by rw [sends]; rfl⟩

theorem Process.Wraps.settles (wraps : p.Wraps q e f) (sends : ∀ st, asks? (e st) = sends? st)
    (settles : Settles p sends? st t a) : Settles q asks? (e st) t (a.map f) where
  always b run := by
    obtain ⟨a', run', rfl⟩ := wraps.concludes sends run
    rw [settles.always a' run']
  alone now lane held := by
    obtain ⟨lane', alone, left⟩ := settles.alone now lane held
    exact ⟨lane', wraps.alone alone, left⟩

end

namespace Retry

variable [Scalar R] {policy : Policy R} {target : String} {fresh : s}
  {work : Process (Event R) (Lane R T U) s (Except CallError α)} {n : ℕ}
  {a b : Upshot T (Except CallError α)}

/-- From an attempt that has come to something, to what the whole loop comes to. -/
inductive Resolves (policy : Policy R) (target : String)
    (work : Process (Event R) (Lane R T U) s (Except CallError α)) (sends? : s → Option Request)
    (fresh : s) : ℕ → Upshot T (Except CallError α) → Upshot T (Except CallError α) → Prop where
  | returns {n : ℕ} {a : Upshot T (Except CallError α)} {result : Except CallError α}
      (ruled : policy.verdict n a.value = .return result) :
      Resolves policy target work sends? fresh n a { a with value := result }
  | givesUp {n : ℕ} {a : Upshot T (Except CallError α)} {failure : TransportError}
      (ruled : policy.verdict n a.value = .giveUp failure) :
      Resolves policy target work sends? fresh n a
        { a with value := .error (.retryExhausted target n failure) }
  | again {n d : ℕ} {a next b : Upshot T (Except CallError α)} {failure : TransportError}
      (ruled : policy.verdict n a.value = .wait d failure)
      (run : Concludes work sends? fresh a.left next)
      (rest : Resolves policy target work sends? fresh (min (n + 1) lastAttempt) next b) :
      Resolves policy target work sends? fresh n a (b.after a.heard a.swayed)

theorem Resolves.after {heard : List Exchange} {swayed : ℕ × ℕ}
    (h : Resolves policy target work sends? fresh n a b) :
    Resolves policy target work sends? fresh n (a.after heard swayed) (b.after heard swayed) := by
  cases h with
  | returns ruled => exact .returns (a := a.after heard swayed) ruled
  | givesUp ruled => exact .givesUp (a := a.after heard swayed) ruled
  | again ruled run rest =>
    rw [Upshot.after_after]
    exact .again (a := a.after heard swayed) ruled run rest

def Phase.upcoming (fresh : s) : Phase s → ℕ × s
  | .attempting n st => (n, st)
  | .waiting n _ => (min (n + 1) lastAttempt, fresh)

theorem Resolves.of_concludes {phase : Phase s}
    (run : Concludes (loop policy target work fresh) (·.attempt?.bind sends?) phase t b) :
    ∃ a, Concludes work sends? (phase.upcoming fresh).2 t a ∧
      Resolves policy target work sends? fresh (phase.upcoming fresh).1 a b := by
  induction run with
  | ends held ends =>
    obtain ⟨n, st, rfl, attempted, _, ended, ruled | ⟨failure, ruled, rfl⟩⟩ := loop_ends ends
    · exact ⟨_, .ends held ended, .returns ruled⟩
    · exact ⟨_, .ends held ended, .givesUp ruled⟩
  | goes held moves _ ih =>
    obtain ⟨a, run, resolves⟩ := ih
    obtain ⟨n, st, st', rfl, rfl, _, went⟩ |
      ⟨n, st, wake, rfl, rfl, result, _, ended, d, failure, ruled⟩ | ⟨n, wake, rfl, rfl, rfl⟩ :=
        loop_goes moves
    · exact ⟨_, .goes held went run, resolves.after⟩
    · exact ⟨_, .ends held ended, .again ruled run resolves⟩
    · rw [held] at run
      rw [Lane.swayed_of_eq rfl rfl]
      refine ⟨a, run, ?_⟩
      simpa [Phase.attempt?, Phase.upcoming] using resolves

theorem Resolves.unique {b' : Upshot T (Except CallError α)}
    (works : ∀ t a, Concludes work sends? fresh t a → Settles work sends? fresh t a)
    (h : Resolves policy target work sends? fresh n a b)
    (h' : Resolves policy target work sends? fresh n a b') : b' = b := by
  induction h generalizing b' with
  | returns ruled =>
    cases h' with
    | returns ruled' =>
      cases ruled.symm.trans ruled'
      rfl
    | givesUp ruled' => cases ruled.symm.trans ruled'
    | again ruled' => cases ruled.symm.trans ruled'
  | givesUp ruled =>
    cases h' with
    | returns ruled' => cases ruled.symm.trans ruled'
    | givesUp ruled' =>
      cases ruled.symm.trans ruled'
      rfl
    | again ruled' => cases ruled.symm.trans ruled'
  | again ruled run rest ih =>
    cases h' with
    | returns ruled' => cases ruled.symm.trans ruled'
    | givesUp ruled' => cases ruled.symm.trans ruled'
    | again ruled' run' rest' =>
      obtain rfl := (works _ _ run).always _ run'
      rw [ih rest']

omit [Transport T] in
theorem exists_alone_loop {now : ℕ} {st : s} {lane lane' : Lane R T U}
    {attempted value : Except CallError α} {P : Lane R T U → Prop}
    (alone : work.Alone now st lane attempted lane')
    (finish : ∀ later last w events, work.move later last w = .ends attempted lane' events →
      ∃ lane'', (loop policy target work fresh).Alone later (.attempting n last) w value lane'' ∧
        P lane'') :
    ∃ lane'', (loop policy target work fresh).Alone now (.attempting n st) lane value lane'' ∧
      P lane'' := by
  induction alone with
  | ends ends => exact finish _ _ _ _ ends
  | goes moves _ ih =>
    obtain ⟨lane'', alone, left⟩ := ih finish
    exact ⟨lane'', .goes (loop_of_goes moves) alone, left⟩
  | rests waits _ ih =>
    obtain ⟨lane'', alone, left⟩ := ih finish
    exact ⟨lane'', .rests (loop_of_waits waits) alone, left⟩

omit [Transport T] in
theorem exists_alone_waiting {wake : ℕ} {lane : Lane R T U} {value : Except CallError α}
    {P : Lane R T U → Prop}
    (next : ∀ now, ∃ lane', (loop policy target work fresh).Alone now
      (.attempting (min (n + 1) lastAttempt) fresh) lane value lane' ∧ P lane') (now : ℕ) :
    ∃ lane', (loop policy target work fresh).Alone now (.waiting n wake) lane value lane' ∧
      P lane' := by
  by_cases due : Instant.due wake now = true
  · obtain ⟨lane', alone, left⟩ := next now
    exact ⟨lane', .goes (loop_of_due due) alone, left⟩
  · obtain ⟨lane', alone, left⟩ := next (max now (Instant.tick wake))
    have later : Instant.due wake (max now (Instant.tick wake)) = true := by
      rw [Instant.due, decide_eq_true_eq]
      exact le_max_right _ _
    exact ⟨lane', .rests (loop_of_not_due (Bool.eq_false_iff.mpr due))
      (.goes (loop_of_due later) alone), left⟩

theorem Resolves.alone
    (works : ∀ t a, Concludes work sends? fresh t a → Settles work sends? fresh t a)
    (h : Resolves policy target work sends? fresh n a b) (settles : Settles work sends? st t a)
    (now : ℕ) (lane : Lane R T U) (held : lane.remote.transport = t) :
    ∃ lane', (loop policy target work fresh).Alone now (.attempting n st) lane b.value lane' ∧
      lane'.remote.transport = b.left := by
  induction h generalizing st t now lane with
  | returns ruled =>
    obtain ⟨lane', alone, left⟩ := settles.alone now lane held
    exact exists_alone_loop alone fun later last w events ends =>
      ⟨lane', .ends (loop_of_return ends ruled), left⟩
  | givesUp ruled =>
    obtain ⟨lane', alone, left⟩ := settles.alone now lane held
    exact exists_alone_loop alone fun later last w events ends =>
      ⟨lane', .ends (loop_of_giveUp ends ruled), left⟩
  | again ruled run rest ih =>
    obtain ⟨lane', alone, left⟩ := settles.alone now lane held
    refine exists_alone_loop alone fun later last w events ends => ?_
    obtain ⟨lane'', waited, left'⟩ :=
      exists_alone_waiting (fun now => ih (works _ _ run) now lane' left) later
    exact ⟨lane'', .goes (loop_of_wait ends ruled) waited, left'⟩

theorem settles_loop
    (works : ∀ t a, Concludes work sends? fresh t a → Settles work sends? fresh t a)
    (settles : Settles work sends? st t a)
    (resolves : Resolves policy target work sends? fresh n a b) :
    Settles (loop policy target work fresh) (·.attempt?.bind sends?) (.attempting n st) t b where
  always b' run := by
    obtain ⟨a', run', resolves'⟩ := Resolves.of_concludes run
    obtain rfl := settles.always a' run'
    exact resolves.unique works resolves'
  alone := resolves.alone works settles

end Retry

end

end PacedCalls
