import PacedCalls.Http.Raising
import PacedCalls.Proofs.Client.Conclusions
import PacedCalls.Proofs.Client.Meaning

/-!
Missing targets, raised or not. A response of 404 comes to a call as it is, or as a failure of the
transport. Whichever it is, a lookup finds the same and a call that has it reported is told the same
status; only where a missing target passes for a success it is told to the rate in another way.
-/

set_option autoImplicit false

namespace PacedCalls

def Rate.Limits.swayed {R : Type} [Scalar R] (l : Limits R) (times : ℕ × ℕ) : Limits R :=
  Limits.lower^[times.2] (Limits.raise^[times.1] l)

theorem Lane.limits_of_still {R T U : Type} [Scalar R] {lane lane' : Lane R T U}
    (limits : lane'.governor.limits = lane.governor.limits)
    (raised : lane'.governor.increases = lane.governor.increases)
    (lowered : lane'.governor.decreases = lane.governor.decreases) :
    lane'.governor.limits = lane.governor.limits.swayed (lane.swayed lane') := by
  rw [limits, swayed_of_eq raised lowered]
  rfl

namespace Chain

variable {R T U S : Type} [Scalar R]

theorem limits_feedback (count : Bool) (request : Request) (x : Exchange) (lane : Lane R T U) :
    (feedback count request x lane.governor).1.limits = lane.governor.limits.swayed
      (lane.swayed { lane with governor := (feedback count request x lane.governor).1 }) := by
  simp only [feedback]
  cases statusOf? request x with
  | none => simp [Lane.swayed, Rate.Limits.swayed]
  | some s =>
    cases ok : s.isOk with
    | true => simp [ok, Lane.swayed, Rate.Controller.increase, Rate.Limits.swayed]
    | false =>
      cases slow : slows count request.options s with
      | true => simp [ok, slow, Lane.swayed, Rate.Controller.decrease, Rate.Limits.swayed]
      | false => simp [ok, slow, Lane.swayed, Rate.Limits.swayed]

theorem limits_goes [Transport T] {now : ℕ} {pass pass' : Pass R U S} {lane lane' : Lane R T U}
    {events : List (Event R)} (h : process.move now pass lane = .goes pass' lane' events) :
    lane'.governor.limits = lane.governor.limits.swayed (lane.swayed lane') := by
  obtain ⟨governor, remote, user⟩ := lane'
  have affects : Affects now lane.governor governor := process_affects h
  cases affects with
  | keep => exact Lane.limits_of_still rfl rfl rfl
  | reserve => exact Lane.limits_of_still rfl rfl rfl
  | granted => exact Lane.limits_of_still rfl rfl rfl
  | grant => exact Lane.limits_of_still rfl rfl rfl
  | feedback count request result => exact limits_feedback count request result lane

def sways (count : Bool) (request : Request) (x : Exchange) : ℕ × ℕ :=
  match statusOf? request x with
  | none => 0
  | some s => (if s.isOk then 1 else 0, if slows count request.options s then 1 else 0)

theorem swayed_feedback (count : Bool) (request : Request) (x : Exchange) (lane : Lane R T U) :
    lane.swayed { lane with governor := (feedback count request x lane.governor).1 } =
      sways count request x := by
  simp only [sways, feedback, Lane.swayed]
  cases statusOf? request x with
  | none => simp
  | some s =>
    cases ok : s.isOk with
    | true => simp [ok, slows_of_isOk count request.options ok, Rate.Controller.increase]
    | false =>
      cases slow : slows count request.options s with
      | true => simp [ok, slow, Rate.Controller.decrease]
      | false => simp [ok, slow]

variable [Transport T]

def hearing (count : Bool) (request : Request) (t : T) : Upshot T Exchange where
  heard := [Transport.answer request t]
  swayed := sways count request (Transport.answer request t)
  value := Transport.answer request t
  left := Transport.next request t

abbrev Pass.ComesTo (pass : Pass R U S) (t : T) (a : Upshot T Exchange) : Prop :=
  Settles (process : Process (Event R) (Lane R T U) (Pass R U S) Exchange) Pass.sends? pass t a

section

variable (count : Bool) (request : Request) (x : Exchange) (t : T)

theorem comesTo_leaving :
    (Pass.leaving x [.tracing, .throttle count request] : Pass R U S).ComesTo t
      { swayed := sways count request x, value := x, left := t } := by
  have told : (Pass.leaving x [] : Pass R U S).ComesTo t { value := x, left := t } :=
    .of_ends rfl fun _ _ => ⟨[], rfl⟩
  have judged : (Pass.leaving x [.throttle count request] : Pass R U S).ComesTo t _ :=
    .of_move fun _ lane held => ⟨_, _, _, rfl, held, swayed_feedback count request x lane, told⟩
  have back : (Pass.leaving x [.tracing, .throttle count request] : Pass R U S).ComesTo t _ :=
    .of_move fun _ lane held => ⟨_, lane, _, rfl, held, lane.swayed_of_eq rfl rfl, judged⟩
  simpa [Upshot.after, Pass.sends?] using back

theorem comesTo_sent (arrival : ℕ) :
    (Pass.sent x arrival [.tracing, .throttle count request] : Pass R U S).ComesTo t
      { swayed := sways count request x, value := x, left := t } := by
  have sent : (Pass.sent x arrival [.tracing, .throttle count request] : Pass R U S).ComesTo t _ :=
    .of_moves fun lane held => ⟨arrival, fun now => by
      split
      · next due =>
        refine ⟨_, lane, [], ?_, held, lane.swayed_of_eq rfl rfl, comesTo_leaving count request x t⟩
        simp only [process, due, if_true]
      · next early =>
        simp only [process, early]
        rfl⟩
  simpa [Upshot.after, Pass.sends?] using sent

theorem comesTo_permitted :
    (Pass.entering [.tracing] request [.throttle count request] : Pass R U S).ComesTo t
      (hearing count request t) := by
  have sends (now : ℕ) (lane : Lane R T U) (held : lane.remote.transport = t) :
      ∃ arrival lane', (process (S := S)).move now
          (.entering [] request [.tracing, .throttle count request]) lane =
            .goes (.sent (Transport.answer request t) arrival [.tracing, .throttle count request])
              lane' [] ∧
        lane'.remote.transport = Transport.next request t ∧ lane.swayed lane' = 0 := by
    subst held
    exact ⟨_, _, rfl, rfl, lane.swayed_of_eq rfl rfl⟩
  have arrived : (Pass.entering [] request [.tracing, .throttle count request] :
      Pass R U S).ComesTo t _ :=
    .of_move fun now lane held => by
      obtain ⟨arrival, lane', moves, next, still⟩ := sends now lane held
      exact ⟨_, lane', _, moves, next, still, comesTo_sent count request _ _ arrival⟩
  have permitted : (Pass.entering [.tracing] request [.throttle count request] :
      Pass R U S).ComesTo t _ :=
    .of_move fun _ lane held => ⟨_, lane, _, rfl, held, lane.swayed_of_eq rfl rfl, arrived⟩
  simpa [Upshot.after, Pass.sends?, hearing] using permitted

theorem comesTo_queued (slot : ℕ) :
    (Pass.queued slot count [.tracing] request [] : Pass R U S).ComesTo t
      (hearing count request t) := by
  have queued : (Pass.queued slot count [.tracing] request [] : Pass R U S).ComesTo t _ :=
    .of_moves fun lane held => ⟨slot, fun now => by
      split
      · next due =>
        refine ⟨_, { lane with governor := lane.governor.grant }, [], ?_, held,
          lane.swayed_of_eq rfl rfl, comesTo_permitted count request t⟩
        simp only [process, due, if_true]
      · next early =>
        simp only [process, early]
        rfl⟩
  simpa [Upshot.after, Pass.sends?] using queued

end

theorem comesTo_start (count : Bool) (request : Request) (t : T) :
    (Pass.start [.throttle count, .tracing] request : Pass R U S).ComesTo t
      (hearing count request t) := by
  have start : (Pass.start [.throttle count, .tracing] request : Pass R U S).ComesTo t _ :=
    .of_move fun now lane held => by
      simp only [Leads, process, Pass.start, Pass.enter]
      split
      · exact ⟨_, _, _, rfl, held, lane.swayed_of_eq rfl rfl, comesTo_queued count request t _⟩
      · exact ⟨_, _, _, rfl, held, lane.swayed_of_eq rfl rfl, comesTo_permitted count request t⟩
  simpa [Upshot.after, Pass.sends?, Pass.start] using start

end Chain

namespace Client

variable {R T U S V : Type} [Scalar R] [Transport T] {c : Client R U S} {request : Request}
  {decode : Body.Reader V} {n : ℕ} {t : T}

def hearing (c : Client R U S) (request : Request) (decode : Body.Reader V) (t : T) :
    Upshot T (Except CallError (Outcome V)) :=
  (Chain.hearing c.countNotFound request t).map (resultOf request decode)

omit [Scalar R] in
theorem swayed_hearing (c : Client R U S) (request : Request) (decode : Body.Reader V) (t : T) :
    (c.hearing request decode t).swayed =
      ((c.hearing request decode t).heard.map (Chain.sways c.countNotFound request)).sum := by
  simp [hearing, Chain.hearing, Upshot.map]

abbrev Resolves (c : Client R U S) (request : Request) (decode : Body.Reader V) :
    ℕ → Upshot T (Except CallError (Outcome V)) → Upshot T (Except CallError (Outcome V)) →
      Prop :=
  Retry.Resolves c.policy request.description (attempt request decode) Chain.Pass.sends?
    (.start c.layers request)

theorem settles_attempt (bare : c.outer = []) (request : Request) (decode : Body.Reader V) (t : T) :
    Settles (attempt request decode : Process (Event R) (Lane R T U) _ _) Chain.Pass.sends?
      (.start c.layers request) t (c.hearing request decode t) := by
  rw [layers, bare]
  exact (Process.wraps_map Chain.process (resultOf request decode)).settles (fun _ => rfl)
    (Chain.comesTo_start c.countNotFound request t)

theorem settles_of_attempt (bare : c.outer = []) (request : Request) (decode : Body.Reader V)
    (t : T) (a : Upshot T (Except CallError (Outcome V)))
    (run : Concludes (attempt request decode : Process (Event R) (Lane R T U) _ _)
      Chain.Pass.sends? (.start c.layers request) t a) :
    Settles (attempt request decode : Process (Event R) (Lane R T U) _ _) Chain.Pass.sends?
      (.start c.layers request) t a := by
  have settles := settles_attempt bare request decode t
  rwa [settles.always a run]

theorem wraps_call (c : Client R U S) (request : Request) (decode : Body.Reader V) :
    (Retry.loop c.policy request.description
        (attempt request decode : Process (Event R) (Lane R T U) _ _)
        (.start c.layers request)).Wraps (c.call decode) (Call.mk request) id := by
  have named : (c.loop decode request : Process (Event R) (Lane R T U) _ _).Wraps (c.call decode)
      (Call.mk request) id := fun _ _ _ => Process.wraps_lift _ id _
  exact (Process.wraps_thenReport _ (finishEvents request)).trans named

theorem limits_goes {now : ℕ} {st st' : Call R U S} {lane lane' : Lane R T U}
    {events : List (Event R)} (h : (c.call decode).move now st lane = .goes st' lane' events) :
    lane'.governor.limits = lane.governor.limits.swayed (lane.swayed lane') := by
  obtain ⟨-, ⟨n, pass, pass', _, -, -, passed⟩ | ⟨n, x, wake, failure, -, -, rfl, -⟩ |
    ⟨n, wake, -, -, rfl⟩⟩ := call_goes_cases h
  · exact Chain.limits_goes passed
  · exact Lane.limits_of_still rfl rfl rfl
  · exact Lane.limits_of_still rfl rfl rfl

theorem resolves_of_call (bare : c.outer = []) {a : Upshot T (Except CallError (Outcome V))}
    (run : Concludes (c.call decode) Call.sends? (c.start request) t a) :
    c.Resolves request decode 1 (c.hearing request decode t) a := by
  obtain ⟨a', looped, rfl⟩ := (c.wraps_call request decode).concludes (fun _ => rfl) run
  obtain ⟨first, attempted, resolves⟩ := Retry.Resolves.of_concludes looped
  rwa [(settles_attempt bare request decode t).always first attempted] at resolves

theorem settles_call (bare : c.outer = []) {a : Upshot T (Except CallError (Outcome V))}
    (resolves : c.Resolves request decode 1 (c.hearing request decode t) a) :
    Settles (c.call decode) Call.sends? (c.start request) t a :=
  (c.wraps_call request decode).settles (fun _ => rfl)
    (Retry.settles_loop (settles_of_attempt bare request decode)
      (settles_attempt bare request decode t) resolves)

theorem Resolves.swayed (bare : c.outer = [])
    {first a : Upshot T (Except CallError (Outcome V))} (h : c.Resolves request decode n first a)
    (begun : first.swayed = (first.heard.map (Chain.sways c.countNotFound request)).sum) :
    a.swayed = (a.heard.map (Chain.sways c.countNotFound request)).sum := by
  induction h with
  | returns => exact begun
  | givesUp => exact begun
  | again _ run _ ih =>
    have next_eq := (settles_attempt bare request decode _).always _ run
    have rest := ih (next_eq ▸ c.swayed_hearing request decode _)
    simp only [Upshot.after, begun, rest, List.map_append, List.sum_append]

end Client

structure Exchange.Missing (r : Response) (x : Exchange) : Prop where
  code : r.status.val = 404
  form : x = .ok r ∨ x = .error (.notFound (Http.reportOf r))

/-- The same exchange, but that a missing target may be raised in one and not in the other. -/
inductive Exchange.Twins (x x' : Exchange) : Prop where
  | same (eq : x = x')
  | missing (r : Response) (here : Missing r x) (there : Missing r x')

/-- A transport over another one, which raises missing targets or does not. -/
def Http.raising {T : Type} (transient notFound : Bool) (t : T) : Raising T where
  raised := { transient := transient, notFound := notFound }
  inner := t

namespace Exchange

variable {T V : Type} [Transport T] {request : Request} {decode : Body.Reader V} {r : Response}
  {x : Exchange}

theorem missing_deliver (transient notFound : Bool) (code : r.status.val = 404) :
    Missing r (Http.Raised.deliver ⟨transient, notFound⟩ r) where
  code := code
  form := by
    cases notFound <;> simp [Http.Raised.deliver, Http.Raised.raises, Http.failureOf, code]

theorem deliver_eq (transient notFound notFound' : Bool) (other : r.status.val ≠ 404) :
    Http.Raised.deliver ⟨transient, notFound⟩ r = Http.Raised.deliver ⟨transient, notFound'⟩ r := by
  have raises : Http.Raised.raises ⟨transient, notFound⟩ r.status =
      Http.Raised.raises ⟨transient, notFound'⟩ r.status := by
    simp only [Http.Raised.raises]
    split
    · rfl
    · rfl
    · next code => exact absurd code other
    · rfl
  rw [Http.Raised.deliver, raises]
  rfl

theorem twins_answer (transient notFound notFound' : Bool) (request : Request) (t : T) :
    Twins (Transport.answer request (Http.raising transient notFound t))
      (Transport.answer request (Http.raising transient notFound' t)) := by
  show Twins ((Transport.answer request t).bind _) ((Transport.answer request t).bind _)
  cases Transport.answer request t with
  | error e => exact .same rfl
  | ok r =>
    by_cases code : r.status.val = 404
    · exact .missing r (missing_deliver transient notFound code)
        (missing_deliver transient notFound' code)
    · exact .same (deliver_eq transient notFound notFound' code)

theorem Missing.outcome (missing : Missing r x) (request : Request) (decode : Body.Reader V) :
    ∃ o, Client.resultOf request decode x = .ok o ∧
      Chain.statusOf? request x = some o.status ∧ o.toLookup = .notFound ∧
      (request.options.notFound = .report → o.status = .notFound) := by
  obtain ⟨code, rfl | rfl⟩ := missing
  · have status : r.callStatus = .notFound := by
      simp [Response.callStatus, Status.ofResponse, code]
    refine ⟨.failed .notFound (r.shortReport request), ?_, ?_, rfl, fun _ => rfl⟩
    · simp [Client.resultOf, Response.toOutcome, status]
    · simp [Chain.statusOf?, status, Outcome.failed]
  · cases policy : request.options.notFound with
    | absent =>
      refine ⟨.absent, ?_, ?_, rfl, fun reported => by cases reported⟩
      · simp [Client.resultOf, TransportError.toOutcome?, policy]
      · simp [Chain.statusOf?, TransportError.toOutcome?, policy, Outcome.absent]
    | report =>
      have told : Client.resultOf request decode (.error (.notFound (Http.reportOf r))) =
          .ok (.failed .notFound (request.description ++ ": " ++ Status.notFound.name ++ " " ++
            Http.reportOf r)) := by
        simp [Client.resultOf, TransportError.toOutcome?, policy]
      refine ⟨_, told, ?_, rfl, fun _ => rfl⟩
      simp [Chain.statusOf?, TransportError.toOutcome?, policy, Outcome.failed]

end Exchange

namespace Upshot

variable {T α V : Type}

def Missed (a a' : Upshot T α) : Prop :=
  ∃ r, ∃ x ∈ a.heard.getLast?, ∃ x' ∈ a'.heard.getLast?, x.Missing r ∧ x'.Missing r

theorem Missed.after {a a' : Upshot T α} (missed : a.Missed a') (heard heard' : List Exchange)
    (swayed swayed' : ℕ × ℕ) : (a.after heard swayed).Missed (a'.after heard' swayed') := by
  obtain ⟨r, x, last, x', last', missing⟩ := missed
  refine ⟨r, x, ?_, x', ?_, missing⟩
  · rw [Upshot.after, List.getLast?_append, Option.mem_def.mp last]
    rfl
  · rw [Upshot.after, List.getLast?_append, Option.mem_def.mp last']
    rfl

/-- What two calls come to that hear the same, but for the form of a missing target. -/
structure Alike (request : Request)
    (a a' : Upshot (Http.Raising T) (Except CallError (Outcome V))) : Prop where
  heard : List.Forall₂ Exchange.Twins a.heard a'.heard
  left : a.left.inner = a'.left.inner
  lookup : a.value.map Outcome.toLookup = a'.value.map Outcome.toLookup
  reported : request.options.notFound = .report →
    a.value.map Outcome.status = a'.value.map Outcome.status ∧ a.swayed = a'.swayed
  swayed : a.swayed = a'.swayed ∨ (request.options.notFound = .absent ∧ a.Missed a')

theorem Alike.of_left {request : Request}
    (a : Upshot (Http.Raising T) (Except CallError (Outcome V))) {t : Http.Raising T}
    (left : a.left.inner = t.inner) : a.Alike request { a with left := t } where
  heard := List.forall₂_same.mpr fun _ _ => .same rfl
  left := left
  lookup := rfl
  reported _ := ⟨rfl, rfl⟩
  swayed := .inl rfl

theorem Alike.after {request : Request}
    {a a' : Upshot (Http.Raising T) (Except CallError (Outcome V))} (alike : a.Alike request a')
    (x : Exchange) (swayed : ℕ × ℕ) :
    (a.after [x] swayed).Alike request (a'.after [x] swayed) where
  heard := .cons (.same rfl) alike.heard
  left := alike.left
  lookup := alike.lookup
  reported policy :=
    ⟨(alike.reported policy).1, congrArg (swayed + ·) (alike.reported policy).2⟩
  swayed := alike.swayed.imp (congrArg (swayed + ·)) fun ⟨policy, missed⟩ =>
    ⟨policy, missed.after _ _ _ _⟩

end Upshot

namespace Client

section

variable {R T U S V : Type} [Scalar R] [Transport T] {c : Client R U S} {request : Request}
  {decode : Body.Reader V} {n : ℕ} {transient notFound notFound' : Bool} {t : T}

theorem verdict_missing {r : Response} {x : Exchange} (missing : x.Missing r)
    (policy : Retry.Policy R) (n : ℕ) (request : Request) (decode : Body.Reader V) :
    policy.verdict n (resultOf request decode x) = .return (resultOf request decode x) := by
  obtain ⟨o, told, -⟩ := missing.outcome request decode
  rw [told]
  rfl

omit [Scalar R] in
/-- An attempt comes to the same but for the transport, unless it hears of a missing target. -/
theorem hearing_cases (c : Client R U S) (request : Request) (decode : Body.Reader V)
    (transient notFound notFound' : Bool) (t : T) :
    (c.hearing request decode (Http.raising transient notFound' t) =
      { c.hearing request decode (Http.raising transient notFound t) with
        left := Http.raising transient notFound' (Transport.next request t) }) ∨
    ∃ r, (Transport.answer request (Http.raising transient notFound t)).Missing r ∧
      (Transport.answer request (Http.raising transient notFound' t)).Missing r := by
  obtain same | ⟨r, here, there⟩ := Exchange.twins_answer transient notFound notFound' request t
  · left
    simp only [hearing, Chain.hearing, Upshot.map, same]
    rfl
  · exact .inr ⟨r, here, there⟩

theorem hearing_eq_of_verdict
    (ruled : ∀ result, c.policy.verdict n
      (c.hearing request decode (Http.raising transient notFound t)).value ≠ .return result) :
    c.hearing request decode (Http.raising transient notFound' t) =
      { c.hearing request decode (Http.raising transient notFound t) with
        left := Http.raising transient notFound' (Transport.next request t) } := by
  obtain same | ⟨r, here, -⟩ := c.hearing_cases request decode transient notFound notFound' t
  · exact same
  · exact absurd (verdict_missing here c.policy n request decode) (ruled _)

omit [Scalar R] in
theorem alike_hearing {r : Response} (c : Client R U S) (decode : Body.Reader V)
    (here : (Transport.answer request (Http.raising transient notFound t)).Missing r)
    (there : (Transport.answer request (Http.raising transient notFound' t)).Missing r) :
    (c.hearing request decode (Http.raising transient notFound t)).Alike request
      (c.hearing request decode (Http.raising transient notFound' t)) := by
  obtain ⟨o, told, status, lookup, reported⟩ := here.outcome request decode
  obtain ⟨o', told', status', lookup', reported'⟩ := there.outcome request decode
  have swayed (policy : request.options.notFound = .report) :
      (c.hearing request decode (Http.raising transient notFound t)).swayed =
        (c.hearing request decode (Http.raising transient notFound' t)).swayed := by
    simp only [hearing, Chain.hearing, Upshot.map, Chain.sways, status, status', reported policy,
      reported' policy]
  refine ⟨.cons (.missing r here there) .nil, rfl, ?_, fun policy => ⟨?_, swayed policy⟩, ?_⟩
  · simp only [hearing, Chain.hearing, Upshot.map, told, told', Except.map, lookup, lookup']
  · simp only [hearing, Chain.hearing, Upshot.map, told, told', Except.map, reported policy,
      reported' policy]
  · cases policy : request.options.notFound with
    | absent => exact .inr ⟨rfl, r, _, rfl, _, rfl, here, there⟩
    | report => exact .inl (swayed policy)

theorem Resolves.twin (bare : c.outer = [])
    {first a : Upshot (Http.Raising T) (Except CallError (Outcome V))}
    (h : c.Resolves request decode n first a) (lane : Lane R (Http.Raising T) U)
    (begun : first = c.hearing request decode (Http.raising transient notFound t)) :
    ∃ a', c.Resolves request decode n
      (c.hearing request decode (Http.raising transient notFound' t)) a' ∧
        a.Alike request a' := by
  induction h generalizing t with
  | @returns n a result ruled =>
    subst begun
    obtain same | ⟨r, here, there⟩ := c.hearing_cases request decode transient notFound notFound' t
    · rw [same]
      exact ⟨_, .returns ruled, .of_left _ rfl⟩
    · cases (verdict_missing here c.policy n request decode).symm.trans ruled
      exact ⟨_, .returns (verdict_missing there c.policy n request decode),
        alike_hearing c decode here there⟩
  | @givesUp n a failure ruled =>
    subst begun
    rw [hearing_eq_of_verdict fun result returned => by cases ruled.symm.trans returned]
    exact ⟨_, .givesUp ruled, .of_left _ rfl⟩
  | @again n d a next b failure ruled run rest ih =>
    subst begun
    -- The attempt has failed in both, and the next one begins over the same transport.
    rw [hearing_eq_of_verdict fun result returned => by cases ruled.symm.trans returned]
    have next_eq := (settles_attempt bare request decode _).always next run
    obtain ⟨b', resolves, alike⟩ := ih next_eq
    have run' := (settles_attempt bare request decode
      (Http.raising transient notFound' (Transport.next request t))).concludes
        { lane with remote := { transport := _ } } rfl
    exact ⟨_, .again ruled run' resolves, alike.after _ _⟩

end

end Client

/-- Whether missing targets are raised makes no difference for what comes of a process, but for what
may differ. -/
structure Http.Unseen {R T U s α : Type} [Transport T]
    (p : Process (Event R) (Lane R (Http.Raising T) U) s α) (sends? : s → Option Request)
    (first : s) (sways : Exchange → ℕ × ℕ) (transient : Bool) (t : T)
    (alike : Upshot (Http.Raising T) α → Upshot (Http.Raising T) α → Prop) : Prop where
  /-- What one run comes to all runs come to, with the clock and the rate as they may be. -/
  settles : ∀ notFound a, Concludes p sends? first (Http.raising transient notFound t) a →
    Settles p sends? first (Http.raising transient notFound t) a
  swayed : ∀ notFound a, Concludes p sends? first (Http.raising transient notFound t) a →
    a.swayed = (a.heard.map sways).sum
  agrees : ∀ notFound notFound' a,
    Concludes p sends? first (Http.raising transient notFound t) a →
      ∃ a', Concludes p sends? first (Http.raising transient notFound' t) a' ∧
        List.Forall₂ Exchange.Twins a.heard a'.heard ∧ a.left.inner = a'.left.inner ∧ alike a a'

namespace Http.Unseen

variable {R T U s α : Type} [Transport T] {p : Process (Event R) (Lane R (Raising T) U) s α}
  {sends? : s → Option Request} {first : s} {sways : Exchange → ℕ × ℕ}
  {transient : Bool} {t : T} {alike : Upshot (Raising T) α → Upshot (Raising T) α → Prop}

theorem wrapped {u β : Type} {q : Process (Event R) (Lane R (Raising T) U) u β}
    {asks? : u → Option Request} {e : s → u} {f : α → β}
    {alike' : Upshot (Raising T) β → Upshot (Raising T) β → Prop}
    (unseen : Unseen p sends? first sways transient t alike) (wraps : p.Wraps q e f)
    (sends : ∀ st, asks? (e st) = sends? st)
    (seen : ∀ a a', alike a a' → alike' (a.map f) (a'.map f)) :
    Unseen q asks? (e first) sways transient t alike' where
  settles notFound b run := by
    obtain ⟨a, run', rfl⟩ := wraps.concludes sends run
    exact wraps.settles sends (unseen.settles notFound a run')
  swayed notFound b run := by
    obtain ⟨a, run', rfl⟩ := wraps.concludes sends run
    exact unseen.swayed notFound a run'
  agrees notFound notFound' b run := by
    obtain ⟨a, run', rfl⟩ := wraps.concludes sends run
    obtain ⟨a', twin, heard, left, same⟩ := unseen.agrees notFound notFound' a run'
    obtain ⟨lane, held⟩ := twin.exists_lane
    have settles := wraps.settles sends (unseen.settles notFound' a' twin)
    exact ⟨_, settles.concludes lane held, heard, left, seen a a' same⟩

theorem idled {idle : s} (unseen : Unseen p sends? first sways transient t alike)
    (moves : ∀ (now : ℕ) (lane : Lane R (Raising T) U), ∃ events,
      p.move now idle lane = .goes first lane events)
    (silent : sends? idle = none) : Unseen p sends? idle sways transient t alike where
  settles notFound a run :=
    .of_idle moves silent (unseen.settles notFound a ((concludes_iff_of_idle moves silent).mp run))
  swayed notFound a run :=
    unseen.swayed notFound a ((concludes_iff_of_idle moves silent).mp run)
  agrees notFound notFound' a run := by
    obtain ⟨a', twin, same⟩ :=
      unseen.agrees notFound notFound' a ((concludes_iff_of_idle moves silent).mp run)
    exact ⟨a', (concludes_iff_of_idle moves silent).mpr twin, same⟩

end Http.Unseen

/-- The same was returned, and the rate swayed in the same way unless the target was missing. -/
def Upshot.Same {T α : Type} (a a' : Upshot T α) : Prop :=
  a.value = a'.value ∧ (a.swayed = a'.swayed ∨ a.Missed a')

section

variable {R T U S K V : Type} [Scalar R] [Transport T] {c : Client R U S}

theorem Client.unseen_call (bare : c.outer = []) (request : Request) (decode : Body.Reader V)
    (transient : Bool) (t : T) :
    Http.Unseen (c.call (T := Http.Raising T) decode) Call.sends? (c.start request)
      (Chain.sways c.countNotFound request) transient t (Upshot.Alike request) where
  settles _ _ run := settles_call bare (resolves_of_call bare run)
  swayed _ _ run := (resolves_of_call bare run).swayed bare (c.swayed_hearing request decode _)
  agrees notFound notFound' a run := by
    obtain ⟨lane, -⟩ := run.exists_lane
    have twin : ∃ a', c.Resolves request decode 1
        (c.hearing request decode (Http.raising transient notFound' t)) a' ∧ a.Alike request a' :=
      (resolves_of_call bare run).twin bare lane rfl
    obtain ⟨a', resolves, alike⟩ := twin
    refine ⟨a', ?_, alike.heard, alike.left, alike⟩
    exact (settles_call bare resolves).concludes { lane with remote := { transport := _ } } rfl

theorem Client.unseen_lookup (bare : c.outer = []) (request : Request) (decode : Body.Reader V)
    (transient : Bool) (t : T) :
    Http.Unseen (c.lookup (T := Http.Raising T) decode) Call.sends? (c.startLookup request)
      (Chain.sways c.countNotFound (request.notFound .absent)) transient t Upshot.Same :=
  (unseen_call bare _ decode transient t).wrapped (Process.wraps_map _ _) (fun _ => rfl)
    fun _ _ alike => ⟨alike.lookup, alike.swayed.imp id And.right⟩

theorem Client.lookupOf_congr {result result' : Except CallError (Outcome V)}
    (same : result.map Outcome.toLookup = result'.map Outcome.toLookup) :
    lookupOf result = lookupOf result' := by
  have read (result : Except CallError (Outcome V)) : lookupOf result =
      match result.map Outcome.toLookup with
      | .ok l => l
      | .error e => .error (.ofCallError e) := by
    cases result <;> rfl
  rw [read, read, same]

theorem RemoteLoader.wraps_load (l : RemoteLoader R U S K V) :
    (l.client.call l.decode : Process (Event R) (Lane R T U) _ _).Wraps l.load (false, ·)
      Client.lookupOf :=
  let reported := Process.wraps_thenReport (l.client.call l.decode) Client.lookupEvents
  (reported.trans (Process.wraps_map _ Client.lookupOf)).trans (Process.wraps_announce _ l.notices)

theorem RemoteLoader.unseen_load (l : RemoteLoader R U S K V) (bare : l.client.outer = []) (key : K)
    (transient : Bool) (t : T) :
    Http.Unseen (l.load (T := Http.Raising T)) Trip.sends? (l.begin key)
      (Chain.sways l.client.countNotFound ((l.request key).notFound .absent)) transient t
      Upshot.Same := by
  have told : Http.Unseen (l.load (T := Http.Raising T)) Trip.sends?
      (false, l.client.start ((l.request key).notFound .absent)) _ transient t Upshot.Same :=
    (Client.unseen_call bare _ l.decode transient t).wrapped l.wraps_load (fun _ => rfl)
      fun _ _ alike => ⟨Client.lookupOf_congr alike.lookup, alike.swayed.imp id And.right⟩
  exact told.idled (fun _ _ => ⟨_, rfl⟩) rfl

/-- Whether missing targets are raised makes no difference for what a lookup or a load returns, nor
for what a call returns and does to the rate that has them reported. A rate is swayed by each answer
on its own, and in two ways only where a missing target is an absence and the last answer was one;
and to sway them is all that a call does to its limits. -/
theorem raising_notFound_unseen (bare : c.outer = []) {l : RemoteLoader R U S K V}
    (plain : l.client.outer = []) (key : K) (request : Request) (decode : Body.Reader V)
    (transient : Bool) (t : T) :
    Http.Unseen (c.lookup (T := Http.Raising T) decode) Call.sends? (c.startLookup request)
      (Chain.sways c.countNotFound (request.notFound .absent)) transient t Upshot.Same ∧
    Http.Unseen (l.load (T := Http.Raising T)) RemoteLoader.Trip.sends? (l.begin key)
      (Chain.sways l.client.countNotFound ((l.request key).notFound .absent)) transient t
      Upshot.Same ∧
    (Http.Unseen (c.call (T := Http.Raising T) decode) Call.sends? (c.start request)
      (Chain.sways c.countNotFound request) transient t fun a a' =>
        (request.options.notFound = .report →
          a.value.map Outcome.status = a'.value.map Outcome.status ∧ a.swayed = a'.swayed) ∧
        (a.swayed = a'.swayed ∨ (request.options.notFound = .absent ∧ a.Missed a'))) ∧
    ∀ now (st st' : Call R U S) (lane lane' : Lane R (Http.Raising T) U) events,
      (c.call decode).move now st lane = .goes st' lane' events →
        lane'.governor.limits = lane.governor.limits.swayed (lane.swayed lane') := by
  have call := Client.unseen_call bare request decode transient t
  refine ⟨Client.unseen_lookup bare request decode transient t,
    l.unseen_load plain key transient t,
    ⟨call.settles, call.swayed, fun notFound notFound' a run => ?_⟩,
    fun _ _ _ _ _ _ moves => Client.limits_goes moves⟩
  obtain ⟨a', twin, heard, left, alike⟩ := call.agrees notFound notFound' a run
  exact ⟨a', twin, heard, left, alike.reported, alike.swayed⟩

end

def unavailable : Response where
  status := ⟨503, Nat.le_of_ble_eq_true rfl, Nat.le_of_ble_eq_true rfl⟩

def nowhere : Response where
  status := ⟨404, Nat.le_of_ble_eq_true rfl, Nat.le_of_ble_eq_true rfl⟩

/-- A service that is not there at first, and then does not have what is asked for. -/
def lateAndMissing : Script :=
  Script.ofList [{ result := .ok unavailable }, { result := .ok nowhere }]

def laneOver (t : Http.Raising Script) : Lane Float (Http.Raising Script) Unit where
  governor := .ofConfig { base := 4, min := 1 }
  remote := { transport := t }
  user := ()

theorem resolves_lateAndMissing (request : Request) :
    sizes.client.Resolves request Body.size 1
      (sizes.client.hearing request Body.size (Http.raising true true lateAndMissing))
      { heard := [.error (Http.failureOf unavailable), .error (Http.failureOf nowhere)]
        swayed := Chain.sways true request (.error (Http.failureOf nowhere))
        value := Client.resultOf request Body.size (.error (Http.failureOf nowhere))
        left := Http.raising true true { lines := [], last := { result := .ok nowhere } } } := by
  let second := Http.raising true true (Transport.next request lateAndMissing)
  have late : sizes.client.policy.verdict 1
      (Client.resultOf request Body.size (.error (Http.failureOf unavailable))) =
        .wait (Duration.ofMillis 5) (Http.failureOf unavailable) := rfl
  have missing : Exchange.Missing nowhere (.error (Http.failureOf nowhere)) := ⟨rfl, .inr rfl⟩
  have run := (Client.settles_attempt (c := sizes.client) rfl request Body.size second).concludes
    (laneOver second) rfl
  have rest : sizes.client.Resolves request Body.size 2
      (sizes.client.hearing request Body.size second) _ :=
    .returns (Client.verdict_missing missing sizes.client.policy 2 request Body.size)
  have whole : sizes.client.Resolves request Body.size 1
      (sizes.client.hearing request Body.size (Http.raising true true lateAndMissing)) _ :=
    .again (n := 1) late run rest
  rw [← zero_add (Chain.sways true request _)]
  exact whole

/-- With only the first raised, a lookup and a load find nothing as well, and a call that reports it
slows the rate as well. -/
theorem raising_notFound_unseen_lateAndMissing :
    (∃ a, Settles (sizes.client.lookup Body.size) Call.sends?
        (sizes.client.startLookup (sizes.request 8)) (Http.raising true false lateAndMissing) a ∧
      a.value = .ok .notFound) ∧
    (∃ a, Settles sizes.load RemoteLoader.Trip.sends? (sizes.begin 8)
        (Http.raising true false lateAndMissing) a ∧ a.value = .notFound) ∧
    ∃ a, Settles (sizes.client.call Body.size) Call.sends?
        (sizes.client.start ((sizes.request 8).notFound .report))
        (Http.raising true false lateAndMissing) a ∧
      a.value.map Outcome.status = .ok .notFound ∧ a.swayed = (0, 1) := by
  have called (request : Request) :=
    Client.settles_call (c := sizes.client) rfl (resolves_lateAndMissing request)
  obtain ⟨lookups, loads, calls, -⟩ := raising_notFound_unseen (c := sizes.client) rfl
    (l := sizes) rfl 8 ((sizes.request 8).notFound .report) Body.size true lateAndMissing
  refine ⟨?_, ?_, ?_⟩
  · have settles : Settles (sizes.client.lookup Body.size) Call.sends? _ _ _ :=
      (Process.wraps_map _ _).settles (fun _ => rfl) (called ((sizes.request 8).notFound .absent))
    obtain ⟨a, run, -, -, value, -⟩ :=
      lookups.agrees true false _ (settles.concludes (laneOver _) rfl)
    exact ⟨a, lookups.settles false a run, value.symm⟩
  · have settles : Settles sizes.load RemoteLoader.Trip.sends? (sizes.begin 8) _ _ :=
      .of_idle (fun _ _ => ⟨_, rfl⟩) rfl
        (sizes.wraps_load.settles (fun _ => rfl) (called ((sizes.request 8).notFound .absent)))
    obtain ⟨a, run, -, -, value, -⟩ :=
      loads.agrees true false _ (settles.concludes (laneOver _) rfl)
    exact ⟨a, loads.settles false a run, value.symm⟩
  · have settles := called ((sizes.request 8).notFound .report)
    obtain ⟨a, run, -, -, reported, -⟩ :=
      calls.agrees true false _ (settles.concludes (laneOver _) rfl)
    obtain ⟨status, swayed⟩ := reported rfl
    exact ⟨a, calls.settles false a run, status.symm, swayed.symm⟩

end PacedCalls
