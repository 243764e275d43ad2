import PacedCalls.Proofs.Client.Ledger

set_option autoImplicit false

namespace PacedCalls

namespace Trial

def quiet : Trial := { permits := 1 }

def answered (countNotFound : Bool) (options : CallOptions) : Option Status → Trial
  | none => quiet
  | some s =>
    { permits := 1
      increases := if s.isOk then 1 else 0
      decreases := if Chain.slows countNotFound options s then 1 else 0
      fed := [s] }

def cutAt (point : Cut) : Trial where
  permits := match point with
    | .atSlot => 0
    | .atAnswer => 1
  cut := some point

section

variable {R U S : Type} {now : ℕ} {pass : Chain.Pass R U S} {c c' : Rate.Controller R}

theorem note_eq_self (t : Trial) (fed : pass.feeds? = none) (cut : pass.cut? now = none)
    (same : c'.counts = c.counts) : t.note now pass c c' = t := by
  simp only [Rate.Controller.counts, Prod.mk.injEq] at same
  obtain ⟨granted, increases, decreases⟩ := same
  simp [note, fed, cut, granted, increases, decreases]

theorem note_grant (fed : pass.feeds? = none) (cut : pass.cut? now = none)
    (granted : c'.counts = c.counts + (1, 0, 0)) : ({} : Trial).note now pass c c' = quiet := by
  simp only [Rate.Controller.counts, Prod.mk_add_mk, Prod.mk.injEq] at granted
  obtain ⟨granted, increases, decreases⟩ := granted
  simp [note, quiet, fed, cut, granted, increases, decreases]

theorem note_cut {point : Cut} (t : Trial) (uncut : t.cut = none) (fed : pass.feeds? = none)
    (cut : pass.cut? now = some point) (same : c'.counts = c.counts) :
    t.note now pass c c' = { t with cut := some point } := by
  simp only [Rate.Controller.counts, Prod.mk.injEq] at same
  obtain ⟨granted, increases, decreases⟩ := same
  simp [note, fed, cut, uncut, granted, increases, decreases]

end

end Trial

namespace Chain

variable {R T U S : Type}

def Layer.IsTimeout : Layer R U S → Prop
  | .custom m => ∃ memo d, m = .timeout memo d
  | _ => False

def Frame.Of (outer : List (Layer R U S)) : Frame R U S → Prop
  | .custom m _ _ _ => .custom m ∈ outer
  | _ => False

theorem slows_of_isOk (countNotFound : Bool) (options : CallOptions) {s : Status}
    (ok : s.isOk = true) : slows countNotFound options s = false := by
  cases s <;> first | rfl | cases ok

/-- Where a request stands on its way through some timeouts, a throttle and a tracer, and back, and
what it has done so far. -/
inductive Stage (outer : List (Layer R U S)) (count : Bool) (request : Request) :
    Pass R U S → Trial → Prop where
  | outside {ahead : List (Layer R U S)} {frames : List (Frame R U S)} (rest : ahead ⊆ outer)
      (around : ∀ f ∈ frames, f.Of outer) :
      Stage outer count request (.entering (ahead ++ [.throttle count, .tracing]) request frames) {}
  | queued (slot : ℕ) {frames : List (Frame R U S)} (around : ∀ f ∈ frames, f.Of outer) :
      Stage outer count request (.queued slot count [.tracing] request frames) {}
  | permitted {frames : List (Frame R U S)} (around : ∀ f ∈ frames, f.Of outer) :
      Stage outer count request (.entering [.tracing] request (.throttle count request :: frames))
        .quiet
  | arrived {frames : List (Frame R U S)} (around : ∀ f ∈ frames, f.Of outer) :
      Stage outer count request
        (.entering [] request (.tracing :: .throttle count request :: frames)) .quiet
  | sent (result : Exchange) (arrival : ℕ) {frames : List (Frame R U S)}
      (around : ∀ f ∈ frames, f.Of outer) :
      Stage outer count request (.sent result arrival (.tracing :: .throttle count request :: frames))
        .quiet
  | back (result : Exchange) {frames : List (Frame R U S)} (around : ∀ f ∈ frames, f.Of outer) :
      Stage outer count request (.leaving result (.tracing :: .throttle count request :: frames))
        .quiet
  | judged (result : Exchange) {frames : List (Frame R U S)} (around : ∀ f ∈ frames, f.Of outer) :
      Stage outer count request (.leaving result (.throttle count request :: frames)) .quiet
  | told (result : Exchange) {frames : List (Frame R U S)} (around : ∀ f ∈ frames, f.Of outer) :
      Stage outer count request (.leaving result frames)
        (.answered count request.options (statusOf? request result))
  | cut (point : Cut) (bounded : outer ≠ []) {frames : List (Frame R U S)}
      (around : ∀ f ∈ frames, f.Of outer) :
      Stage outer count request (.leaving (.error .timedOut) frames) (.cutAt point)

section

variable [Scalar R] {outer : List (Layer R U S)} {count : Bool} {request : Request} {now : ℕ}
  {pass pass' : Pass R U S} {t : Trial} {lane lane' : Lane R T U} {events : List (Event R)}

omit [Scalar R] in
theorem Pass.wait_timeouts {moment : ℕ} {waiting frames : List (Frame R U S)}
    (timed : ∀ layer ∈ outer, layer.IsTimeout) (around : ∀ f ∈ frames, f.Of outer)
    (inside : expired? now waiting = expired? now frames)
    (h : Pass.wait now moment waiting lane = .goes pass lane' events) :
    (expired? now waiting).isSome ∧ outer ≠ [] ∧ lane'.governor = lane.governor ∧
      ∃ frames, pass = .leaving (.error .timedOut) frames ∧ ∀ f ∈ frames, f.Of outer := by
  simp only [Pass.wait] at h
  split at h
  · next m memo inner outside late =>
    obtain ⟨⟨limit, mem⟩, sub⟩ := expired_mem (inside ▸ late)
    have layer : .custom m ∈ outer := around _ mem
    obtain ⟨memo', d, rfl⟩ := timed _ layer
    cases h
    exact ⟨by rw [late]; rfl, List.ne_nil_of_mem layer, rfl, outside, rfl,
      fun f hf => around f (sub hf)⟩
  · cases h

theorem Pass.leave_timeouts {result : Exchange} {frames : List (Frame R U S)}
    (timed : ∀ layer ∈ outer, layer.IsTimeout) (around : ∀ f ∈ frames, f.Of outer)
    (h : Pass.leave now result frames lane = .goes pass lane' events) :
    (Pass.leaving result frames).feeds? = none ∧ lane'.governor = lane.governor ∧
      ∃ rest, pass = .leaving result rest ∧ ∀ f ∈ rest, f.Of outer := by
  cases frames with
  | nil => cases h
  | cons frame rest =>
    obtain ⟨first, outside⟩ := List.forall_mem_cons.mp around
    cases frame with
    | custom m memo limit inner =>
      obtain ⟨memo', d, rfl⟩ := timed _ first
      cases h
      exact ⟨rfl, rfl, rest, rfl, outside⟩
    | throttle => cases first
    | tracing => cases first

namespace Stage

variable {c c' : Rate.Controller R}

omit [Scalar R] in
theorem still (next : Stage outer count request pass' t) (fed : pass.feeds? = none)
    (uncut : pass.cut? now = none) (same : c'.counts = c.counts) :
    Stage outer count request pass' (t.note now pass c c') := by
  rwa [Trial.note_eq_self t fed uncut same]

omit [Scalar R] in
theorem granted (next : Stage outer count request pass' .quiet) (fed : pass.feeds? = none)
    (uncut : pass.cut? now = none) (one : c'.counts = c.counts + (1, 0, 0)) :
    Stage outer count request pass' (({} : Trial).note now pass c c') := by
  rwa [Trial.note_grant fed uncut one]

omit [Scalar R] in
theorem broken {moment : ℕ} {waiting frames : List (Frame R U S)} {point : Cut}
    (timed : ∀ layer ∈ outer, layer.IsTimeout) (around : ∀ f ∈ frames, f.Of outer)
    (inside : expired? now waiting = expired? now frames)
    (h : Pass.wait now moment waiting lane = .goes pass' lane' events) (fed : pass.feeds? = none)
    (cut : pass.cut? now = (expired? now waiting).map fun _ => point)
    (uncut : t.cut = none) (shape : { t with cut := some point } = Trial.cutAt point) :
    Stage outer count request pass' (t.note now pass lane.governor lane'.governor) := by
  obtain ⟨late, bounded, same, outside, rfl, around'⟩ := Pass.wait_timeouts timed around inside h
  obtain ⟨found, late⟩ := Option.isSome_iff_exists.mp late
  rw [late] at cut
  rw [Trial.note_cut t uncut fed cut (congrArg _ same), shape]
  exact .cut point bounded around'

theorem fedBack (result : Exchange) {frames : List (Frame R U S)}
    (around : ∀ f ∈ frames, f.Of outer) :
    Stage outer count request (.leaving result frames)
      (Trial.quiet.note now (.leaving result (.throttle count request :: frames)) c
        (feedback count request result c).1) := by
  have fed : (Pass.leaving result (.throttle count request :: frames) : Pass R U S).feeds? =
      statusOf? request result := rfl
  have noted : Trial.quiet.note now (.leaving result (.throttle count request :: frames)) c
      (feedback count request result c).1 =
        .answered count request.options (statusOf? request result) := by
    simp only [Trial.note, fed, Pass.cut?, feedback]
    cases statusOf? request result with
    | none => simp [Trial.quiet, Trial.answered]
    | some s =>
      cases ok : s.isOk with
      | true =>
        simp [Trial.quiet, Trial.answered, ok, slows_of_isOk count request.options ok,
          Rate.Controller.increase]
      | false =>
        cases slow : slows count request.options s with
        | true => simp [Trial.quiet, Trial.answered, ok, slow, Rate.Controller.decrease]
        | false => simp [Trial.quiet, Trial.answered, ok, slow]
  rw [noted]
  exact .told result around

variable [Transport T]

theorem goes (stage : Stage outer count request pass t) (timed : ∀ layer ∈ outer, layer.IsTimeout)
    (h : process.move now pass lane = .goes pass' lane' events) :
    Stage outer count request pass' (t.note now pass lane.governor lane'.governor) := by
  cases stage with
  | @outside ahead frames rest around =>
    cases ahead with
    | nil =>
      simp only [process, Pass.enter, List.nil_append] at h
      split at h
      · cases h
        exact .still (.queued _ around) rfl rfl rfl
      · cases h
        exact .granted (.permitted around) rfl rfl rfl
    | cons layer ahead =>
      obtain ⟨first, more⟩ := List.cons_subset.mp rest
      cases layer with
      | custom m =>
        obtain ⟨memo, d, rfl⟩ := timed _ first
        cases h
        exact .still (.outside more (List.forall_mem_cons.mpr ⟨first, around⟩)) rfl rfl rfl
      | throttle count' => cases timed _ first
      | tracing => cases timed _ first
  | queued slot around =>
    -- The slot has come, or a timeout outside the throttle has run out before it.
    simp only [process] at h
    split at h
    · next due =>
      cases h
      exact .granted (.permitted around) rfl (if_pos due) rfl
    · next early => exact .broken timed around rfl h rfl (if_neg early) rfl rfl
  | permitted around =>
    cases h
    exact .still (.arrived around) rfl rfl rfl
  | arrived around =>
    cases h
    exact .still (.sent _ _ around) rfl rfl rfl
  | sent result arrival around =>
    simp only [process] at h
    split at h
    · next due =>
      cases h
      exact .still (.back result around) rfl (if_pos due) rfl
    · next early => exact .broken timed around rfl h rfl (if_neg early) rfl rfl
  | back result around =>
    cases h
    exact .still (.judged result around) rfl rfl rfl
  | judged result around =>
    cases h
    exact fedBack result around
  | told result around =>
    obtain ⟨fed, same, rest, rfl, around'⟩ := Pass.leave_timeouts timed around h
    exact .still (.told result around') fed rfl (congrArg _ same)
  | cut point bounded around =>
    obtain ⟨fed, same, rest, rfl, around'⟩ := Pass.leave_timeouts timed around h
    exact .still (.cut point bounded around') fed rfl (congrArg _ same)

end Stage

end

end Chain

namespace Client

variable {R U S V : Type}

def Timed (c : Client R U S) : Prop := ∀ layer ∈ c.outer, layer.IsTimeout

inductive Agree (request : Request) : Option Status → Except CallError (Outcome V) → Prop where
  | transient (failure : TransportError) : Agree request none (.error (.transient failure))
  | outcome (o : Outcome V) : Agree request (some o.status) (.ok o)
  | undecoded (reason : Option String) :
      Agree request (some .success) (.error (.decode request.description reason))

/-- The throttle and the call make the same of an exchange. -/
theorem agree (request : Request) (decode : Body.Reader V) (exchange : Exchange) :
    Agree request (Chain.statusOf? request exchange) (resultOf request decode exchange) := by
  cases exchange with
  | ok response =>
    simp only [Chain.statusOf?, resultOf, Response.toOutcome]
    cases response.callStatus with
    | success =>
      cases decode response with
      | ok a => exact .outcome (.success a)
      | error e => exact .undecoded e.reason
    | notNeeded => exact .outcome (.failed .notNeeded _)
    | notFound => exact .outcome (.failed .notFound _)
    | error => exact .outcome (.failed .error _)
    | aborted => exact .outcome (.failed .aborted _)
    | denied => exact .outcome (.failed .denied _)
    | invalid => exact .outcome (.failed .invalid _)
    | fatalError => exact .outcome (.failed .fatalError _)
  | error e =>
    simp only [Chain.statusOf?, resultOf]
    cases e with
    | serviceUnavailable m => exact .transient _
    | internalServerError m => exact .transient _
    | connectionReset m => exact .transient _
    | aborted m => exact .outcome (.failed .aborted _)
    | notFound m =>
      simp only [TransportError.toOutcome?]
      cases request.options.notFound with
      | absent => exact .outcome .absent
      | report => exact .outcome (.failed .notFound _)
    | io m cause => exact .outcome ((Outcome.failed .error _).withCause cause)
    | request m cause => exact .outcome (.fatal _ cause)

end Client

section

variable {R T U S V P : Type}

/-- What the last of some attempts has done, and what its call returns. -/
inductive Trial.Yields (client : Client R U S) (request : Request) (attempts : ℕ) :
    Trial → Except CallError (Outcome V) → Prop where
  | failed (failure : TransportError) :
      Yields client request attempts .quiet (.error (.transient failure))
  | gaveUp (failure : TransportError) :
      Yields client request attempts .quiet
        (.error (.retryExhausted request.description (min attempts Retry.lastAttempt) failure))
  | undecoded (reason : Option String) :
      Yields client request attempts
        (.answered client.countNotFound request.options (some .success))
        (.error (.decode request.description reason))
  | outcome (o : Outcome V) :
      Yields client request attempts
        (.answered client.countNotFound request.options (some o.status)) (.ok o)
  | cut (point : Cut) (bounded : client.outer ≠ []) (o : Outcome V) (error : o.status = .error) :
      Yields client request attempts (.cutAt point) (.ok o)

theorem Chain.Stage.yields {client : Client R U S} {request : Request} {exchange : Exchange}
    {t : Trial}
    (stage : Stage client.outer client.countNotFound request (.leaving exchange []) t)
    (decode : Body.Reader V) (attempts : ℕ) :
    t.Yields client request attempts (Client.resultOf request decode exchange) := by
  cases stage with
  | told result around =>
    have agree := Client.agree request decode exchange
    generalize statusOf? request exchange = s at agree ⊢
    generalize Client.resultOf request decode exchange = result at agree ⊢
    cases agree with
    | transient failure => exact .failed failure
    | outcome o => exact .outcome o
    | undecoded reason => exact .undecoded reason
  | cut point bounded around => exact .cut point bounded _ rfl

theorem Trial.Yields.quiet {client : Client R U S} {request : Request} {attempts : ℕ} {t : Trial}
    {failure : TransportError}
    (h : t.Yields client request attempts
      (.error (.transient failure) : Except CallError (Outcome V))) : t = .quiet := by
  cases h
  rfl

def Retry.Phase.attempts {s : Type} : Retry.Phase s → ℕ
  | .attempting n _ => n
  | .waiting n _ => n

/-- The attempts of a call are as they should be: the earlier ones have failed. -/
structure Entry.Kept (e : Entry R U S V P) : Prop where
  counted : e.call.phase.attempts = min (e.earlier.length + 1) Retry.lastAttempt
  earlier : ∀ t ∈ e.earlier, t = .quiet
  attempt : ∀ n pass, e.call.phase = .attempting n pass →
    Chain.Stage e.client.outer e.client.countNotFound e.call.request pass e.trial
  pause : ∀ n wake, e.call.phase = .waiting n wake → e.trial = .quiet

def Receipt.Kept (r : Receipt R U S V) : Prop :=
  ∃ earlier last, r.trials = earlier ++ [last] ∧ (∀ t ∈ earlier, t = .quiet) ∧
    last.Yields r.client r.request r.trials.length r.result

namespace Entry

variable {e : Entry R U S V P} {now : ℕ} {c c' : Rate.Controller R} {call : Call R U S}

theorem moved_attempting {n : ℕ} {pass : Chain.Pass R U S}
    (here : e.call.phase = .attempting n pass) :
    e.moved now c c' call = { e with call := call, trial := e.trial.note now pass c c' } := by
  simp only [moved, here]

theorem moved_waiting {n wake : ℕ} (here : e.call.phase = .waiting n wake) :
    e.moved now c c' call = { e with call := call, earlier := e.trials, trial := {} } := by
  simp only [moved, here]

theorem kept_begin (place : P) (client : Client R U S) (decode : Body.Reader V)
    (request : Request) : (begin place client decode request).Kept where
  counted := rfl
  earlier := by simp [begin]
  attempt n pass here := by
    cases here
    exact .outside (List.Subset.refl _) (by simp)
  pause n wake here := by cases here

variable [Scalar R] [Transport T] {lane lane' : Lane R T U} {events : List (Event R)}

theorem Kept.goes (kept : e.Kept) (timed : e.client.Timed)
    (h : (e.client.call e.decode).move now e.call lane = .goes call lane' events) :
    (e.moved now lane.governor lane'.governor call).Kept := by
  have counted := kept.counted
  obtain ⟨request, ⟨n, pass, pass', _, old, new, moves⟩ |
    ⟨n, exchange, wake, failure, old, new, rfl, failed⟩ | ⟨n, wake, old, new, rfl⟩⟩ :=
      Client.call_goes_cases h
  · have stage := (kept.attempt n pass old).goes timed moves
    rw [old] at counted
    rw [moved_attempting old]
    refine ⟨new ▸ counted, kept.earlier, fun n' p here => ?_, fun _ _ here => ?_⟩
    · cases new.symm.trans here
      exact request ▸ stage
    · cases new.symm.trans here
  · have yields := (kept.attempt n _ old).yields e.decode 0
    rw [failed] at yields
    rw [old] at counted
    rw [moved_attempting old, Trial.note_eq_self e.trial rfl rfl rfl]
    refine ⟨new ▸ counted, kept.earlier, fun _ _ here => ?_, fun _ _ here => yields.quiet⟩
    cases new.symm.trans here
  · rw [old] at counted
    rw [moved_waiting old]
    refine ⟨?_, fun t ht => ?_, fun n' p here => ?_, fun _ _ here => ?_⟩
    · -- Counting stops at the last attempt, and so does the number of attempts that is told.
      show call.phase.attempts = _
      rw [new]
      simp only [Retry.Phase.attempts, trials, List.length_append, List.length_singleton] at counted ⊢
      omega
    · rcases List.mem_append.mp ht with ht | ht
      · exact kept.earlier t ht
      · exact List.mem_singleton.mp ht ▸ kept.pause n wake old
    · cases new.symm.trans here
      exact request ▸ .outside (List.Subset.refl _) (by simp)
    · cases new.symm.trans here

theorem Kept.ends {result : Except CallError (Outcome V)} (kept : e.Kept)
    (h : (e.client.call e.decode).move now e.call lane = .ends result lane' events) :
    ((e.moved now lane.governor lane'.governor e.call).receipt result).Kept := by
  obtain ⟨n, exchange, here, rfl, returned⟩ := Client.call_ends_cases h
  have counted := kept.counted
  rw [here] at counted
  have length : e.trials.length = e.earlier.length + 1 := by simp [trials]
  have yields := (kept.attempt n _ here).yields e.decode e.trials.length
  rw [moved_attempting here, Trial.note_eq_self e.trial rfl rfl rfl]
  refine ⟨e.earlier, e.trial, rfl, kept.earlier, ?_⟩
  rcases returned with rfl | ⟨failure, failed, rfl⟩
  · exact yields
  · rw [failed] at yields
    rw [show n = min e.trials.length Retry.lastAttempt from length ▸ counted]
    show e.trial.Yields e.client e.call.request e.trials.length (.error _)
    rw [yields.quiet]
    exact .gaveUp failure

end Entry

theorem Ledger.kept_invariant [Scalar R] [Transport T] :
    Invariant T (fun e : Entry R U S V P => e.client.Timed → e.Kept)
      (fun r => r.client.Timed → r.Kept) where
  goes {e now _ _ call _} kept moves timed := by
    rw [e.moved_client] at timed
    exact (kept timed).goes timed moves
  ends {e now _ _ _ _} kept moves timed := by
    have timed : e.client.Timed := e.moved_client _ _ _ _ ▸ timed
    exact (kept timed).ends moves

theorem Ledger.kept_play [Scalar R] [Transport T] [DecidableEq P] (governor : Rate.Controller R)
    (transports : P → T) (user : U) (now : ℕ) (deeds : List (Deed R U S V P)) :
    ((opening governor transports user now).play deeds).Holds
      (fun e => e.client.Timed → e.Kept) fun r => r.client.Timed → r.Kept :=
  kept_invariant.play (holds_opening governor transports user now)
    fun place client decode request _ _ => Entry.kept_begin place client decode request

end

end PacedCalls
