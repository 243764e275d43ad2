import PacedCalls.Proofs.Answers
import PacedCalls.Proofs.Client.Raising

set_option autoImplicit false

namespace PacedCalls

def Lane.Over {R T U : Type} (t : T) (lane : Lane R T U) : Prop := lane.remote.transport = t

namespace Chain

variable {R T U S : Type} [Scalar R] [Transport T] {t : T}

abbrev Pass.Hears (pass : Pass R U S) (t : T) (x : Exchange) : Prop :=
  (process : Process (Event R) (Lane R T U) (Pass R U S) Exchange).Answers (Lane.Over t) x pass

section

variable (count : Bool) (request : Request) (x : Exchange) (t : T)

theorem hears_leaving :
    (Pass.leaving x [.tracing, .throttle count request] : Pass R U S).Hears (U := U) t x := by
  have told : (Pass.leaving x [] : Pass R U S).Hears (U := U) t x :=
    .of_sure 0 fun _ _ held => ⟨rfl, held⟩
  have judged : (Pass.leaving x [.throttle count request] : Pass R U S).Hears (U := U) t x :=
    .of_sure 0 fun _ _ held => ⟨held, told⟩
  exact .of_sure 0 fun _ _ held => ⟨held, judged⟩

theorem hears_sent (arrival : ℕ) :
    (Pass.sent x arrival [.tracing, .throttle count request] : Pass R U S).Hears (U := U) t x := by
  refine .of_sure (Instant.tick arrival) fun now lane held => ?_
  simp only [process]
  split
  · exact ⟨held, hears_leaving count request x t⟩
  · next early => exact ⟨arrival, rfl, by simpa [Instant.due] using early, le_rfl⟩

theorem hears_permitted (still : Transport.next request t = t) :
    (Pass.entering [.tracing] request [.throttle count request] : Pass R U S).Hears (U := U) t
      (Transport.answer request t) := by
  have arrived : (Pass.entering [] request [.tracing, .throttle count request] :
      Pass R U S).Hears (U := U) t (Transport.answer request t) := by
    refine .of_sure 0 fun now lane held => ?_
    subst held
    exact ⟨still, hears_sent count request _ _ _⟩
  exact .of_sure 0 fun _ _ held => ⟨held, arrived⟩

theorem hears_start (still : Transport.next request t = t) :
    (Pass.start [.throttle count, .tracing] request : Pass R U S).Hears (U := U) t
      (Transport.answer request t) := by
  have permitted := hears_permitted (R := R) (U := U) (S := S) count request t still
  have queued (slot : ℕ) : (Pass.queued slot count [.tracing] request [] : Pass R U S).Hears (U := U)
      t (Transport.answer request t) := by
    refine .of_sure (Instant.tick slot) fun now lane held => ?_
    simp only [process]
    split
    · exact ⟨held, permitted⟩
    · next early => exact ⟨slot, rfl, by simpa [Instant.due] using early, le_rfl⟩
  refine .of_sure 0 fun now lane held => ?_
  simp only [process, Pass.start, Pass.enter]
  split
  · exact ⟨held, queued _⟩
  · exact ⟨held, permitted⟩

end

end Chain

namespace Retry

variable {R σ s α : Type} [Scalar R] {policy : Policy R} {target : String}
  {work : Process (Event R) σ s (Except CallError α)} {kind : σ → Prop} {fresh st : s} {n : ℕ}
  {a value : Except CallError α}

theorem answers_loop (attempt : work.Answers kind a st)
    (ruled : policy.verdict n a = .return value) :
    (loop policy target work fresh).Answers kind value (.attempting n st) := by
  induction attempt with
  | @intro st limit next sure _ ih =>
    refine .of_sure limit fun now w here => ?_
    have forward := sure now w here
    simp only [loop]
    generalize work.move now st w = m at forward
    cases m with
    | waits wake => exact forward
    | goes st' w' events => exact ⟨forward.1, ih st' forward.2⟩
    | ends b w' events =>
      obtain ⟨rfl, fits⟩ := forward
      simp only [ruled]
      exact ⟨rfl, fits⟩

end Retry

section

variable {R T U S K V : Type} [Scalar R] [Transport T] {t : T}

theorem Client.answers_call {c : Client R U S} {request : Request} (decode : Body.Reader V)
    {result : Except CallError (Outcome V)} (bare : c.outer = [])
    (still : Transport.next request t = t)
    (ruled : c.policy.verdict 1 (resultOf request decode (Transport.answer request t)) =
      .return result) :
    (c.call (T := T) decode).Answers (Lane.Over t) result (c.start request) := by
  have pass := (Chain.hears_start (R := R) (U := U) (S := S) c.countNotFound request t still).map
    (resultOf request decode)
  have layers : c.layers = [.throttle c.countNotFound, .tracing] := by rw [Client.layers, bare]; rfl
  rw [← layers] at pass
  exact (c.wraps_call request decode).answers (Retry.answers_loop pass ruled)

theorem RemoteLoader.answers_load (l : RemoteLoader R U S K V) (key : K)
    {result : Except CallError (Outcome V)} (bare : l.client.outer = [])
    (still : Transport.next ((l.request key).notFound .absent) t = t)
    (ruled : l.client.policy.verdict 1 (Client.resultOf ((l.request key).notFound .absent) l.decode
      (Transport.answer ((l.request key).notFound .absent) t)) = .return result) :
    (l.load (T := T)).Answers (Lane.Over t) (Client.lookupOf result) (l.begin key) := by
  have called := Client.answers_call l.decode bare still ruled
  have read := ((Process.wraps_thenReport _ Client.lookupEvents).answers called).map Client.lookupOf
  have begun := (Process.wraps_announce _ l.notices).answers read
  exact .of_idle (fun _ _ => ⟨l.notices, rfl⟩) begun

end

end PacedCalls
