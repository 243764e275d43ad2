import PacedCalls.Proofs.Client.Window

/-!
Permits and exchanges of a fleet that has its controller to itself. A pass takes its permit at the
only throttle of its chain, right before the transport, and does not rest in between; so each permit
that was granted has become the start of an exchange, or is in hand of a pass that is about to make
it. Whatever the middlewares of the user skip, repeat or give up, they do it outside of that.
-/

set_option autoImplicit false

namespace PacedCalls

namespace Chain

section

variable {R T U S : Type}

def Layer.isThrottle : Layer R U S → Bool
  | .throttle _ => true
  | _ => false

/-- One throttle is ahead, and behind it nothing but a tracer. -/
inductive Lone : List (Layer R U S) → Prop where
  | last (count : Bool) : Lone [.throttle count, .tracing]
  | custom (m : Middleware R U S) {inner : List (Layer R U S)} (h : Lone inner) :
      Lone (.custom m :: inner)
  | tracing {inner : List (Layer R U S)} (h : Lone inner) : Lone (.tracing :: inner)

theorem Lone.guarded {layers : List (Layer R U S)} (h : Lone layers) : Guarded layers := by
  induction h with
  | last count => exact .last count
  | custom m _ ih => exact .layer _ ih
  | tracing _ ih => exact .layer _ ih

theorem lone_append {outer : List (Layer R U S)} (h : ∀ layer ∈ outer, layer.isThrottle = false)
    (count : Bool) : Lone (outer ++ [.throttle count, .tracing]) := by
  induction outer with
  | nil => exact .last count
  | cons layer outer ih =>
    obtain ⟨first, rest⟩ := List.forall_mem_cons.mp h
    cases layer with
    | custom m => exact .custom m (ih rest)
    | throttle count' => cases first
    | tracing => exact .tracing (ih rest)

theorem Lone.behind {outer inner : List (Layer R U S)} {m : Middleware R U S}
    (h : Lone (outer ++ .custom m :: inner)) : Lone inner := by
  induction outer with
  | nil =>
    cases h with
    | custom _ h => exact h
  | cons layer outer ih =>
    rw [List.cons_append] at h
    generalize rest : outer ++ .custom m :: inner = layers at h
    cases h with
    | last count => cases outer <;> simp at rest
    | custom _ h => exact ih (rest ▸ h)
    | tracing h => exact ih (rest ▸ h)

def Frame.Lone : Frame R U S → Prop
  | .custom _ _ _ inner => Chain.Lone inner
  | _ => True

theorem Frame.Lone.proper {f : Frame R U S} (h : f.Lone) : f.Proper := by
  cases f with
  | custom m memo limit inner => exact Chain.Lone.guarded h
  | throttle count request => trivial
  | tracing => trivial

/-- A pass through a chain with a single throttle. Behind the throttle there are layers that wait. -/
inductive Pass.Lone : Pass R U S → Prop where
  | entering {layers : List (Layer R U S)} (request : Request) {frames : List (Frame R U S)}
      (ahead : Chain.Lone layers) (around : ∀ f ∈ frames, f.Lone) :
      Lone (.entering layers request frames)
  | tracing (request : Request) {frame : Frame R U S} {frames : List (Frame R U S)}
      (around : ∀ f ∈ frame :: frames, f.Lone) :
      Lone (.entering [.tracing] request (frame :: frames))
  | arrived (request : Request) {frame : Frame R U S} {frames : List (Frame R U S)}
      (around : ∀ f ∈ frame :: frames, f.Lone) : Lone (.entering [] request (frame :: frames))
  | queued (slot : ℕ) (count : Bool) (request : Request) {frames : List (Frame R U S)}
      (around : ∀ f ∈ frames, f.Lone) : Lone (.queued slot count [.tracing] request frames)
  | sent (result : Exchange) (arrival : ℕ) {frames : List (Frame R U S)}
      (around : ∀ f ∈ frames, f.Lone) : Lone (.sent result arrival frames)
  | leaving (result : Exchange) {frames : List (Frame R U S)} (around : ∀ f ∈ frames, f.Lone) :
      Lone (.leaving result frames)

/-- Where a pass can be left alone for a while: before it has begun, while it waits for its slot or
for the transport, and where a middleware of the user is next to act. -/
def Pass.rests : Pass R U S → Bool
  | .entering _ _ [] => true
  | .queued _ _ _ _ _ => true
  | .sent _ _ _ => true
  | pass => pass.pauses

def Pass.frames : Pass R U S → List (Frame R U S)
  | .entering _ _ frames => frames
  | .queued _ _ _ _ frames => frames
  | .sent _ _ frames => frames
  | .leaving _ frames => frames

theorem Pass.Lone.around {pass : Pass R U S} (h : pass.Lone) : ∀ f ∈ pass.frames, f.Lone := by
  cases h with
  | entering request ahead around => exact around
  | tracing request around => exact around
  | arrived request around => exact around
  | queued slot count request around => exact around
  | sent result arrival around => exact around
  | leaving result around => exact around

theorem Pass.Lone.hand_of_rests {pass : Pass R U S} (h : pass.Lone) (rests : pass.rests = true) :
    pass.hand.2 = 0 := by
  cases h with
  | entering request ahead around => rw [ahead.guarded.hand]; rfl
  | tracing request around => cases rests
  | arrived request around => cases rests
  | queued slot count request around => rfl
  | sent result arrival around => rfl
  | leaving result around => rfl

theorem Pass.follow_lone {m : Middleware R U S} {inner : List (Layer R U S)}
    {frames : List (Frame R U S)} {lane lane' : Lane R T U} {act : Act S × U × List (Event R)}
    {pass : Pass R U S} {events : List (Event R)}
    (h : Pass.follow m inner frames lane act = .goes pass lane' events) (ahead : Chain.Lone inner)
    (around : ∀ f ∈ frames, f.Lone) : pass.Lone := by
  obtain ⟨act, user, reports⟩ := act
  cases act with
  | proceed request memo limit =>
    cases h
    exact .entering request ahead (List.forall_mem_cons.mpr ⟨ahead, around⟩)
  | reply result =>
    cases h
    exact .leaving result around

end

end Chain

section

variable {R T U : Type}

/-- The permits granted since then have been used for the exchanges started since then, but for
those in hand before and after. -/
def Lane.Pays (lane : Lane R T U) (permits : ℕ) (lane' : Lane R T U) (permits' : ℕ) : Prop :=
  ∃ starts, lane'.remote.starts = starts + lane.remote.starts ∧
    lane'.governor.granted + permits = lane.governor.granted + starts.card + permits'

theorem Lane.pays_of_keep {lane lane' : Lane R T U} {permits permits' : ℕ}
    (remote : lane'.remote = lane.remote)
    (granted : lane'.governor.granted + permits = lane.governor.granted + permits') :
    lane.Pays permits lane' permits' :=
  ⟨0, by rw [remote, zero_add], by simpa using granted⟩

end

namespace Chain

variable {R T U S : Type} [Scalar R] {now : ℕ} {lane lane' : Lane R T U} {events : List (Event R)}

theorem feedback_granted (count : Bool) (request : Request) (result : Exchange)
    (c : Rate.Controller R) : (feedback count request result c).1.granted = c.granted := by
  simp only [feedback]
  split
  · rfl
  · split
    · rfl
    · split <;> rfl

omit [Scalar R] in
theorem Pass.follow_pays {m : Middleware R U S} {inner : List (Layer R U S)}
    {frames : List (Frame R U S)} {act : Act S × U × List (Event R)} {pass : Pass R U S}
    (h : Pass.follow m inner frames lane act = .goes pass lane' events) (ahead : Chain.Lone inner)
    (around : ∀ f ∈ frames, f.Lone) : pass.Lone ∧ lane.Pays 0 lane' pass.hand.2 := by
  obtain ⟨-, none, governor, remote⟩ :=
    Pass.follow_goes h ahead.guarded fun f hf => (around f hf).proper
  refine ⟨Pass.follow_lone h ahead around, Lane.pays_of_keep remote ?_⟩
  rw [none, governor]
  rfl

omit [Scalar R] in
theorem Pass.wait_pays {moment : ℕ} {frames : List (Frame R U S)} {pass : Pass R U S}
    (h : Pass.wait now moment frames lane = .goes pass lane' events)
    (around : ∀ f ∈ frames, f.Lone) : pass.Lone ∧ lane.Pays 0 lane' pass.hand.2 := by
  simp only [Pass.wait] at h
  split at h
  · next late =>
    obtain ⟨⟨limit, mem⟩, sub⟩ := expired_mem late
    exact Pass.follow_pays h (around _ mem) fun f hf => around f (sub hf)
  · cases h

variable [Transport T]

theorem process_pays {pass pass' : Pass R U S}
    (h : process.move now pass lane = .goes pass' lane' events) (lone : pass.Lone) :
    pass'.Lone ∧ lane.Pays pass.hand.2 lane' pass'.hand.2 := by
  have waiting (layer : Frame R U S) (inside : layer.Lone) {frames : List (Frame R U S)}
      (around : ∀ f ∈ frames, f.Lone) : ∀ f ∈ layer :: frames, f.Lone :=
    List.forall_mem_cons.mpr ⟨inside, around⟩
  cases lone with
  | @entering layers request frames ahead around =>
    rw [ahead.guarded.hand]
    cases ahead with
    | last count =>
      -- The slot is waited for, and no permit taken yet; or the permit is in hand at once.
      simp only [process, Pass.enter] at h
      split at h
      · cases h
        exact ⟨.queued _ count request around, Lane.pays_of_keep rfl rfl⟩
      · cases h
        exact ⟨.tracing request (waiting (.throttle count request) trivial around),
          Lane.pays_of_keep rfl rfl⟩
    | custom m ahead => exact Pass.follow_pays h ahead around
    | tracing ahead =>
      cases h
      refine ⟨.entering request ahead (waiting .tracing trivial around), Lane.pays_of_keep rfl ?_⟩
      rw [ahead.guarded.hand]
  | tracing request around =>
    cases h
    exact ⟨.arrived request (waiting .tracing trivial around), Lane.pays_of_keep rfl rfl⟩
  | arrived request around =>
    -- The permit in hand becomes a start.
    cases h
    exact ⟨.sent _ _ around, {now}, (Multiset.cons_coe _ _).symm, rfl⟩
  | queued slot count request around =>
    simp only [process] at h
    split at h
    · cases h
      exact ⟨.tracing request (waiting (.throttle count request) trivial around),
        Lane.pays_of_keep rfl rfl⟩
    · exact Pass.wait_pays h around
  | sent result arrival around =>
    simp only [process] at h
    split at h
    · cases h
      exact ⟨.leaving result around, Lane.pays_of_keep rfl rfl⟩
    · exact Pass.wait_pays h around
  | @leaving result frames around =>
    cases frames with
    | nil => cases h
    | cons frame frames =>
      obtain ⟨first, rest⟩ := List.forall_mem_cons.mp around
      cases frame with
      | custom m memo limit inner => exact Pass.follow_pays h first rest
      | throttle count request =>
        cases h
        have same := feedback_granted count request result lane.governor
        exact ⟨.leaving result rest, Lane.pays_of_keep rfl (congrArg (· + 0) same)⟩
      | tracing =>
        cases h
        exact ⟨.leaving result rest, Lane.pays_of_keep rfl rfl⟩

end Chain

def Client.Plain {R U S : Type} (c : Client R U S) : Prop :=
  ∀ layer ∈ c.outer, layer.isThrottle = false

theorem Client.Plain.lone {R U S : Type} {c : Client R U S} (h : c.Plain) : Chain.Lone c.layers :=
  Chain.lone_append h c.countNotFound

namespace Errand

variable {R U S V : Type}

def Lone (errand : Errand R U S V) : Prop :=
  (∀ client ∈ errand.client?, client.Plain) ∧ ∀ pass ∈ errand.pass?, pass.Lone

def goOn (errand : Errand R U S V) (pass : Chain.Pass R U S) : Errand R U S V :=
  match errand with
  | .call client decode state =>
    match state.phase with
    | .attempting n _ => .call client decode { state with phase := .attempting n pass }
    | .waiting _ _ => errand
  | .branch _ => .branch pass

theorem goOn_client? (errand : Errand R U S V) (pass : Chain.Pass R U S) :
    (errand.goOn pass).client? = errand.client? := by
  cases errand with
  | call client decode state =>
    obtain ⟨request, phase⟩ := state
    cases phase <;> rfl
  | branch pass' => rfl

theorem goOn_pass? {errand : Errand R U S V} {pass : Chain.Pass R U S}
    (h : errand.pass? = some pass) (pass' : Chain.Pass R U S) :
    (errand.goOn pass').pass? = some pass' := by
  cases errand with
  | call client decode state =>
    obtain ⟨request, phase⟩ := state
    cases phase with
    | attempting n st => rfl
    | waiting n wake => cases h
  | branch pass'' => rfl

/-- Between two attempts a call rests, and in an attempt if its pass does. -/
def rests (errand : Errand R U S V) : Bool := errand.pass?.all Chain.Pass.rests

theorem Lone.hand_of_rests {errand : Errand R U S V} (h : errand.Lone)
    (rests : errand.rests = true) : errand.hand.2 = 0 := by
  cases hp : errand.pass? with
  | none => rw [hand_none hp]; rfl
  | some pass =>
    rw [hand_some hp]
    exact (h.2 pass hp).hand_of_rests (by simpa [Errand.rests, hp] using rests)

end Errand

theorem Job.process_pays {R T U S V P : Type} [Scalar R] [Transport T] {now : ℕ}
    {job job' : Job R U S V P} {lane lane' : Lane R T U} {events : List (Event R)}
    (h : Job.process.move now job lane = .goes job' lane' events) (lone : job.errand.Lone) :
    job'.errand.Lone ∧ lane.Pays job.errand.hand.2 lane' job'.errand.hand.2 := by
  obtain ⟨-, client, cases_⟩ := goes_cases h
  obtain ⟨plain, passes⟩ := lone
  have lone' (hp : ∀ pass ∈ job'.errand.pass?, pass.Lone) : job'.errand.Lone :=
    ⟨by rwa [client], hp⟩
  rcases cases_ with ⟨pass, pass', _, old, new, goes⟩ | ⟨pass, result, _, old, new, ends⟩ |
    ⟨c, request, made, old, new, rfl⟩
  · obtain ⟨next, pays⟩ := Chain.process_pays goes (passes pass old)
    rw [Errand.hand_some old, Errand.hand_some new]
    refine ⟨lone' fun p hp => ?_, pays⟩
    rw [new] at hp
    cases hp
    exact next
  · obtain ⟨none, rfl⟩ := Chain.process_ends ends
    rw [Errand.hand_some old, Errand.hand_none new, none]
    refine ⟨lone' fun p hp => ?_, Lane.pays_of_keep rfl rfl⟩
    rw [new] at hp
    cases hp
  · have ahead := (plain c made).lone
    rw [Errand.hand_none old, Errand.hand_some new, Chain.Pass.start, ahead.guarded.hand]
    refine ⟨lone' fun p hp => ?_, Lane.pays_of_keep rfl rfl⟩
    rw [new] at hp
    cases hp
    exact .entering request ahead (by simp)

theorem Errand.Lone.lapse {R T U S V : Type} {errand : Errand R U S V} {now : ℕ}
    {lane lane' : Lane R T U} {events : List (Event R)} {pass pass' : Chain.Pass R U S}
    {m : Chain.Middleware R U S} {memo : S} {limit : Option ℕ} {inner : List (Chain.Layer R U S)}
    {inside outer : List (Chain.Frame R U S)} (lone : errand.Lone)
    (running : errand.pass? = some pass) (rests : pass.rests = true)
    (waiting : pass.frames = inside ++ .custom m memo limit inner :: outer)
    (gives : Chain.Pass.follow m inner outer lane (m.expire now memo lane.user) =
      .goes pass' lane' events) :
    (errand.goOn pass').Lone ∧ lane.Pays errand.hand.2 lane' (errand.goOn pass').hand.2 := by
  obtain ⟨plain, passes⟩ := lone
  have around : ∀ f ∈ inside ++ .custom m memo limit inner :: outer, f.Lone :=
    waiting ▸ (passes pass running).around
  obtain ⟨next, pays⟩ := Chain.Pass.follow_pays gives (around (.custom m memo limit inner) (by simp))
    fun f hf => around f (by simp [hf])
  rw [hand_some running, (passes pass running).hand_of_rests rests,
    hand_some (goOn_pass? running pass')]
  refine ⟨⟨by rwa [goOn_client?], fun p hp => ?_⟩, pays⟩
  rw [goOn_pass? running] at hp
  cases hp
  exact next

namespace Fleet

variable {R T U S V P : Type} [Scalar R] [Transport T] [DecidableEq P]

/-- One step of a fleet that has its controller to itself, with clients whose only throttle is their
own. Where a job rests it may be given up, and so may what a layer of the user waits for. Time may
pass at any moment, and the rate and the slots of the controller may be changed from outside, as
long as no permit is taken. -/
inductive Turn (fleet : Fleet R T U S V P) : Fleet R T U S V P → Prop where
  | begin (place : P) (client : Client R U S) (plain : client.Plain) (decode : Body.Reader V)
      (request : Request) :
      Turn fleet { fleet with jobs := fleet.jobs ++ [.call place client decode request] }
  | branch (place : P) (client : Client R U S) (plain : client.Plain)
      (outer inner : List (Chain.Layer R U S)) (m : Chain.Middleware R U S) (request : Request)
      (behind : client.layers = outer ++ .custom m :: inner) :
      Turn fleet { fleet with jobs := fleet.jobs ++ [.branch place inner request] }
  | move (before after : List (Job R U S V P)) (job job' : Job R U S V P) (world : Lane R T U)
      (events : List (Event R)) (here : fleet.jobs = before ++ job :: after)
      (moves : Job.process.move fleet.now job ((lane job.place).get fleet) =
        .goes job' world events) :
      Turn fleet ((lane job.place).set world { fleet with jobs := before ++ job' :: after })
  | finish (before after : List (Job R U S V P)) (job : Job R U S V P) (world : Lane R T U)
      (events : List (Event R)) (here : fleet.jobs = before ++ job :: after)
      (moves : Job.process.move fleet.now job ((lane job.place).get fleet) =
        .ends () world events) :
      Turn fleet ((lane job.place).set world { fleet with jobs := before ++ after })
  | cancel (before after : List (Job R U S V P)) (job : Job R U S V P)
      (here : fleet.jobs = before ++ job :: after) (rests : job.errand.rests = true) :
      Turn fleet ((lane job.place).set
        (Job.process.abandon job ((lane job.place).get fleet))
        { fleet with jobs := before ++ after })
  | lapse (before after : List (Job R U S V P)) (job : Job R U S V P)
      (pass pass' : Chain.Pass R U S) (m : Chain.Middleware R U S) (memo : S) (limit : Option ℕ)
      (inner : List (Chain.Layer R U S)) (inside outer : List (Chain.Frame R U S))
      (world : Lane R T U) (events : List (Event R)) (here : fleet.jobs = before ++ job :: after)
      (running : job.errand.pass? = some pass) (rests : pass.rests = true)
      (waiting : pass.frames = inside ++ .custom m memo limit inner :: outer)
      (gives : Chain.Pass.follow m inner outer ((lane job.place).get fleet)
        (m.expire fleet.now memo fleet.user) = .goes pass' world events) :
      Turn fleet ((lane job.place).set world
        { fleet with jobs := before ++ { job with errand := job.errand.goOn pass' } :: after })
  | govern (governor : Rate.Controller R) (same : governor.granted = fleet.governor.granted) :
      Turn fleet { fleet with governor := governor }
  | drift (user : U) : Turn fleet { fleet with user := user }
  | wait (later : ℕ) (ahead : fleet.now ≤ later) : Turn fleet { fleet with now := later }

def Turns : Fleet R T U S V P → Fleet R T U S V P → Prop :=
  Relation.ReflTransGen Turn

variable {fleet fleet' : Fleet R T U S V P}

omit [Transport T] [DecidableEq P] in
theorem granted_heed (c : Rate.Controller R) (signal : Rate.Signal R) :
    (c.heed signal).granted = c.granted := by
  cases signal with
  | increase => rfl
  | decrease => rfl
  | reset => rfl
  | setMin min =>
    simp only [Rate.Controller.heed, Rate.Controller.setMin, bind, Except.bind]
    rcases c.limits.setMin min with e | limits <;> rfl

/-- Whether a deed is a turn of a fleet that has its controller to itself. -/
def Deed.isTurn (fleet : Fleet R T U S V P) : Deed R U S V P → Bool
  | .begin _ client _ _ => client.outer.all fun layer => !layer.isThrottle
  | .cancel index => fleet.jobs[index]?.all fun job => job.errand.rests
  | _ => true

theorem turn_of_perform {deed : Deed R U S V P} (turn : deed.isTurn fleet = true)
    (h : fleet.perform deed = some fleet') : Turn fleet fleet' := by
  cases deed with
  | begin place client decode request =>
    cases h
    exact .begin place client (by simpa [Deed.isTurn, Client.Plain] using turn) decode request
  | go index =>
    simp only [perform] at h
    split at h
    · cases h
    · next job here =>
      split at h
      · cases h
      · next moves =>
        cases h
        exact .move _ _ job _ _ _ (jobs_at here) moves
      · next moves =>
        cases h
        exact .finish _ _ job _ _ (jobs_at here) moves
  | cancel index =>
    simp only [perform] at h
    split at h
    · cases h
    · next job here =>
      cases h
      exact .cancel _ _ job (jobs_at here) (by simpa [Deed.isTurn, here] using turn)
  | heed signal =>
    cases h
    exact .govern _ (granted_heed _ signal)
  | reserve =>
    cases h
    exact .govern _ rfl
  | drift user =>
    cases h
    exact .drift user
  | wait later =>
    simp only [perform] at h
    split at h
    · next possible =>
      cases h
      exact .wait later possible.1
    · cases h

def playTurns : List (Deed R U S V P) → Fleet R T U S V P → Option (Fleet R T U S V P)
  | [], fleet => some fleet
  | deed :: more, fleet =>
    if deed.isTurn fleet then (fleet.perform deed).bind (playTurns more) else none

theorem turns_of_playTurns {deeds : List (Deed R U S V P)}
    (h : playTurns deeds fleet = some fleet') : Turns fleet fleet' := by
  induction deeds generalizing fleet with
  | nil =>
    cases h
    exact .refl
  | cons deed more ih =>
    rw [playTurns] at h
    split at h
    · next turn =>
      obtain ⟨next, hp, hm⟩ := Option.bind_eq_some_iff.mp h
      exact .head (turn_of_perform turn hp) (ih hm)
    · cases h

variable [Fintype P]

omit [Scalar R] [Transport T] [DecidableEq P] in
/-- What was granted has been used, or is in hand. -/
structure Settled (fleet : Fleet R T U S V P) : Prop where
  lone : ∀ job ∈ fleet.jobs, job.errand.Lone
  balance : fleet.governor.granted = fleet.starts.card + (handOf fleet.jobs).2

omit [Scalar R] [Transport T] [DecidableEq P] in
theorem Settled.add (h : fleet.Settled) {job : Job R U S V P} (lone : job.errand.Lone)
    (none : job.errand.hand.2 = 0) : ({ fleet with jobs := fleet.jobs ++ [job] }).Settled where
  lone := by
    intro job' hj
    rcases List.mem_append.mp hj with old | new
    · exact h.lone job' old
    · rw [List.mem_singleton.mp new]
      exact lone
  balance := by
    have same : (handOf (fleet.jobs ++ [job])).2 = (handOf fleet.jobs).2 := by simp [handOf, none]
    rw [same]
    exact h.balance

omit [Scalar R] [Transport T] [DecidableEq P] in
theorem Settled.remove (h : fleet.Settled) {before after : List (Job R U S V P)}
    {job : Job R U S V P} (here : fleet.jobs = before ++ job :: after)
    (none : job.errand.hand.2 = 0) : ({ fleet with jobs := before ++ after }).Settled where
  lone := fun job' hj => h.lone job' (by
    rw [here]
    rcases List.mem_append.mp hj with hb | ha
    · exact List.mem_append_left _ hb
    · exact List.mem_append_right _ (List.mem_cons_of_mem _ ha))
  balance := by
    have same : (handOf fleet.jobs).2 = (handOf (before ++ after)).2 := by
      rw [here, handOf_at, Prod.snd_add, none, zero_add]
    rw [← same]
    exact h.balance

omit [Scalar R] [Transport T] in
theorem Settled.worked (h : fleet.Settled) {before after : List (Job R U S V P)}
    {job job' : Job R U S V P} {world : Lane R T U} (here : fleet.jobs = before ++ job :: after)
    (lone' : job'.errand.Lone)
    (pays : ((lane job.place).get fleet).Pays job.errand.hand.2 world job'.errand.hand.2) :
    ((lane job.place).set world { fleet with jobs := before ++ job' :: after }).Settled := by
  obtain ⟨starts, remote, paid⟩ := pays
  refine ⟨fun j hj => ?_, ?_⟩
  · rcases List.mem_append.mp hj with hb | ha
    · exact h.lone j (by simp [here, hb])
    · rcases List.mem_cons.mp ha with rfl | ha
      · exact lone'
      · exact h.lone j (by simp [here, ha])
  · have balance := h.balance
    rw [here, handOf_at, Prod.snd_add] at balance
    have paid : world.governor.granted + job.errand.hand.2 =
        fleet.governor.granted + starts.card + job'.errand.hand.2 := paid
    have hands : (handOf (before ++ job' :: after)).2 =
        job'.errand.hand.2 + (handOf (before ++ after)).2 := by rw [handOf_at, Prod.snd_add]
    rw [starts_set remote, Multiset.card_add]
    show world.governor.granted = _ + (handOf (before ++ job' :: after)).2
    omega

theorem Settled.turn (h : fleet.Settled) (t : Turn fleet fleet') : fleet'.Settled := by
  cases t with
  | begin place client plain decode request =>
    have ahead := plain.lone
    refine h.add ⟨?_, ?_⟩ (by rw [Errand.hand_some rfl, Chain.Pass.start, ahead.guarded.hand]; rfl)
    · rintro c ⟨⟩
      exact plain
    · rintro pass ⟨⟩
      exact .entering request ahead (by simp)
  | branch place client plain outer inner m request behind =>
    have ahead : Chain.Lone inner := (behind ▸ plain.lone).behind
    refine h.add ⟨?_, ?_⟩ (by rw [Errand.hand_some rfl, Chain.Pass.start, ahead.guarded.hand]; rfl)
    · rintro c ⟨⟩
    · rintro pass ⟨⟩
      exact .entering request ahead (by simp)
  | move before after job job' world events here moves =>
    obtain ⟨lone', pays⟩ := Job.process_pays moves (h.lone job (by simp [here]))
    exact h.worked here lone' pays
  | finish before after job world events here moves =>
    obtain ⟨none, rfl⟩ := Job.process_ends moves
    rw [set_get]
    exact h.remove here (by rw [none]; rfl)
  | cancel before after job here rests =>
    rw [Job.process_abandon, set_get]
    exact h.remove here ((h.lone job (by simp [here])).hand_of_rests rests)
  | lapse before after job pass pass' m memo limit inner inside outer world events here running rests
      waiting gives =>
    obtain ⟨lone', pays⟩ := (h.lone job (by simp [here])).lapse running rests waiting gives
    exact h.worked here lone' pays
  | govern governor same => exact ⟨h.lone, same.trans h.balance⟩
  | drift user => exact ⟨h.lone, h.balance⟩
  | wait later ahead => exact ⟨h.lone, h.balance⟩

theorem Settled.turns (h : fleet.Settled) (run : Turns fleet fleet') : fleet'.Settled := by
  induction run with
  | refl => exact h
  | tail _ last ih => exact ih.turn last

omit [Transport T] [DecidableEq P] in
theorem granted_of_create {config : Rate.Config R} {c : Rate.Controller R} {events : List (Event R)}
    (h : Rate.Controller.create config = .ok (c, events)) : c.granted = 0 := by
  obtain ⟨-, rfl⟩ := Rate.create_ok h
  rfl

omit [Transport T] [DecidableEq P] in
theorem settled_opening {config : Rate.Config R} {governor : Rate.Controller R}
    {events : List (Event R)} (made : Rate.Controller.create config = .ok (governor, events))
    (transports : P → T) (user : U) (now : ℕ) :
    (opening governor transports user now : Fleet R T U S V P).Settled where
  lone := by simp [opening]
  balance := by
    have none : (opening governor transports user now : Fleet R T U S V P).starts = 0 := by
      simp [starts, opening, Remote.starts]
    rw [none]
    exact granted_of_create made

omit [Scalar R] [Transport T] [DecidableEq P] [Fintype P] in
theorem snd_handOf {jobs : List (Job R U S V P)} (h : ∀ job ∈ jobs, job.errand.hand.2 = 0) :
    (handOf jobs).2 = 0 := by
  induction jobs with
  | nil => rfl
  | cons job jobs ih =>
    obtain ⟨first, rest⟩ := List.forall_mem_cons.mp h
    rw [handOf_cons, Prod.snd_add, first, ih rest]

/-- No exchange without a permit, and no permit without an exchange: the exchanges that have started
are never more than the permits that were granted, and just as many while all jobs rest. -/
theorem granted_eq_starts {config : Rate.Config R} {governor : Rate.Controller R}
    {events : List (Event R)} (made : Rate.Controller.create config = .ok (governor, events))
    (transports : P → T) (user : U) (now : ℕ)
    (run : Turns (opening governor transports user now) fleet) :
    fleet.starts.card ≤ fleet.governor.granted ∧
      ((∀ job ∈ fleet.jobs, job.errand.rests = true) →
        fleet.governor.granted = fleet.starts.card) := by
  have settled := (settled_opening made transports user now).turns run
  refine ⟨?_, fun rest => ?_⟩
  · rw [settled.balance]
    exact Nat.le_add_right _ _
  · have none : (handOf fleet.jobs).2 = 0 :=
      snd_handOf fun job hj => (settled.lone job hj).hand_of_rests (rest job hj)
    rw [settled.balance, none, add_zero]

/-- A call goes through a timeout and a middleware that sends everything twice; between its two
exchanges another call comes, and is given up while it waits for its slot. A third one has only
just come. -/
def twiceAndGivenUp : List (Deed Float Unit (Option Request) Unit Unit) :=
  let client : Client Float Unit (Option Request) :=
    { outer := [.custom (.timeout none 800000000), .custom .twice] }
  let request : Request := { method := ⟨"GET"⟩, url := "/" }
  List.flatten
    [[.begin () client Body.ignore request], .replicate 10 (.go 0),
      [.begin () client Body.ignore request], .replicate 3 (.go 1), [.cancel 1, .wait 500000000],
      .replicate 3 (.go 0), [.begin () client Body.ignore request]]

theorem granted_eq_starts_twiceAndGivenUp :
    ∃ fleet : Fleet Float Script Unit (Option Request) Unit Unit,
      Turns (opening (.ofConfig halfSecondly) (fun _ => Script.ofList []) () 0) fleet ∧
        fleet.jobs.length = 2 ∧ fleet.governor.granted = 2 ∧ fleet.starts.card = 2 := by
  have run : (playTurns twiceAndGivenUp
      (opening (.ofConfig halfSecondly) (fun _ => Script.ofList []) () 0 :
        Fleet Float Script Unit (Option Request) Unit Unit)).map (fun fleet =>
          (fleet.jobs.length, fleet.governor.granted, fleet.jobs.all fun job => job.errand.rests)) =
      some (2, 2, true) := by
    decide +kernel
  obtain ⟨fleet, played, state⟩ := Option.map_eq_some_iff.mp run
  simp only [Prod.mk.injEq, List.all_eq_true] at state
  obtain ⟨jobs, granted, rest⟩ := state
  have made : Rate.Controller.create halfSecondly = .ok (.ofConfig halfSecondly, _) := rfl
  obtain ⟨-, same⟩ := granted_eq_starts made _ () 0 (turns_of_playTurns played)
  exact ⟨fleet, turns_of_playTurns played, jobs, granted, (same rest).symm.trans granted⟩

end Fleet

end PacedCalls
