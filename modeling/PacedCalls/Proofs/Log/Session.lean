import Mathlib.Tactic.Common
import PacedCalls.Log.Session

/-!
Whether a process can trust what it is told of its log. The flag is raised before the filter is
there, and it is lowered again only if there is a subscriber already. Where no filter can be had it
stays raised over nothing; where one always can, the flag is right, one subscriber at most is
installed, and a refusal is never kept back.
-/

set_option autoImplicit false

namespace PacedCalls.Log

variable {F : Type} {read : String → Except String F}

/-- Every level has a filter. Then there is one, whatever the environment says. -/
def Accepts (read : String → Except String F) : Prop :=
  ∀ l : Level, ∃ f, read l.directive = .ok f

theorem Settings.filter_of_accepts (accepts : Accepts read) (c : Settings) (env : Environment) :
    ∃ f, c.filter read env = .ok f := by
  rw [filter]
  split
  · next f _ => exact ⟨f, rfl⟩
  · exact accepts c.level

namespace Session

def IsOwn (s : Session F) : Prop := ∃ c f, s.subscriber = some (.own c f)

def Sound (s : Session F) : Prop := s.installed = true ↔ s.IsOwn

theorem Sound.not_isOwn {s : Session F} (sound : s.Sound) (free : s.installed = false) :
    ¬ s.IsOwn := by
  intro own
  simp [sound.mpr own] at free

theorem install_of_installed {s : Session F} (raised : s.installed = true) (c : Settings) :
    s.install read c = (.ok (), s) := by
  simp [install, raised]

theorem install_of_refused {s : Session F} (free : s.installed = false) {c : Settings}
    {message : String} (refused : c.filter read s.environment = .error message) :
    s.install read c = (.error (.filter message), { s with installed := true }) := by
  simp [install, free, refused]

theorem install_cases {s : Session F} {c : Settings}
    (filtered : s.installed = false → ∃ f, c.filter read s.environment = .ok f) :
    (s.installed = true ∧ s.install read c = (.ok (), s)) ∨
    (s.installed = false ∧ s.subscriber ≠ none ∧ s.install read c = (.error .taken, s)) ∨
    (s.installed = false ∧ s.subscriber = none ∧ ∃ f, s.install read c =
      (.ok (), { s with installed := true, subscriber := some (.own c f) })) := by
  obtain ⟨env, config, installed, subscriber⟩ := s
  cases installed with
  | true => exact .inl ⟨rfl, install_of_installed rfl c⟩
  | false =>
    obtain ⟨f, eq⟩ := filtered rfl
    simp only at eq
    cases subscriber with
    | some who => exact .inr (.inl ⟨rfl, by simp, by simp [install, eq, subscribe]⟩)
    | none => exact .inr (.inr ⟨rfl, rfl, f, by simp [install, eq, subscribe]⟩)

theorem install_with_config (read : String → Except String F) (s : Session F)
    (config : Option Settings) (c : Settings) :
    ({ s with config := config } : Session F).install read c =
      ((s.install read c).1, { (s.install read c).2 with config := config }) := by
  obtain ⟨env, _, installed, subscriber⟩ := s
  cases installed with
  | true => rfl
  | false =>
    simp only [install]
    cases c.filter read env with
    | error message => rfl
    | ok f => cases subscriber <;> rfl

/-- What may happen to a session. -/
inductive Deed where
  | init
  | install (c : Settings)
  | consult
  | setVariable (name : String) (value : Bytes)
  | unsetVariable (name : String)
  | intrude

def perform (read : String → Except String F) (s : Session F) :
    Deed → Option (Except InstallError Unit) × Session F
  | .init => (none, s.init read)
  | .install c => (some (s.install read c).1, (s.install read c).2)
  | .consult => (none, s.settings.2)
  | .setVariable name value => (none, s.setVariable name value)
  | .unsetVariable name =>
    (none, { s with environment := s.environment.filter (·.1 != name) })
  | .intrude => (none, s.intrude.2)

def wanted? (s : Session F) : Deed → Option Settings
  | .init => some s.settings.1
  | .install c => some c
  | _ => none

structure Step (F : Type) where
  before : Session F
  deed : Deed

namespace Step

def told (read : String → Except String F) (step : Step F) : Option (Except InstallError Unit) :=
  (step.before.perform read step.deed).1

def after (read : String → Except String F) (step : Step F) : Session F :=
  (step.before.perform read step.deed).2

/-- A subscriber is to be installed, but there is no filter. -/
def Unfiltered (read : String → Except String F) (step : Step F) : Prop :=
  step.before.installed = false ∧ ∃ c message, step.before.wanted? step.deed = some c ∧
    c.filter read step.before.environment = .error message

def Installs (read : String → Except String F) (step : Step F) : Prop :=
  ¬ step.before.IsOwn ∧ (step.after read).IsOwn

def Refuses (read : String → Except String F) (step : Step F) : Prop :=
  ∃ e, step.told read = some (.error e)

theorem not_unfiltered (accepts : Accepts read) (step : Step F) : ¬ step.Unfiltered read := by
  rintro ⟨-, c, message, -, refused⟩
  obtain ⟨f, eq⟩ := c.filter_of_accepts accepts step.before.environment
  simp [eq] at refused

theorem filtered {step : Step F} (whole : ¬ step.Unfiltered read) {c : Settings}
    (wanted : step.before.wanted? step.deed = some c) (free : step.before.installed = false) :
    ∃ f, c.filter read step.before.environment = .ok f := by
  cases eq : c.filter read step.before.environment with
  | ok f => exact ⟨f, rfl⟩
  | error message => exact absurd ⟨free, c, message, wanted, eq⟩ whole

theorem after_of_wanted (read : String → Except String F) {step : Step F} {c : Settings}
    (wanted : step.before.wanted? step.deed = some c) :
    (step.after read).installed = (step.before.install read c).2.installed ∧
      (step.after read).subscriber = (step.before.install read c).2.subscriber := by
  obtain ⟨s, deed⟩ := step
  cases deed with
  | init =>
    obtain rfl : s.settings.1 = c := by simpa [wanted?] using wanted
    have eq := install_with_config read s (some s.settings.1) s.settings.1
    exact ⟨congrArg (·.2.installed) eq, congrArg (·.2.subscriber) eq⟩
  | install c' =>
    obtain rfl : c' = c := by simpa [wanted?] using wanted
    exact ⟨rfl, rfl⟩
  | consult | setVariable | unsetVariable | intrude => simp [wanted?] at wanted

inductive Course (s s' : Session F) : Prop where
  | still (flag : s'.installed = s.installed) (same : s'.subscriber = s.subscriber)
  | intruded (nobody : s.subscriber = none) (flag : s'.installed = s.installed)
      (foreign : s'.subscriber = some .foreign)
  | installed (free : s.installed = false) (nobody : s.subscriber = none)
      (raised : s'.installed = true) (own : s'.IsOwn)

theorem course {step : Step F} (whole : ¬ step.Unfiltered read) :
    Course step.before (step.after read) := by
  cases wanted : step.before.wanted? step.deed with
  | some c =>
    obtain ⟨flag, subscriber⟩ := after_of_wanted read wanted
    obtain ⟨-, eq⟩ | ⟨-, -, eq⟩ | ⟨free, nobody, f, eq⟩ := install_cases (filtered whole wanted)
    · exact .still (by rw [flag, eq]) (by rw [subscriber, eq])
    · exact .still (by rw [flag, eq]) (by rw [subscriber, eq])
    · exact .installed free nobody (by rw [flag, eq]) ⟨c, f, by rw [subscriber, eq]⟩
  | none =>
    obtain ⟨s, deed⟩ := step
    -- Who does not want to install can at most take the place of nobody.
    cases deed with
    | init | install => simp [wanted?] at wanted
    | consult | setVariable | unsetVariable => exact .still rfl rfl
    | intrude =>
      cases someone : s.subscriber with
      | none =>
        exact .intruded someone (by simp [after, perform, Session.intrude, subscribe, someone])
          (by simp [after, perform, Session.intrude, subscribe, someone])
      | some who =>
        exact .still (by simp [after, perform, Session.intrude, subscribe, someone])
          (by simp [after, perform, Session.intrude, subscribe, someone])

theorem after_of_unfiltered {step : Step F} (refused : step.Unfiltered read) :
    (step.after read).installed = true ∧
      (step.after read).subscriber = step.before.subscriber := by
  obtain ⟨free, c, message, wanted, refused⟩ := refused
  obtain ⟨flag, subscriber⟩ := after_of_wanted read wanted
  have eq := install_of_refused free refused
  exact ⟨by rw [flag, eq], by rw [subscriber, eq]⟩

/-- The first subscriber is never replaced. -/
theorem subscriber_after (step : Step F) {who : Subscriber F}
    (first : step.before.subscriber = some who) : (step.after read).subscriber = some who := by
  by_cases refused : step.Unfiltered read
  · rw [(after_of_unfiltered refused).2, first]
  · cases course refused with
    | still _ same => rw [same, first]
    | intruded nobody => simp [first] at nobody
    | installed _ nobody => simp [first] at nobody

theorem sound_after_iff (read : String → Except String F) (step : Step F)
    (sound : step.before.Sound) :
    (step.after read).Sound ↔ ¬ step.Unfiltered read := by
  constructor
  · intro sound' refused
    obtain ⟨raised, same⟩ := after_of_unfiltered refused
    have own := sound'.mp raised
    rw [IsOwn, same] at own
    exact sound.not_isOwn refused.1 own
  · intro whole
    cases course whole with
    | still flag same => rw [Sound, IsOwn, flag, same]; exact sound
    | intruded nobody flag foreign =>
      rw [Sound, flag]
      exact sound.trans (by simp [IsOwn, nobody, foreign])
    | installed _ _ raised own => exact iff_of_true raised own

theorem told_of_install {step : Step F} {c : Settings} (deed : step.deed = .install c) :
    step.told read = some (step.before.install read c).1 := by
  rw [told, deed, perform]

theorem after_of_install {step : Step F} {c : Settings} (deed : step.deed = .install c) :
    step.after read = (step.before.install read c).2 := by
  rw [after, deed, perform]

theorem exists_install_of_told {step : Step F} {answer : Except InstallError Unit}
    (h : step.told read = some answer) : ∃ c, step.deed = .install c := by
  obtain ⟨s, deed⟩ := step
  cases deed with
  | install c => exact ⟨c, rfl⟩
  | init | consult | setVariable | unsetVariable | intrude => simp [told, perform] at h

theorem answer_cases {step : Step F} {c : Settings} (sound : step.before.Sound)
    (whole : ¬ step.Unfiltered read) (deed : step.deed = .install c) :
    (step.told read = some (.error .taken) ∧ step.before.subscriber = some .foreign ∧
      (step.after read).installed = false) ∨
    (step.told read = some (.ok ()) ∧ step.before.subscriber ≠ some .foreign ∧
      (step.after read).IsOwn) := by
  rw [told_of_install deed, after_of_install deed]
  have wanted : step.before.wanted? step.deed = some c := by rw [deed]; rfl
  obtain ⟨raised, eq⟩ | ⟨free, taken, eq⟩ | ⟨-, nobody, f, eq⟩ :=
    install_cases (filtered whole wanted)
  · obtain ⟨c', f, own⟩ := sound.mp raised
    rw [eq]
    exact .inr ⟨rfl, by simp [own], c', f, own⟩
  · rw [eq]
    refine .inl ⟨rfl, ?_, free⟩
    cases who : step.before.subscriber with
    | none => exact absurd who taken
    | some who' =>
      cases who' with
      | foreign => rfl
      | own c' f => exact absurd ⟨c', f, who⟩ (sound.not_isOwn free)
  · rw [eq]
    exact .inr ⟨rfl, by simp [nobody], c, f, rfl⟩

theorem refuses_iff {step : Step F} {c : Settings} (sound : step.before.Sound)
    (whole : ¬ step.Unfiltered read) (deed : step.deed = .install c) :
    step.Refuses read ↔ step.before.subscriber = some .foreign := by
  obtain ⟨told, foreign, -⟩ | ⟨told, foreign, -⟩ := answer_cases sound whole deed
  · exact iff_of_true ⟨_, told⟩ foreign
  · exact iff_of_false (by simp [Refuses, told]) foreign

end Step

def trail (read : String → Except String F) : Session F → List Deed → List (Step F)
  | _, [] => []
  | s, deed :: deeds => ⟨s, deed⟩ :: trail read (s.perform read deed).2 deeds

theorem before_of_lasting {P : Session F → Prop}
    (keeps : ∀ step : Step F, P step.before → P (step.after read)) {s : Session F}
    {deeds : List Deed} {step : Step F} (mem : step ∈ s.trail read deeds) (first : P s) :
    P step.before := by
  induction deeds generalizing s with
  | nil => cases mem
  | cons deed deeds ih =>
    rcases List.mem_cons.mp mem with rfl | mem
    · exact first
    · exact ih mem (keeps ⟨s, deed⟩ first)

theorem pairwise_of_lasting (P : Session F → Prop)
    (keeps : ∀ step : Step F, P step.before → P (step.after read)) (s : Session F)
    (deeds : List Deed) :
    (s.trail read deeds).Pairwise fun a b => P (a.after read) → P b.before := by
  induction deeds generalizing s with
  | nil => exact .nil
  | cons deed deeds ih => exact .cons (fun _ mem first => before_of_lasting keeps mem first) (ih _)

theorem sound_iff_filtered {s : Session F} (sound : s.Sound) (deeds : List Deed) :
    (∀ step ∈ s.trail read deeds, (step.after read).Sound) ↔
      ∀ step ∈ s.trail read deeds, ¬ step.Unfiltered read := by
  induction deeds generalizing s with
  | nil => simp [trail]
  | cons deed deeds ih =>
    have first := Step.sound_after_iff read ⟨s, deed⟩ sound
    simp only [trail, List.forall_mem_cons]
    exact (and_congr_right ih).trans (and_congr_left' first)

theorem sound_before {s : Session F} {deeds : List Deed} (sound : s.Sound)
    (flag : ∀ step ∈ s.trail read deeds, (step.after read).Sound) :
    ∀ step ∈ s.trail read deeds, step.before.Sound := by
  induction deeds generalizing s with
  | nil => exact fun _ mem => by cases mem
  | cons deed deeds ih =>
    obtain ⟨first, flag⟩ := List.forall_mem_cons.mp flag
    exact List.forall_mem_cons.mpr ⟨sound, ih first flag⟩

/-- Nothing that the steps of a run tell is wrong: not the flag, not a refusal, and not its
absence. -/
structure Honest (read : String → Except String F) (steps : List (Step F)) : Prop where
  flag : ∀ step ∈ steps, (step.after read).installed = true ↔ (step.after read).IsOwn
  once : steps.Pairwise fun a b => a.Installs read → ¬ b.Installs read
  refuses : ∀ step ∈ steps, ∀ c, step.deed = .install c →
    (step.Refuses read ↔ step.before.subscriber = some .foreign)
  lowered : ∀ step ∈ steps, step.Refuses read → (step.after read).installed = false
  again : steps.Pairwise fun a b => a.Refuses read → ∀ c, b.deed = .install c → b.Refuses read
  kept : ∀ step ∈ steps, step.told read = some (.ok ()) → (step.after read).IsOwn

theorem sound_start (env : Environment) : ({ environment := env } : Session F).Sound :=
  iff_of_false Bool.false_ne_true (by simp [IsOwn])

theorem honest_of_filtered {env : Environment} {deeds : List Deed}
    (whole : ∀ step ∈ trail read { environment := env } deeds, ¬ step.Unfiltered read) :
    Honest read (trail read { environment := env } deeds) := by
  have flag := (sound_iff_filtered (sound_start env) deeds).mpr whole
  have sound := sound_before (sound_start env) flag
  -- The first subscriber stays, so who is there after a step is there before all later ones.
  have own : (trail read { environment := env } deeds).Pairwise fun a b =>
      (a.after read).IsOwn → b.before.IsOwn :=
    pairwise_of_lasting IsOwn (fun step ⟨c, f, own⟩ => ⟨c, f, step.subscriber_after own⟩) _ deeds
  have foreign : (trail read { environment := env } deeds).Pairwise fun a b =>
      (a.after read).subscriber = some .foreign → b.before.subscriber = some .foreign :=
    pairwise_of_lasting (·.subscriber = some .foreign) (fun step => step.subscriber_after) _ deeds
  have foreign_of_refuses (step : Step F) (mem : step ∈ trail read { environment := env } deeds)
      (refuses : step.Refuses read) :
      step.before.subscriber = some .foreign ∧ (step.after read).installed = false := by
    obtain ⟨e, told⟩ := refuses
    obtain ⟨c, deed⟩ := Step.exists_install_of_told told
    obtain ⟨-, foreign, lowered⟩ | ⟨told', -, -⟩ :=
      Step.answer_cases (sound step mem) (whole step mem) deed
    · exact ⟨foreign, lowered⟩
    · simp [told] at told'
  exact
    { flag := flag
      once := own.imp fun own ⟨_, after⟩ ⟨before, _⟩ => before (own after)
      refuses := fun step mem c deed => Step.refuses_iff (sound step mem) (whole step mem) deed
      lowered := fun step mem refuses => (foreign_of_refuses step mem refuses).2
      again := by
        refine List.Pairwise.imp_of_mem (fun memA memB lasting refuses c deed => ?_) foreign
        obtain ⟨taken, -⟩ := foreign_of_refuses _ memA refuses
        exact (Step.refuses_iff (sound _ memB) (whole _ memB) deed).mpr
          (lasting (Step.subscriber_after _ taken))
      kept := by
        intro step mem told
        obtain ⟨c, deed⟩ := Step.exists_install_of_told told
        obtain ⟨told', -, -⟩ | ⟨-, -, own⟩ :=
          Step.answer_cases (sound step mem) (whole step mem) deed
        · simp [told] at told'
        · exact own }

/-- Nothing that a process is told is wrong, if and only if a filter can be had wherever a
subscriber is to be installed. -/
theorem honest_iff_filtered (env : Environment) (deeds : List Deed) :
    Honest read (trail read { environment := env } deeds) ↔
      ∀ step ∈ trail read { environment := env } deeds, ¬ step.Unfiltered read :=
  ⟨fun honest => (sound_iff_filtered (sound_start env) deeds).mp honest.flag, honest_of_filtered⟩

/-- Whatever the environment says and whoever else installs a subscriber: if every level has a
filter, nothing that a process is told of its log is wrong. -/
theorem honest_of_accepts (accepts : Accepts read) (env : Environment) (deeds : List Deed) :
    Honest read (trail read { environment := env } deeds) :=
  (honest_iff_filtered env deeds).mpr fun step _ => step.not_unfiltered accepts

/-- Of the texts that say a filter, those that are a level and no more. -/
def readLevel (text : String) : Except String Level :=
  match Level.ofName? text with
  | some level => .ok level
  | none => .error "invalid filter directive"

/-- The environment's filter is no filter when the first subscriber comes, and someone else is too
late. -/
def lateIntrusion : List Deed :=
  [.init, .intrude, .setVariable "RUST_LOG" (Bytes.ofText "debug"), .install {}]

def earlyIntrusion : List Deed :=
  [.intrude, .install {}, .init, .unsetVariable "RUST_LOG", .install { level := .off }]

theorem honest_of_accepts_intrusions :
    let env : Environment := [("RUST_LOG", Bytes.ofText "app=loud")]
    (trail readLevel { environment := env } lateIntrusion).map (·.told readLevel) =
        [none, none, none, some (.ok ())] ∧
      Honest readLevel (trail readLevel { environment := env } lateIntrusion) ∧
      (trail readLevel { environment := env } earlyIntrusion).map (·.told readLevel) =
        [none, some (.error .taken), none, none, some (.error .taken)] ∧
      Honest readLevel (trail readLevel { environment := env } earlyIntrusion) := by
  have accepts : Accepts readLevel := fun l => ⟨l, by rw [readLevel, Level.ofName?_directive]⟩
  exact ⟨by decide +kernel, honest_of_accepts accepts _ _, by decide +kernel,
    honest_of_accepts accepts _ _⟩

end Session

end PacedCalls.Log
