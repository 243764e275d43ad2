import PacedCalls.Log.Record
import PacedCalls.Proofs.Decimal.Order
import PacedCalls.Proofs.Rate.Bounds

/-!
What the log tells of a rate. Each adjustment that moves the rate reports where it has put it, but
for a reset: after one that has moved the rate, the log tells the rate from before, until the next
report.
-/

set_option autoImplicit false

namespace PacedCalls

def Event.rate? {R : Type} : Event R → Option R
  | .rateAdjusted _ _ new => some new
  | .ceilingChanged _ current | .floorChanged _ current => some current
  | _ => none

namespace Log

def Record.number? (r : Record) (field : String) : Option Float :=
  match r.fields.lookup field with
  | some (.number x) => some x
  | _ => none

/-- The rate that a record tells, to one who has only its text and its fields. -/
def Record.rate? (r : Record) : Option Float :=
  match r.title with
  | .event "Rate adjusted" => r.number? "to"
  | .event "Rate ceiling changed" | .event "Rate floor changed" => r.number? "current_rate"
  | _ => none

def lastRate? (log : List Record) : Option Float := (log.filterMap Record.rate?).getLast?

theorem rate?_ofEvent (e : Event Float) : (Record.ofEvent e).rate? = e.rate? := by
  cases e <;> rfl

theorem level_of_rate? {e : Event Float} {x : Float} (tells : e.rate? = some x) :
    (Record.ofEvent e).level = .debug := by
  cases e <;> first | rfl | cases tells

theorem passes_of_rate? {e : Event Float} {x : Float} (tells : e.rate? = some x) :
    (Record.ofEvent e).level.passes .debug = true := by
  rw [level_of_rate? tells]
  rfl

theorem filterMap_records (events : List (Event Float)) :
    (records .debug events).filterMap Record.rate? = events.filterMap Event.rate? := by
  induction events with
  | nil => rfl
  | cons e events ih =>
    simp only [records, List.map_cons, List.filter_cons] at ih ⊢
    split
    · rw [List.filterMap_cons, List.filterMap_cons, ih, rate?_ofEvent]
    · next hidden =>
      have silent : e.rate? = none := by
        rw [Option.eq_none_iff_forall_ne_some]
        exact fun x tells => hidden (passes_of_rate? tells)
      rw [ih, List.filterMap_cons, silent]

theorem exists_record {events : List (Event Float)} {x : Float}
    (tells : x ∈ events.filterMap Event.rate?) :
    ∃ record ∈ records .debug events, record.level = .debug ∧ record.rate? = some x := by
  obtain ⟨e, mem, tells⟩ := List.mem_filterMap.mp tells
  refine ⟨.ofEvent e, List.mem_filter.mpr ⟨List.mem_map_of_mem mem, passes_of_rate? tells⟩,
    level_of_rate? tells, ?_⟩
  rw [rate?_ofEvent, tells]

end Log

namespace Rate

open Controller (adjust)

variable {R : Type} [Scalar R]

/-- What a controller reports of an adjustment; nothing of one that it refuses. -/
def Controller.reports (c : Controller R) : Adjustment R → List (Event R)
  | .increase => c.increase.2
  | .decrease => c.decrease.2
  | .reset => []
  | .set .base value => ((c.setBase value).map Prod.snd).toOption.getD []
  | .set .min value => ((c.setMin value).map Prod.snd).toOption.getD []

def Controller.history (c : Controller R) : List (Adjustment R) → List (Event R)
  | [] => []
  | a :: more => c.reports a ++ (c.adjust a).history more

theorem Controller.history_append (c : Controller R) (done more : List (Adjustment R)) :
    c.history (done ++ more) = c.history done ++ (done.foldl adjust c).history more := by
  induction done generalizing c with
  | nil => rfl
  | cons a done ih =>
    rw [List.cons_append, history, ih, history, List.append_assoc, List.foldl_cons]

theorem Controller.history_concat (c : Controller R) (done : List (Adjustment R))
    (a : Adjustment R) :
    c.history (done ++ [a]) = c.history done ++ (done.foldl adjust c).reports a := by
  rw [history_append, history, history, List.append_nil]

/-- A reset has moved the rate, and no rate has been told since. -/
def Controller.Hushed (c : Controller R) (done : List (Adjustment R)) : Prop :=
  ∃ before after, done = before ++ .reset :: after ∧
    (before.foldl adjust c).limits.current ≠ (before.foldl adjust c).limits.base ∧
    (((before ++ [.reset]).foldl adjust c).history after).filterMap Event.rate? = []

theorem Controller.hushed_concat {c : Controller R} {done : List (Adjustment R)}
    {a : Adjustment R} : c.Hushed (done ++ [a]) ↔
      (a = .reset ∧ (done.foldl adjust c).limits.current ≠ (done.foldl adjust c).limits.base) ∨
      (c.Hushed done ∧ ((done.foldl adjust c).reports a).filterMap Event.rate? = []) := by
  constructor
  · rintro ⟨before, after, split, moved, quiet⟩
    rcases List.eq_nil_or_concat after with rfl | ⟨middle, last, rfl⟩
    · obtain ⟨rfl, same⟩ := List.append_inj' split rfl
      cases same
      exact .inl ⟨rfl, moved⟩
    · rw [List.concat_eq_append, ← List.cons_append, ← List.append_assoc] at split
      obtain ⟨rfl, same⟩ := List.append_inj' split rfl
      cases same
      rw [List.concat_eq_append, history_concat, ← List.foldl_append, List.filterMap_append,
        List.append_eq_nil_iff,
        List.append_assoc, List.singleton_append] at quiet
      exact .inr ⟨⟨before, middle, rfl, moved, quiet.1⟩, quiet.2⟩
  · rintro (⟨rfl, moved⟩ | ⟨⟨before, after, rfl, moved, quiet⟩, last⟩)
    · exact ⟨done, [], rfl, moved, rfl⟩
    · refine ⟨before, after ++ [a], by simp, moved, ?_⟩
      rw [history_concat, ← List.foldl_append, List.filterMap_append, quiet, List.nil_append,
        List.append_assoc, List.singleton_append]
      exact last

variable {c : Controller Float}

theorem adjustEvents_cases {l : Limits Float} (direction : Direction) {rate : Float}
    (old : Scalar.isUsable l.current = true) (new : Scalar.isUsable rate = true) :
    ({ l with current := rate } = l ∧
        (Controller.adjustEvents direction l.current rate).filterMap Event.rate? = []) ∨
      (Controller.adjustEvents direction l.current rate).filterMap Event.rate? = [rate] := by
  simp only [Controller.adjustEvents, Bool.or_eq_true]
  split
  · exact .inr rfl
  · next still =>
    simp only [not_or, Bool.not_eq_true] at still
    rw [Decimal.eq_of_not_lt new old still.2 still.1]
    exact .inl ⟨rfl, rfl⟩

theorem Controller.reports_cases (h : c.limits.Bounded) {a : Adjustment Float} (other : a ≠ .reset) :
    ((c.adjust a).limits = c.limits ∧ (c.reports a).filterMap Event.rate? = []) ∨
      (c.reports a).filterMap Event.rate? = [(c.adjust a).limits.current] := by
  have usable := (bounded_adjust h a).usable
  cases a with
  | increase => exact adjustEvents_cases .increase h.usable usable
  | decrease => exact adjustEvents_cases .decrease h.usable usable
  | reset => exact absurd rfl other
  | set bound value =>
    cases bound with
    | base =>
      simp only [adjust, adjusted, reports, setBase, bind, Except.bind]
      cases c.limits.setBase value with
      | error e => exact .inl ⟨rfl, rfl⟩
      | ok limits => exact .inr rfl
    | min =>
      simp only [adjust, adjusted, reports, setMin, bind, Except.bind]
      cases c.limits.setMin value with
      | error e => exact .inl ⟨rfl, rfl⟩
      | ok limits => exact .inr rfl

def Controller.told (c : Controller Float) (done : List (Adjustment Float)) : Float :=
  ((c.history done).filterMap Event.rate?).getLast?.getD c.limits.current

theorem Controller.told_concat (c : Controller Float) (done : List (Adjustment Float))
    (a : Adjustment Float) : c.told (done ++ [a]) =
      (((done.foldl adjust c).reports a).filterMap Event.rate?).getLast?.getD (c.told done) := by
  rw [told, history_concat, List.filterMap_append, List.getLast?_append]
  cases (((done.foldl adjust c).reports a).filterMap Event.rate?).getLast? <;> rfl

/-- The told rate is the rate, but for a reset that nothing has been told of; then the rate is at
the ceiling, and the told one is not. -/
theorem Controller.told_cases (h : c.limits.Bounded) (done : List (Adjustment Float)) :
    (¬c.Hushed done ∧ c.told done = (done.foldl adjust c).limits.current) ∨
      (c.Hushed done ∧ c.told done ≠ (done.foldl adjust c).limits.current ∧
        (done.foldl adjust c).limits.current = (done.foldl adjust c).limits.base) := by
  induction done using List.reverseRecOn with
  | nil => exact .inl ⟨fun ⟨before, after, split, _⟩ => by simp at split, rfl⟩
  | append_singleton done a ih =>
    rw [hushed_concat, told_concat, List.foldl_append, List.foldl_cons, List.foldl_nil]
    have bounded := bounded_adjusts h done
    generalize done.foldl adjust c = now at ih bounded ⊢
    by_cases reset : a = .reset
    · subst reset
      -- A reset tells nothing; it hushes the log if the rate was away from the ceiling.
      have silent : (now.reports .reset).filterMap Event.rate? = [] := rfl
      have put : (now.adjust .reset).limits.current = now.limits.base := rfl
      have kept : (now.adjust .reset).limits.base = now.limits.base := rfl
      rw [silent, put, kept]
      obtain ⟨loud, same⟩ | ⟨hushed, differs, top⟩ := ih
      · by_cases top : now.limits.current = now.limits.base
        · exact .inl ⟨by simp [loud, top], same.trans top⟩
        · exact .inr ⟨.inl ⟨rfl, top⟩, fun met => top (same.symm.trans met), rfl⟩
      · exact .inr ⟨.inr ⟨hushed, rfl⟩, top ▸ differs, rfl⟩
    · rcases now.reports_cases bounded reset with ⟨still, silent⟩ | told
      · rw [silent, still]
        simpa [reset] using ih
      · rw [told]
        exact .inl ⟨by simp [reset], rfl⟩

/-- From the start on, the log tells the rate that a controller has, exactly as long as no reset has
moved it unheard; then the rate is at the ceiling. A record tells every other change. -/
theorem log_tells_rate_iff {config : Config Float} {events : List (Event Float)}
    (made : Controller.create config = .ok (c, events)) (done : List (Adjustment Float)) :
    let now := done.foldl adjust c
    let log := Log.records .debug (events ++ c.history done)
    ((Log.lastRate? log).getD config.base = now.limits.current ↔ ¬c.Hushed done) ∧
    (c.Hushed done → now.limits.current = now.limits.base) ∧
    ∀ a, (now.adjust a).limits.current ≠ now.limits.current →
      ((∃ record ∈ Log.records .debug (now.reports a), record.level = .debug ∧
        record.rate? = some (now.adjust a).limits.current) ↔ a ≠ .reset) := by
  intro now log
  have bounded := bounded_of_create made
  have told : (Log.lastRate? log).getD config.base = c.told done := by
    obtain ⟨-, rfl⟩ := create_ok made
    have first : events.filterMap Event.rate? = [] := by
      simp only [Controller.create, bind, Except.bind] at made
      split at made
      · cases made
      · cases made
        rfl
    rw [Log.lastRate?, Log.filterMap_records, List.filterMap_append, first]
    rfl
  refine ⟨?_, ?_, fun a moved => ⟨?_, fun other => ?_⟩⟩
  · rw [told]
    obtain ⟨loud, same⟩ | ⟨hushed, differs, -⟩ := c.told_cases bounded done
    · exact ⟨fun _ => loud, fun _ => same⟩
    · exact ⟨fun same => absurd same differs, fun loud => absurd hushed loud⟩
  · intro hushed
    obtain ⟨loud, -⟩ | ⟨-, -, top⟩ := c.told_cases bounded done
    · exact absurd hushed loud
    · exact top
  · rintro ⟨record, mem, -⟩ rfl
    cases mem
  · obtain ⟨still, -⟩ | tells := now.reports_cases (Controller.bounded_adjusts bounded done) other
    · exact absurd (congrArg Limits.current still) moved
    · refine Log.exists_record ?_
      rw [tells]
      exact List.mem_singleton_self _

def eightASecond : Config Float := { base := 8, min := 1 }

/-- Halved and reset, the log tells half the rate still; the next change is told again. -/
theorem log_tells_rate_afterReset :
    let now := [.decrease, .reset].foldl adjust (.ofConfig eightASecond)
    (Controller.ofConfig eightASecond).Hushed [.decrease, .reset] ∧
      now.limits.current = now.limits.base ∧
      ∃ record ∈ Log.records .debug (now.reports .decrease), record.level = .debug ∧
        record.rate? = some (now.adjust .decrease).limits.current := by
  have made : Controller.create eightASecond = .ok (.ofConfig eightASecond, _) := rfl
  obtain ⟨tells, top, changes⟩ := log_tells_rate_iff made [.decrease, .reset]
  have wrong : (Log.lastRate? (Log.records .debug
      ([.controllerCreated eightASecond.base eightASecond.min] ++
        (Controller.ofConfig eightASecond).history [.decrease, .reset]))).getD eightASecond.base ≠
      ([.decrease, .reset].foldl adjust (.ofConfig eightASecond)).limits.current := by
    decide +kernel
  have hushed : (Controller.ofConfig eightASecond).Hushed [.decrease, .reset] :=
    not_not.mp (mt tells.mpr wrong)
  exact ⟨hushed, top hushed, (changes .decrease (by decide +kernel)).mpr nofun⟩

/-- A reset moves a rate, and the log does not tell it. -/
theorem reset_untold :
    ¬∀ (config : Config Float) (c : Controller Float) (events : List (Event Float))
      (done : List (Adjustment Float)), Controller.create config = .ok (c, events) →
      (Log.lastRate? (Log.records .debug (events ++ c.history done))).getD config.base =
        (done.foldl adjust c).limits.current := by
  intro claim
  have told := claim eightASecond (.ofConfig eightASecond) _ [.decrease, .reset] rfl
  exact absurd told (by decide +kernel)

end Rate

end PacedCalls
