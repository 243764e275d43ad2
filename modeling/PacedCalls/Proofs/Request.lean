import Mathlib.Data.List.Basic
import PacedCalls.CallError
import PacedCalls.Request
import PacedCalls.Text.Blank

/-!
How the headers of a request come about. A request is put together step by step; whatever the steps
are and whatever they set, the values of a name are those that the last step gave it which set it
at all, and the names stand in the order in which they first came in.
-/

set_option autoImplicit false

namespace PacedCalls

namespace Http

theorem toLower_cases (c : Char) :
    c.toLower = c ∨ (c.isAlphanum = true ∧ c.toLower.isAlphanum = true) := by
  have letter {d : Char} (cased : d.isUpper = true ∨ d.isLower = true) : d.isAlphanum = true := by
    show (d.isUpper || d.isLower || d.isDigit) = true
    rcases cased with upper | lower
    · rw [upper, Bool.true_or, Bool.true_or]
    · rw [lower, Bool.or_true, Bool.true_or]
  unfold Char.toLower
  split
  · next upper =>
    refine .inr ⟨letter (.inl (decide_eq_true upper)), letter (.inr ?_)⟩
    obtain ⟨low, high⟩ := upper
    have low : 65 ≤ c.val.toNat := UInt32.le_iff_toNat_le.mp low
    have high : c.val.toNat ≤ 90 := UInt32.le_iff_toNat_le.mp high
    have moved : (c.val + ('a'.val - 'A'.val)).toNat = c.val.toNat + 32 := by
      have shift : ('a'.val - 'A'.val).toNat = 32 := rfl
      rw [UInt32.toNat_add, shift]
      omega
    have first : ('a'.val).toNat = 97 := rfl
    have last : ('z'.val).toNat = 122 := rfl
    refine Bool.and_eq_true_iff.mpr ⟨decide_eq_true ?_, decide_eq_true ?_⟩
    · rw [ge_iff_le, UInt32.le_iff_toNat_le, moved, first]
      omega
    · rw [UInt32.le_iff_toNat_le, moved, last]
      omega
  · exact .inl rfl

theorem isTokenChar_toLower (c : Char) : isTokenChar c.toLower = isTokenChar c := by
  rcases toLower_cases c with same | ⟨before, after⟩
  · rw [same]
  · simp [isTokenChar, before, after]

theorem isToken_iff (s : String) :
    isToken s = true ↔ s.toList ≠ [] ∧ ∀ c ∈ s.toList.map Char.toLower, isTokenChar c = true := by
  simp [isToken, isTokenChar_toLower]

namespace HeaderName

theorem ofText?_eq_some {s : String} {name : HeaderName} :
    ofText? s = some name ↔
      isToken s = true ∧ s.toList.length ≤ longest ∧ name.text = Text.lowerAscii s := by
  obtain ⟨text⟩ := name
  simp only [ofText?, Text.lowerAscii]
  split
  · next h =>
    simp only [Bool.and_eq_true, decide_eq_true_eq] at h
    simp [h, eq_comm]
  · next h =>
    simp only [Bool.and_eq_true, decide_eq_true_eq] at h
    exact ⟨nofun, fun ⟨token, short, _⟩ => absurd ⟨token, short⟩ h⟩

theorem ofText?_eq_iff {s t : String} {name : HeaderName} (named : ofText? s = some name) :
    ofText? t = some name ↔ Text.lowerAscii t = Text.lowerAscii s := by
  obtain ⟨token, short, text⟩ := ofText?_eq_some.mp named
  refine ⟨fun also => (ofText?_eq_some.mp also).2.2.symm.trans text, fun same => ?_⟩
  have letters : t.toList.map Char.toLower = s.toList.map Char.toLower := by
    simpa [Text.lowerAscii] using congrArg String.toList same
  have length : t.toList.length = s.toList.length := by
    simpa using congrArg List.length letters
  refine ofText?_eq_some.mpr ⟨?_, length ▸ short, text.trans same.symm⟩
  rw [isToken_iff, letters]
  obtain ⟨filled, chars⟩ := (isToken_iff s).mp token
  refine ⟨fun none => filled (List.length_eq_zero_iff.mp ?_), chars⟩
  rw [← length, none, List.length_nil]

end HeaderName

namespace Headers

/-- Some names after some more have come: the new ones stand behind, as they came first. -/
def joined (old more : List HeaderName) : List HeaderName :=
  old ++ (more.filter (· ∉ old)).eraseDups

@[simp]
theorem joined_nil (old : List HeaderName) : joined old [] = old := by
  simp [joined]

theorem joined_append (old more others : List HeaderName) :
    joined old (more ++ others) = joined (joined old more) others := by
  simp only [joined, List.filter_append, List.eraseDups_append, List.append_assoc]
  congr 2
  simp only [List.removeAll, List.filter_filter]
  congr 1
  refine List.filter_congr fun name _ => ?_
  by_cases here : name ∈ old <;> simp [here]

theorem nodup_joined {old : List HeaderName} (nodup : old.Nodup) (more : List HeaderName) :
    (joined old more).Nodup := by
  induction more generalizing old with
  | nil => simpa using nodup
  | cons name more ih =>
    rw [← List.singleton_append, joined_append]
    refine ih ?_
    by_cases here : name ∈ old
    · simpa [joined, here] using nodup
    · simp only [joined, List.filter_singleton, here, not_false_eq_true, decide_true, cond_true,
        List.eraseDups_cons, List.filter_nil, List.eraseDups_nil]
      exact List.nodup_append.mpr ⟨nodup, by simp, by grind⟩

theorem names_put (name : HeaderName) (vs : List HeaderValue)
    (entries : List (HeaderName × List HeaderValue)) :
    (put name vs entries).map (·.1) = joined (entries.map (·.1)) [name] := by
  induction entries with
  | nil => simp [put, joined, List.eraseDups_cons]
  | cons e rest ih =>
    obtain ⟨n, ws⟩ := e
    by_cases here : n = name
    · simp [put, joined, here]
    · have away : name ≠ n := fun same => here same.symm
      simp only [put, if_neg here, List.map_cons, ih, joined]
      by_cases later : name ∈ rest.map (·.1) <;> simp [later, away]

theorem names_extend (h other : Headers) : (h.extend other).names = joined h.names other.names := by
  obtain ⟨entries⟩ := h
  obtain ⟨more⟩ := other
  simp only [extend, names]
  induction more generalizing entries with
  | nil => simp
  | cons e more ih =>
    rw [List.foldl_cons, ih, names_put, ← joined_append]
    rfl

theorem values_extend (h : Headers) {other : Headers} (once : other.names.Nodup)
    (name : HeaderName) :
    (h.extend other).values name = (other.entries.lookup name).getD (h.values name) := by
  obtain ⟨entries⟩ := h
  obtain ⟨more⟩ := other
  simp only [extend, values, names] at once ⊢
  induction more generalizing entries with
  | nil => rfl
  | cons e more ih =>
    obtain ⟨n, vs⟩ := e
    obtain ⟨fresh, once⟩ := List.nodup_cons.mp once
    rw [List.foldl_cons, ih _ once, lookup_put, Assoc.lookup_cons_eq]
    by_cases here : name = n
    · subst here
      have none : more.lookup name = none := by
        rw [← Option.not_isSome_iff_eq_none, Assoc.isSome_lookup]
        exact fresh
      simp [none]
    · simp [here]

end Headers

end Http

open Http (HeaderName HeaderValue Headers)

namespace Request

inductive Step where
  | header (name value : String)
  | headers (map : Headers) (once : map.names.Nodup)
  | json (document : Except String Json)
  | body (octets : Bytes)
  | describe (label : String)
  | notFound (policy : NotFoundPolicy)
  | countNotFound (count : Bool)
  | withOptions (options : CallOptions)

namespace Step

def take (r : Request) : Step → Except CallError Request
  | .header name value => .ok (r.header name value)
  | .headers map _ => .ok (r.withHeaders map)
  | .json (.ok document) => .ok (r.json document)
  | .json (.error reason) => .error (.invalidRequest ("JSON body: " ++ reason))
  | .body octets => .ok (r.withBody octets)
  | .describe label => .ok (r.describe label)
  | .notFound policy => .ok (r.notFound policy)
  | .countNotFound count => .ok (r.countNotFound count)
  | .withOptions options => .ok (r.withOptions options)

/-- The headers that a step sets, each with its values; a header that is none is not set. -/
def sets : Step → List (HeaderName × List HeaderValue)
  | .header name value =>
    match HeaderName.ofText? name, HeaderValue.ofText? value with
    | some name, some value => [(name, [value])]
    | _, _ => []
  | .headers map _ => map.entries
  | .json (.ok _) => [(contentType, [jsonType])]
  | _ => []

def sets? (step : Step) (name : HeaderName) : Option (List HeaderValue) := step.sets.lookup name

def names (step : Step) : List HeaderName := step.sets.map (·.1)

theorem nodup_names (step : Step) : step.names.Nodup := by
  cases step with
  | header name value =>
    simp only [names, sets]
    split <;> simp
  | headers map once => exact once
  | json document => cases document <;> simp [names, sets]
  | body | describe | notFound | countNotFound | withOptions => exact List.nodup_nil

theorem sets?_eq_none_iff {step : Step} {name : HeaderName} :
    step.sets? name = none ↔ name ∉ step.names := by
  rw [sets?, ← Option.not_isSome_iff_eq_none, Assoc.isSome_lookup]
  rfl

/-- The steps that are about no header, or about one whose name or value is not allowed. -/
inductive Idle : Step → Prop where
  | badName {name value : String} (bad : HeaderName.ofText? name = none) : Idle (.header name value)
  | badValue {name value : String} (bad : HeaderValue.ofText? value = none) :
    Idle (.header name value)
  | body (octets : Bytes) : Idle (.body octets)
  | describe (label : String) : Idle (.describe label)
  | notFound (policy : NotFoundPolicy) : Idle (.notFound policy)
  | countNotFound (count : Bool) : Idle (.countNotFound count)
  | withOptions (options : CallOptions) : Idle (.withOptions options)

theorem Idle.names {step : Step} (idle : step.Idle) : step.names = [] := by
  cases idle with
  | badName bad => simp [Step.names, sets, bad]
  | @badValue name value bad =>
    cases named : HeaderName.ofText? name <;> simp [Step.names, sets, bad, named]
  | _ => rfl

/-- Whatever a step is, it adds what it sets to the headers as a map does. -/
theorem headers_take {r r' : Request} {step : Step} (taken : step.take r = .ok r') :
    r'.headers = r.headers.extend ⟨step.sets⟩ := by
  cases step with
  | header name value =>
    cases taken
    simp only [Request.header, header?, sets]
    cases HeaderName.ofText? name <;> cases HeaderValue.ofText? value <;> rfl
  | headers map once =>
    cases taken
    rfl
  | json document =>
    cases document with
    | ok document =>
      cases taken
      rfl
    | error reason => cases taken
  | body | describe | notFound | countNotFound | withOptions =>
    cases taken
    rfl

theorem values_take {r r' : Request} {step : Step} (taken : step.take r = .ok r')
    (name : HeaderName) :
    r'.headers.values name = (step.sets? name).getD (r.headers.values name) := by
  rw [headers_take taken]
  exact Headers.values_extend r.headers step.nodup_names name

theorem names_take {r r' : Request} {step : Step} (taken : step.take r = .ok r') :
    r'.headers.names = Headers.joined r.headers.names step.names := by
  rw [headers_take taken, Headers.names_extend]
  rfl

theorem headers_take_of_idle {r r' : Request} {step : Step} (idle : step.Idle)
    (taken : step.take r = .ok r') : r'.headers = r.headers := by
  rw [headers_take taken, List.map_eq_nil_iff.mp idle.names]
  rfl

theorem exists_take_iff (r : Request) (step : Step) :
    (∃ r', step.take r = .ok r') ↔ ∀ reason, step ≠ .json (.error reason) := by
  cases step with
  | json document => cases document <;> simp [take]
  | _ => simp [take]

end Step

def build (r : Request) (steps : List Step) : Except CallError Request := steps.foldlM Step.take r

section

variable {r final : Request} {step : Step} {steps : List Step}

theorem build_cons : r.build (step :: steps) = .ok final ↔
    ∃ next, step.take r = .ok next ∧ next.build steps = .ok final := by
  rw [build, List.foldlM_cons]
  cases step.take r with
  | error e => exact ⟨nofun, nofun⟩
  | ok next => exact ⟨fun rest => ⟨next, rfl, rest⟩, fun ⟨_, rfl, rest⟩ => rest⟩

theorem exists_build_iff (r : Request) (steps : List Step) :
    (∃ final, r.build steps = .ok final) ↔ ∀ reason, .json (.error reason) ∉ steps := by
  induction steps generalizing r with
  | nil => exact ⟨fun _ => nofun, fun _ => ⟨r, rfl⟩⟩
  | cons step steps ih =>
    simp only [build_cons, List.mem_cons, not_or, forall_and]
    constructor
    · rintro ⟨final, next, taken, rest⟩
      exact ⟨fun reason same => (Step.exists_take_iff r step).mp ⟨next, taken⟩ reason same.symm,
        (ih next).mp ⟨final, rest⟩⟩
    · rintro ⟨first, later⟩
      obtain ⟨next, taken⟩ := (Step.exists_take_iff r step).mpr fun reason same =>
        first reason same.symm
      obtain ⟨final, rest⟩ := (ih next).mpr later
      exact ⟨final, next, taken, rest⟩

theorem values_build (built : r.build steps = .ok final) (name : HeaderName) :
    final.headers.values name =
      (steps.reverse.findSome? (·.sets? name)).getD (r.headers.values name) := by
  induction steps generalizing r with
  | nil =>
    cases built
    rfl
  | cons step steps ih =>
    obtain ⟨next, taken, rest⟩ := build_cons.mp built
    rw [ih rest, Step.values_take taken, List.reverse_cons, List.findSome?_append]
    cases steps.reverse.findSome? (·.sets? name) <;> simp

theorem names_build (built : r.build steps = .ok final) :
    final.headers.names = Headers.joined r.headers.names (steps.flatMap Step.names) := by
  induction steps generalizing r with
  | nil =>
    cases built
    simp
  | cons step steps ih =>
    obtain ⟨next, taken, rest⟩ := build_cons.mp built
    rw [ih rest, Step.names_take taken, ← Headers.joined_append, List.flatMap_cons]

end

theorem build_swap {r final : Request} {before after : List Step} {one two : Step}
    (apart : ∀ name ∈ one.names, name ∉ two.names)
    (built : r.build (before ++ one :: two :: after) = .ok final) :
    ∃ other, r.build (before ++ two :: one :: after) = .ok other ∧
      ∀ name, other.headers.values name = final.headers.values name := by
  have same : ∀ step, step ∈ before ++ two :: one :: after ↔ step ∈ before ++ one :: two :: after :=
    fun step => by simp only [List.mem_append, List.mem_cons]; tauto
  obtain ⟨other, swapped⟩ := (exists_build_iff r (before ++ two :: one :: after)).mpr
    fun reason mem => (exists_build_iff r _).mp ⟨final, built⟩ reason ((same _).mp mem)
  refine ⟨other, swapped, fun name => ?_⟩
  rw [values_build swapped, values_build built]
  by_cases first : name ∈ one.names
  · have none : two.sets? name = none := Step.sets?_eq_none_iff.mpr (apart name first)
    simp [List.findSome?_append, List.findSome?_cons, none]
  · have none : one.sets? name = none := Step.sets?_eq_none_iff.mpr first
    simp [List.findSome?_append, List.findSome?_cons, none]

structure Written (r : Request) (steps : List Step) (final : Request) : Prop where
  last : ∀ (before after : List Step) (step : Step) (name : HeaderName) (values : List HeaderValue),
    steps = before ++ step :: after → step.sets? name = some values →
      (∀ later ∈ after, name ∉ later.names) → final.headers.values name = values
  kept : ∀ name, (∀ step ∈ steps, name ∉ step.names) →
    final.headers.values name = r.headers.values name
  listed : final.headers.names = Headers.joined r.headers.names (steps.flatMap Step.names)
  once : r.headers.names.Nodup → final.headers.names.Nodup

theorem written_of_build {r final : Request} {steps : List Step}
    (built : r.build steps = .ok final) : Written r steps final where
  last before after step name values split set unset := by
    have later : after.reverse.findSome? (·.sets? name) = none := by
      rw [List.findSome?_eq_none_iff]
      intro step mem
      exact Step.sets?_eq_none_iff.mpr (unset step (List.mem_reverse.mp mem))
    rw [values_build built, split]
    simp [List.findSome?_append, later, set]
  kept name unset := by
    have none : steps.reverse.findSome? (·.sets? name) = none := by
      rw [List.findSome?_eq_none_iff]
      intro step mem
      exact Step.sets?_eq_none_iff.mpr (unset step (List.mem_reverse.mp mem))
    rw [values_build built, none]
    rfl
  listed := names_build built
  once nodup := names_build built ▸ Headers.nodup_joined nodup _

/-- The last step that sets a name decides about its values, where two texts are one name if they
differ in the case of their letters only. A name that no step sets keeps its values, and a step
that is idle leaves all headers alone. The names stand in the order in which they came in. Steps
that set no name in common may change places. -/
theorem last_writer_wins (r : Request) (steps : List Step) :
    ((∃ final, r.build steps = .ok final) ↔ ∀ reason, .json (.error reason) ∉ steps) ∧
    (∀ final, r.build steps = .ok final → Written r steps final) ∧
    (∀ (s t : String) (name : HeaderName), HeaderName.ofText? s = some name →
      (HeaderName.ofText? t = some name ↔ Text.lowerAscii t = Text.lowerAscii s)) ∧
    (∀ (step : Step) (next : Request), step.Idle → step.take r = .ok next →
      next.headers = r.headers) ∧
    ∀ (before after : List Step) (one two : Step) (final : Request),
      (∀ name ∈ one.names, name ∉ two.names) →
      r.build (before ++ one :: two :: after) = .ok final →
      ∃ other, r.build (before ++ two :: one :: after) = .ok other ∧
        ∀ name, other.headers.values name = final.headers.values name := by
  refine ⟨exists_build_iff r steps, fun final built => written_of_build built,
    fun s t name named => HeaderName.ofText?_eq_iff named,
    fun step next idle taken => Step.headers_take_of_idle idle taken, ?_⟩
  intro before after one two final apart built
  exact build_swap apart built

def tracedMap : Headers :=
  { entries := [(⟨"x-trace"⟩, [⟨Bytes.ofText "b"⟩, ⟨Bytes.ofText "c"⟩]), (⟨"accept"⟩, [⟨[]⟩])] }

/-- A trace that is set twice, with a document, a header that is none and a body between. -/
def traced : List Step :=
  [.header "X-Trace" "a", .header "bad header" "x", .json (.ok .null),
    .headers tracedMap (by decide), .body [], .header "CONTENT-TYPE" "text/plain"]

theorem last_writer_wins_traced :
    ∃ final other, ({ method := .post, url := "/" } : Request).build traced = .ok final ∧
      final.headers.values ⟨"x-trace"⟩ = [⟨Bytes.ofText "b"⟩, ⟨Bytes.ofText "c"⟩] ∧
      final.headers.values ⟨"content-type"⟩ = [⟨Bytes.ofText "text/plain"⟩] ∧
      final.headers.names = [⟨"x-trace"⟩, ⟨"content-type"⟩, ⟨"accept"⟩] ∧
      ({ method := .post, url := "/" } : Request).build
        [.header "bad header" "x", .header "X-Trace" "a", .json (.ok .null),
          .headers tracedMap (by decide), .body [], .header "CONTENT-TYPE" "text/plain"] =
        .ok other ∧
      ∀ name, other.headers.values name = final.headers.values name := by
  obtain ⟨decided, written, -, -, swaps⟩ :=
    last_writer_wins ({ method := .post, url := "/" } : Request) traced
  obtain ⟨final, built⟩ := decided.mpr (by simp [traced])
  have written := written final built
  obtain ⟨other, swapped, same⟩ := swaps [] (traced.drop 2) (.header "X-Trace" "a")
    (.header "bad header" "x") final (by decide) built
  refine ⟨final, other, built, ?_, ?_, ?_, swapped, same⟩
  · exact written.last [.header "X-Trace" "a", .header "bad header" "x", .json (.ok .null)]
      [.body [], .header "CONTENT-TYPE" "text/plain"] (.headers tracedMap (by decide)) _ _ rfl
      (by decide) (by decide)
  · exact written.last traced.dropLast [] (.header "CONTENT-TYPE" "text/plain") _ _ rfl
      (by decide) (by simp)
  · rw [written.listed]
    decide

end Request
end PacedCalls
