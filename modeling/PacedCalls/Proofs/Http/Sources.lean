import PacedCalls.Http.Fault

/-!
Which of the sources of a fault decides the failure. An error of input or output may wrap another,
so that the outermost of them, which is met first, need not be the innermost, which is the cause of
the rest. The outermost one decides; whether that is as good depends on the two having one kind.
-/

set_option autoImplicit false

namespace PacedCalls.Http

/-- The kind of the outermost error of input or output among some sources. -/
inductive Outermost : List Source → IoKind → Prop where
  | here (kind : IoKind) (inner : List Source) : Outermost (.io kind :: inner) kind
  | inside {inner : List Source} {kind : IoKind} (h : Outermost inner kind) :
      Outermost (.other :: inner) kind

/-- The kind of the innermost one, which wraps no other. -/
inductive Innermost : List Source → IoKind → Prop where
  | here {inner : List Source} (kind : IoKind) (plain : ∀ s ∈ inner, s = .other) :
      Innermost (.io kind :: inner) kind
  | inside (outer : Source) {inner : List Source} {kind : IoKind} (h : Innermost inner kind) :
      Innermost (outer :: inner) kind

theorem Outermost.iff_findSome? {sources : List Source} {kind : IoKind} :
    Outermost sources kind ↔ sources.findSome? Source.ioKind? = some kind := by
  constructor
  · intro h
    induction h with
    | here kind inner => rfl
    | inside h ih => simpa [List.findSome?_cons, Source.ioKind?] using ih
  · intro h
    induction sources with
    | nil => simp at h
    | cons source inner ih =>
      cases source with
      | io first =>
        obtain rfl : first = kind := by simpa [List.findSome?_cons, Source.ioKind?] using h
        exact .here first inner
      | other => exact .inside (ih (by simpa [List.findSome?_cons, Source.ioKind?] using h))

theorem findSome?_eq_none_iff_plain {sources : List Source} :
    sources.findSome? Source.ioKind? = none ↔ ∀ s ∈ sources, s = .other := by
  rw [List.findSome?_eq_none_iff]
  refine forall₂_congr fun s _ => ?_
  cases s <;> simp [Source.ioKind?]

theorem Innermost.exists_or_plain (sources : List Source) :
    (∃ kind, Innermost sources kind) ∨ ∀ s ∈ sources, s = .other := by
  induction sources with
  | nil => exact .inr (by simp)
  | cons source inner ih =>
    obtain ⟨kind, h⟩ | plain := ih
    · exact .inl ⟨kind, .inside source h⟩
    · cases source with
      | io kind => exact .inl ⟨kind, .here kind plain⟩
      | other => exact .inr (by simpa using plain)

theorem Innermost.not_plain {sources : List Source} {kind : IoKind} (h : Innermost sources kind) :
    ¬ ∀ s ∈ sources, s = .other := by
  intro plain
  induction h with
  | here kind _ => simpa using plain (.io kind)
  | inside outer _ ih => exact ih fun s hs => plain s (.tail _ hs)

theorem Innermost.unique {sources : List Source} {kind kind' : IoKind}
    (h : Innermost sources kind) (h' : Innermost sources kind') : kind = kind' := by
  induction h with
  | here kind plain =>
    cases h' with
    | here => rfl
    | inside _ h' => exact absurd plain h'.not_plain
  | inside outer h ih =>
    cases h' with
    | here _ plain => exact absurd plain h.not_plain
    | inside _ h' => exact ih h'

theorem Outermost.exists_innermost {sources : List Source} {kind : IoKind}
    (h : Outermost sources kind) : ∃ inner, Innermost sources inner := by
  refine (Innermost.exists_or_plain sources).resolve_right fun plain => ?_
  rw [← findSome?_eq_none_iff_plain, iff_findSome?.mp h] at plain
  cases plain

theorem Innermost.exists_outermost {sources : List Source} {kind : IoKind}
    (h : Innermost sources kind) : ∃ outer, Outermost sources outer := by
  cases first : sources.findSome? Source.ioKind? with
  | none => exact absurd (findSome?_eq_none_iff_plain.mp first) h.not_plain
  | some outer => exact ⟨outer, Outermost.iff_findSome?.mpr first⟩

namespace Fault

/-- A fault goes by the innermost error of input or output among its sources: by its kind, if there
is one, and by a lost connection if that is what it is, whatever wraps it. -/
structure TellsInnermost (f : Fault) : Prop where
  found (kind : IoKind) : f.ioKind? = some kind ↔ Innermost f.sources kind
  nothing : f.ioKind? = none ↔ ∀ s ∈ f.sources, s = .other
  reset : f.unbuilt = false → f.timedOut = false → f.unconnected = false →
    Innermost f.sources .reset → f.onSend = .connectionReset f.text

theorem onSend_eq_connectionReset_iff (f : Fault) :
    f.onSend = .connectionReset f.text ↔ f.unbuilt = false ∧ f.timedOut = false ∧
      (f.unconnected = true ∨ Outermost f.sources .reset ∨ Outermost f.sources .refused) := by
  simp only [Outermost.iff_findSome?, ← ioKind?.eq_1, onSend, asIo]
  cases f.unbuilt with
  | true => simp
  | false =>
    cases f.timedOut with
    | true => simp
    | false =>
      cases f.unconnected with
      | true => simp
      | false =>
        cases f.ioKind? with
        | none => simp
        | some kind => cases kind <;> simp

theorem tellsInnermost_iff (f : Fault) : f.TellsInnermost ↔
    ∀ outer inner, Outermost f.sources outer → Innermost f.sources inner → outer = inner := by
  have found (kind : IoKind) : f.ioKind? = some kind ↔ Outermost f.sources kind :=
    Outermost.iff_findSome?.symm
  constructor
  · intro tells outer inner first last
    exact ((tells.found outer).mp ((found outer).mpr first)).unique last
  · intro agree
    have same (kind : IoKind) : Outermost f.sources kind ↔ Innermost f.sources kind := by
      constructor
      · intro first
        obtain ⟨inner, last⟩ := first.exists_innermost
        exact agree kind inner first last ▸ last
      · intro last
        obtain ⟨outer, first⟩ := last.exists_outermost
        exact agree outer kind first last ▸ first
    refine ⟨fun kind => (found kind).trans (same kind), findSome?_eq_none_iff_plain, ?_⟩
    intro built inTime connected last
    exact f.onSend_eq_connectionReset_iff.mpr ⟨built, inTime, .inr (.inl ((same _).mpr last))⟩

/-- The outermost error of input or output decides, and it tells the innermost where both have one
kind, and nowhere else. -/
theorem outermost_decides (f : Fault) :
    (∀ kind, f.ioKind? = some kind ↔ Outermost f.sources kind) ∧
    (f.ioKind? = none ↔ ∀ s ∈ f.sources, s = .other) ∧
    (f.onSend = .connectionReset f.text ↔ f.unbuilt = false ∧ f.timedOut = false ∧
      (f.unconnected = true ∨ Outermost f.sources .reset ∨ Outermost f.sources .refused)) ∧
    (f.TellsInnermost ↔
      ∀ outer inner, Outermost f.sources outer → Innermost f.sources inner → outer = inner) :=
  ⟨fun _ => Outermost.iff_findSome?.symm, findSome?_eq_none_iff_plain,
    f.onSend_eq_connectionReset_iff, f.tellsInnermost_iff⟩

def wrappedReset : Fault where
  text := "error sending request"
  sources := [.other, .io (.other "Other"), .io .reset]

theorem wrapped_reset_untold :
    ¬ (∀ f : Fault, f.TellsInnermost) ∧ wrappedReset.onSend.isTransient = false := by
  refine ⟨fun tells => ?_, rfl⟩
  have lost : Innermost wrappedReset.sources .reset :=
    .inside _ (.inside _ (.here .reset (by simp)))
  have told := (tells wrappedReset).reset rfl rfl rfl lost
  exact absurd told (by decide)

end Fault

end PacedCalls.Http
