import PacedCalls.Proofs.Cache.Deliveries
import PacedCalls.Proofs.Cache.Provenance
import PacedCalls.Proofs.Cache.Steps

set_option autoImplicit false

namespace PacedCalls.Cache.Room

variable {R K V E σ L B : Type}

/-- An answer is stored for a key, and not past its lifetime. -/
def Keeps (room : Room K V E σ L B) (key : K) (a : Lookup V E) : Prop :=
  ∃ e ∈ room.cache.store.entries, e.key = key ∧ .ofOption e.value = a ∧
    room.now ≤ e.since + room.cache.store.ttl

/-- A load has returned an answer for a key, but its flight is still under way. -/
def Lingers (room : Room K V E σ L B) (key : K) (a : Lookup V E) : Prop :=
  ∃ flight, (key, flight) ∈ room.cache.underWay ∧ room.cache.flight flight = .landed a

theorem not_keeps_error {room : Room K V E σ L B} {key : K} {e : E} :
    ¬ room.Keeps key (.error e) := by
  rintro ⟨entry, -, -, hv, -⟩
  cases hval : entry.value <;> simp [hval, Lookup.ofOption] at hv

variable [DecidableEq K] {loader : Loader (Event R) K V E σ L B} {a room : Room K V E σ L B}
  {inquiry : Inquiry K} {more : List (Deed K σ)}

theorem Sound.source_of_gain (ha : a.Sound) (h : play loader more (a.arrive inquiry) = some room)
    {x : Gain K V E} (landed : x.Landed room.landings) (hx : a.desk.Supplies a.now x) :
    a.Keeps x.key x.answer ∨ a.Lingers x.key x.answer ∨
      ∃ d ∈ history loader more (a.arrive inquiry), d.Says x.key x.answer := by
  have run : Reach loader (fun _ _ => True) a room := .head (.arrive inquiry) (reach_of_play h)
  have hroom : room.Sound := ha.reach run
  obtain ⟨newer, hnew, -⟩ := (Since.reach ha run).desk.landings
  have hnew : room.landings = newer ++ a.landings := hnew
  obtain ⟨l, hl, hk, hf, hla⟩ := landed
  rcases hx with flown | ⟨e, he, hek, heo, hlive⟩
  · -- It came from a flight, which landed in the run, or had landed by then and was still under way.
    rcases mem_landings_of_play h l hl with old | said
    · have old : l ∈ a.landings := old
      have below : l.flight < a.cache.flights.size :=
        ha.orderly.numbered l.key l.flight (.inr (.inr ⟨l, old, rfl, rfl⟩))
      have under : (x.key, x.flight) ∈ a.cache.underWay := by
        refine flown.resolve_right fun hs => ?_
        have : a.cache.flights.size ≤ x.flight := hs
        omega
      have lands : a.cache.flight l.flight = .landed l.answer := ha.orderly.landings l old
      exact .inr (.inl ⟨x.flight, under, hf ▸ hla ▸ lands⟩)
    · rw [hk, hla] at said
      exact .inr (.inr said)
  · -- It was stored then; the landing that stored it is the one it was gained from.
    obtain ⟨y, hy, -, hyo, hya, -⟩ := ha.orderly.store e he
    rw [hek, heo] at hyo
    have kept : y ∈ room.landings := hnew ▸ List.mem_append_right newer hy
    have same : y = l := hroom.orderly.landing_eq kept hl ((Option.some.inj hyo).symm.trans hf.symm)
    exact .inl ⟨e, he, hek, by rw [← hya, same, hla], hlive⟩

/-- Every answer of a reader who came to a room is from one of the three sources. -/
theorem Sound.source (ha : a.Sound) (h : play loader more (a.arrive inquiry) = some room)
    {r : Record K V E} (hr : r ∈ room.records) (hn : r.number = a.admitted) :
    r.inquiry = inquiry ∧ ∀ p ∈ inquiry.keys.zip r.answers,
      a.Keeps p.1 p.2 ∨ a.Lingers p.1 p.2 ∨
        ∃ d ∈ history loader more (a.arrive inquiry), d.Says p.1 p.2 := by
  have come : Reach loader (fun _ _ => True) (a.arrive inquiry) room := reach_of_play h
  have run : Reach loader (fun _ _ => True) a room := .head (.arrive inquiry) come
  obtain ⟨-, answers, landed⟩ := (ha.reach run).records r hr
  have asked : r.inquiry = inquiry := ha.inquiry_of_number come r hr hn
  refine ⟨asked, fun p hp => ?_⟩
  obtain ⟨x, hx, hk, hxa⟩ := answers p (asked ▸ hp)
  rw [← hk, ← hxa]
  exact ha.source_of_gain h (landed x hx) ((Since.reach ha run).records r hr hn.ge x hx)

theorem said_of_play (c : Config) (world : σ) (start : Nat) {deeds : List (Deed K σ)}
    (h : play loader deeds (opening c world start) = some room) :
    ∀ r ∈ room.records, ∀ p ∈ r.inquiry.keys.zip r.answers,
      ∃ d ∈ history loader deeds (opening c world start), d.Says p.1 p.2 := by
  intro r hr p hp
  obtain ⟨-, answers, landed⟩ :=
    ((sound_opening c world start).reach (reach_of_play h)).records r hr
  obtain ⟨x, hx, hk, hxa⟩ := answers p hp
  obtain ⟨l, hl, hlk, -, hla⟩ := landed x hx
  rcases mem_landings_of_play h l hl with old | ⟨d, hd, said⟩
  · cases old
  · exact ⟨d, hd, hlk.trans hk ▸ hla.trans hxa ▸ said⟩

end PacedCalls.Cache.Room
