import MetricRouter.Proofs.Conflation.Losses
import MetricRouter.Proofs.Pipeline.Conservation

/-!
# What a pipeline loses

The ingest passes on samples that fit the type of the one identity of their name, whatever types and values come in.
So the conflation never fails to merge two samples, and loses those only for which it has no room.

* `carries_passedOn` — all samples that are passed on are of the type that the catalog has for their name;
* `losses_of_passedOn` — the main statement.
-/

namespace MetricRouter.Pipeline

open MetricRouter.Metric (Carries)

variable {σ τ : Type} {receive : Receive σ} {transmit : Transmit τ} {p : Pipeline σ τ}

/-- The type that a catalog has for a name; any other one if it has no identity of the name. -/
def typeIn (c : Catalog) (f : String) : MetricType := ((c.find? f).map Identity.type).getD default

/-- **All samples that are passed on are of the type that the catalog has for their name.** -/
theorem carries_passedOn (h : p.ingest.catalog.Rooted) {calls : List Call} (hr : .catalog .reset ∉ calls) :
    ∀ m ∈ p.passedOn receive transmit calls,
      m.Carries (typeIn (p.after receive transmit calls).ingest.catalog m.fqn) := by
  intro m hm
  obtain ⟨hfound, haccepts⟩ := find?_of_mem_passedOn h (reset_not_mem_asks hr) hm
  have htype : typeIn (p.after receive transmit calls).ingest.catalog m.fqn = m.type := by
    rw [typeIn, hfound]
    rfl
  rw [htype]
  exact ⟨rfl, haccepts⟩

/-- **A pipeline loses only what it has no room for.** Batches of any metrics come in at any instants, with any
declared types and values, and the conflation is drained at any instants. Others may ask the catalog for anything but
to forget. Then every sample that is passed on has a value that the type of its identity accepts, and samples of one
name are of one identity. So the conflation has lost no sample because it could not be merged, neither when it came in
nor in a drain, and the samples lost are those for which there was no room. -/
theorem losses_of_passedOn (receive : Receive σ) (transmit : Transmit τ) (s : KeyStrategy) (ts : Tokens)
    (resetTimeout period : UInt64) (capacity : Nat) (channels : ChannelPool) (network : τ) (replies : Bool)
    (router : Pool σ) (calls : List Call) (hreset : .catalog .reset ∉ calls) :
    let p : Pipeline σ τ :=
      ⟨.create (.fresh s ts) resetTimeout, channels, network, replies, some (.create period capacity), router⟩
    let passedOn := p.passedOn receive transmit calls
    (∀ m ∈ passedOn, m.identity.type.accepts m.value = true) ∧
      (∀ m ∈ passedOn, ∀ m' ∈ passedOn, m.fqn = m'.fqn → m.identity = m'.identity) ∧
      ∃ c, (p.after receive transmit calls).conflation = some c ∧ c.lost = [] ∧
        c.dropped =
          (Conflation.crowdedOut (.create period capacity) (p.conflationCalls receive transmit calls)).length := by
  intro p passedOn
  have hrooted : p.ingest.catalog.Rooted := Catalog.rooted_fresh s ts
  have hfound := fun m (hm : m ∈ passedOn) => find?_of_mem_passedOn hrooted (reset_not_mem_asks hreset) hm
  refine ⟨fun m hm => (hfound m hm).2, fun m hm m' hm' hname => ?_, ?_⟩
  · have hsame := (hfound m hm).1
    rw [hname, (hfound m' hm').1] at hsame
    exact (Option.some.inj hsame).symm
  · refine ⟨_, conflation_after receive transmit p rfl calls, ?_⟩
    refine Conflation.lost_after (typeIn (p.after receive transmit calls).ingest.catalog) period capacity ?_
    rw [brought_conflationCalls]
    exact carries_passedOn hrooted hreset

/-- A name that comes with two types and three kinds of values, while there is room for one entry: the samples with
a long are merged, the others are not passed on, and the only sample that is lost is one of another name. -/
theorem losses_of_two_types :
    let receive : Receive Unit := fun _ _ w => (.accepted, w)
    let transmit : Transmit Unit := fun _ _ t => (⟨none, false⟩, t)
    let m (name : String) (t : MetricType) (v : Value) : Wire.Incoming := ⟨.named ⟨"h", "a", [], name⟩, t, 0, v⟩
    let calls : List Call :=
      [.handle (.now 0) (.ofLocal [m "x" .gauge (.long 5), m "x" .delta (.long 7), m "x" .text (.text "up")]),
        .handle (.now 3) (.ofLocal [m "y" .delta (.long 1), m "x" .delta (.blob [1, 2])]), .drain 30]
    let p : Pipeline Unit Unit := ⟨.create (.fresh (.hashed fun _ => 0)) 100, .create true 1000, (), true,
      some (.create 10 1), .create (Router.create ()) 1 1⟩
    .catalog .reset ∉ calls ∧ (p.passedOn receive transmit calls).map Metric.fqn = ["h/a:x", "h/a:x", "h/a:y"] ∧
      ∃ c, (p.after receive transmit calls).conflation = some c ∧ c.lost = [] ∧ c.dropped = 1 := by
  intro receive transmit m calls p
  have hreset : .catalog .reset ∉ calls := by simp [calls]
  obtain ⟨-, -, c, hc, hlost, hdropped⟩ := losses_of_passedOn receive transmit (.hashed fun _ => 0) .empty 100 10 1
    (.create true 1000) () true (.create (Router.create ()) 1 1) calls hreset
  exact ⟨hreset, by decide +kernel, c, hc, hlost, hdropped.trans (by decide +kernel)⟩

end MetricRouter.Pipeline
