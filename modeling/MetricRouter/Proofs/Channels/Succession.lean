import MetricRouter.Proofs.Channels.Renewal

/-!
# How channels succeed one another

The channels that an agent is given follow one another: as long as those that are inserted are new, a pool never goes
back to an earlier one, and after a write over a channel has failed it gives a later one. Whoever writes over a channel
may take its time; meanwhile others look channels up, write, and insert channels.

* `Spent`, `Precedes`, `Behind` — channels that were written over, and that the pool does not go back behind them;
* `Renewed.behind` — a pool that takes in only new channels does not go back;
* `given_get` — the channel that a look-up gives comes after all that were written over;
* `behind_settled` — the pool does not go back to a channel over which a write failed.
-/

namespace MetricRouter.ChannelPool

open Net (Endpoint)

/-- A channel that was written over. -/
structure Spent where
  channel : Channel
  /-- Has the write failed? -/
  failed : Bool

/-- The channel that was written over is the other one or an earlier one, and an earlier one if the write failed. -/
structure Spent.Precedes (x : Spent) (c : Channel) : Prop where
  le : x.channel.serial ≤ c.serial
  lt : x.failed = true → x.channel.serial < c.serial

/-- A channel that was written over was seen, and the one that is held for its agent does not come before it. -/
structure Behind (p : ChannelPool) (x : Spent) : Prop where
  earlier : x.channel.serial < p.next
  later : ∀ d, p.channels.get? x.channel.remote = some d → x.Precedes d.channel

section Succession

variable {p p' : ChannelPool} {inserted : List Channel} {x : Spent} {c : Channel}

/-- **A pool that takes in only new channels does not go back.** -/
theorem Renewed.behind (h : p.Renewed p' inserted) (hnew : ∀ c ∈ inserted, p.next ≤ c.serial) (hx : p.Behind x) :
    p'.Behind x where
  earlier := hx.earlier.trans_le h.next
  later := fun d hd => by
    rcases h.held _ d hd with ⟨e, he, hsame⟩ | ⟨-, -, hlater⟩
    · exact hsame ▸ hx.later e he
    · have hlt : x.channel.serial < d.channel.serial :=
        hx.earlier.trans_le (hlater.elim And.right (hnew d.channel))
      exact ⟨Nat.le_of_lt hlt, fun _ => hlt⟩

theorem remote_of_get (h : p.Owned) {remote : Endpoint} {now : UInt64} (hc : (p.get remote now).1 = some c) :
    c.remote = remote := by
  obtain ⟨used, hheld, -⟩ := get?_get hc
  exact ((renewed_get p remote now).owned h).own remote _ hheld

/-- **The channel that a look-up gives comes after all that were written over.** -/
theorem given_get (h : p.Owned) {remote : Endpoint} {now : UInt64} (hc : (p.get remote now).1 = some c) :
    (p.get remote now).2.Behind ⟨c, false⟩ ∧ ∀ x, p.Behind x → x.channel.remote = remote → x.Precedes c := by
  have hremote := remote_of_get h hc
  have hrenewed := renewed_get p remote now
  obtain ⟨used, hheld, -⟩ := get?_get hc
  refine ⟨⟨(hrenewed.owned h).earlier remote _ hheld, fun d hd => ?_⟩, fun x hx hx' => ?_⟩
  · simp only [hremote, hheld] at hd
    rw [← Option.some.inj hd]
    exact ⟨Nat.le_refl _, fun hfailed => absurd hfailed (by simp)⟩
  · have hlater := (hrenewed.behind (List.forall_mem_nil _) hx).later
    rw [hx'] at hlater
    exact hlater _ hheld

/-- **A pool does not go back to a channel over which a write failed.** -/
theorem behind_settled (h : p.Owned) (hc : p.Behind ⟨c, false⟩) (w : Written) :
    (p.settled c w).Behind ⟨c, w.failure.isSome⟩ := by
  have hrenewed := renewed_settled p c w
  have hbehind := hrenewed.behind (List.forall_mem_nil _) hc
  refine ⟨hbehind.earlier, fun d hd => ⟨(hbehind.later d hd).le, fun hfailed => ?_⟩⟩
  refine Nat.lt_of_le_of_ne (hbehind.later d hd).le fun hsame => ?_
  have hown : d.channel.remote = c.remote := (hrenewed.owned h).own _ d hd
  have hother : d.channel ≠ c := by
    rw [settled, show w.failure.isSome = true from hfailed] at hd
    exact ne_of_release _ _ hd
  obtain ⟨⟨serial, remote⟩, used⟩ := d
  obtain ⟨serial', remote'⟩ := c
  obtain rfl : serial' = serial := hsame
  obtain rfl : remote = remote' := hown
  exact hother rfl

end Succession

end MetricRouter.ChannelPool
