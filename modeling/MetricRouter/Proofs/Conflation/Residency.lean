import MetricRouter.Proofs.Conflation.History
import MetricRouter.Session

/-!
# How long samples wait

A sample that may wait is filed one period after its arrival, and the period is the whole milliseconds of what the
settings say.

* `Call.time`, `timeline`, `map_snd_timeline` — the events of a run with the instants at which they happened;
* `waiting`, `map_snd_waiting` — what a window holds of a name, sample by sample, with the instants of their arrival;
* `filed_of_mem_timeline`, `deadline_of_mem_waiting` — every sample waits in the window of its own deadline;
* `lt_of_mem_waiting` — where the period is not zero, no sample goes downstream at the instant of its arrival;
* `waiting_of_period_zero` — where it is zero, one is due at once;
* `residency_iff` — the main statement.
-/

namespace MetricRouter

namespace Conflation

/-! ## Events and their instants -/

/-- The instant of a call; a flush is a drain at the last one. -/
def Call.time : Call → UInt64
  | enqueue now _ | drain now => now
  | flush => lastInstant

/-- What calls that are made in order do to the windows, oldest first, each event with the instant of its call. -/
def timeline (c : Conflation) : List Call → List (UInt64 × Event)
  | [] => []
  | k :: rest => (k.events c).map (fun e => (k.time, e)) ++ timeline (c.call k).2 rest

/-- The samples of a name that were admitted to the window of a deadline since it was last closed, each with the
instant of its arrival. -/
def waiting (c : Conflation) (calls : List Call) (deadline : UInt64) (fqn : String) : List (UInt64 × Metric) :=
  let since := (timeline c calls).rtakeWhile (fun e => !e.2.closes deadline)
  let arrivals := since.filterMap (fun e => (e.2.files deadline fqn).map (fun a => (e.1, a)))
  (arrivals.dropWhile (fun a => !a.2.2)).map (fun a => (a.1, a.2.1))

section Timeline

variable {c : Conflation} {calls : List Call} {d : UInt64} {f : String}

theorem map_snd_timeline (c : Conflation) (calls : List Call) :
    (timeline c calls).map Prod.snd = history c calls := by
  induction calls generalizing c with
  | nil => rfl
  | cons k rest ih => simp [timeline, history, ih, Function.comp_def]

theorem map_snd_waiting (c : Conflation) (calls : List Call) (d : UInt64) (f : String) :
    (waiting c calls d f).map Prod.snd = admitted (history c calls) d f := by
  unfold admitted arrivals waiting List.rtakeWhile
  rw [← map_snd_timeline, ← List.map_reverse, List.takeWhile_map, ← List.map_reverse, List.filterMap_map]
  have hfiles : (Event.files d f ∘ Prod.snd : UInt64 × Event → Option (Metric × Bool)) =
      fun e => ((e.2.files d f).map (fun a => (e.1, a))).map Prod.snd := by
    funext e
    cases he : e.2.files d f <;> simp [he]
  rw [hfiles, ← List.map_filterMap, List.dropWhile_map, List.map_map, List.map_map]
  rfl

theorem filed_of_mem_filings {e : Event} {ms : List Metric} (h : e ∈ filings d c ms) :
    ∃ m room, e = .filed d m room := by
  induction ms generalizing c with
  | nil => exact absurd h List.not_mem_nil
  | cons m rest ih =>
    rcases List.mem_cons.mp h with rfl | h
    · exact ⟨m, _, rfl⟩
    · exact ih h

/-- **A sample is filed under the deadline of its arrival.** -/
theorem filed_of_mem_timeline {t : UInt64} {m : Metric} {room : Bool}
    (h : (t, .filed d m room) ∈ timeline c calls) : d = deadlineAfter t c.period := by
  induction calls generalizing c with
  | nil => exact absurd h List.not_mem_nil
  | cons k rest ih =>
    rcases List.mem_append.mp h with h | h
    · obtain ⟨e, he, heq⟩ := List.mem_map.mp h
      obtain ⟨rfl, rfl⟩ := Prod.mk.inj heq
      cases k with
      | enqueue now ms =>
        obtain ⟨m', room', hfiled⟩ := filed_of_mem_filings he
        injection hfiled
      | drain now | flush => exact absurd (List.mem_singleton.mp he) Event.noConfusion
    · rw [← (settings_call c k).1]
      exact ih h

theorem deadline_of_mem_waiting {e : UInt64 × Metric} (h : e ∈ waiting c calls d f) :
    d = deadlineAfter e.1 c.period := by
  obtain ⟨⟨t, m, room⟩, harrival, rfl⟩ := List.mem_map.mp h
  obtain ⟨⟨t', event⟩, hevent, hfiles⟩ := List.mem_filterMap.mp ((List.dropWhile_sublist _).subset harrival)
  have hmem : (t', event) ∈ timeline c calls := (List.rtakeWhile_suffix _ _).subset hevent
  cases event with
  | drained now => exact absurd hfiles (by simp [Event.files])
  | filed x m' room' =>
    by_cases hx : x = d ∧ m'.fqn = f
    · simp only [Event.files, if_pos hx, Option.map_some, Option.some.injEq, Prod.mk.injEq] at hfiles
      rw [← hfiles.1, ← hx.1]
      exact filed_of_mem_timeline hmem
    · exact absurd hfiles (by simp [Event.files, hx])

/-! ## Drains and arrivals -/

theorem deadlineAfter_le_of_mem_waiting {now : UInt64} (hd : d ∈ (c.after calls).due now) {e : UInt64 × Metric}
    (he : e ∈ waiting c calls d f) : deadlineAfter e.1 c.period ≤ now := by
  rw [← deadline_of_mem_waiting he]
  exact ((mem_due_iff now).mp hd).1

/-- **Where the period is not zero, no sample goes downstream at the instant of its arrival.** -/
theorem lt_of_mem_waiting (hperiod : 0 < c.period) {now : UInt64} (hd : d ∈ (c.after calls).due now)
    {e : UInt64 × Metric} (he : e ∈ waiting c calls d f) (hlast : e.1 < lastInstant) : e.1 < now :=
  UInt64.lt_of_lt_of_le (lt_deadlineAfter hlast hperiod) (deadlineAfter_le_of_mem_waiting hd he)

end Timeline

/-! ## A period of less than a millisecond -/

theorem deadlineAfter_zero (t : UInt64) : deadlineAfter t 0 = t := by
  refine UInt64.toNat_inj.mp ?_
  have hlt : t.toNat < 2 ^ 64 := t.toNat_lt
  have hzero : (0 : UInt64).toNat = 0 := rfl
  rw [toNat_deadlineAfter, hzero]
  omega

/-- **Where the period is zero**, a sample is due at the instant of its arrival. -/
theorem waiting_of_period_zero {capacity : Nat} (hcapacity : 0 < capacity) (t : UInt64) {m : Metric}
    (hm : mayWait m = true) :
    let c := create 0 capacity
    waiting c [.enqueue t [m]] t m.fqn = [(t, m)] ∧ t ∈ (c.after [.enqueue t [m]]).due t := by
  intro c
  have hroom : decide (c.entryCount < c.capacity) = true := decide_eq_true hcapacity
  have hevents : (Call.enqueue t [m]).events c = [.filed t m true] := by
    rw [← hroom]
    simp [Call.events, hm, filings, c, create, deadlineAfter_zero]
  have htimeline : timeline c [.enqueue t [m]] = [(t, .filed t m true)] := by
    rw [timeline, hevents]
    rfl
  have hwaiting : waiting c [.enqueue t [m]] t m.fqn = [(t, m)] := by
    unfold waiting
    rw [htimeline]
    simp [List.rtakeWhile, Event.closes, Event.files]
  have hheld : (c.after [.enqueue t [m]]).held? t m.fqn = some m := by
    rw [records_after 0 capacity [.enqueue t [m]] t m.fqn, ← map_snd_waiting, hwaiting]
    rfl
  refine ⟨hwaiting, (mem_due_iff t).mpr ⟨UInt64.le_refl t, ?_⟩⟩
  unfold held? at hheld
  obtain ⟨w, hw, -⟩ := Option.bind_eq_some_iff.mp hheld
  rw [hw]
  rfl

end Conflation

/-! ## Sound settings -/

theorem Duration.toNat_millis (d : Duration) :
    d.millis.toNat = min (d.nanos / Duration.nanosPerMilli) (2 ^ 64 - 1) := by
  have hlt : min (d.nanos / nanosPerMilli) (UInt64.size - 1) < 2 ^ 64 :=
    Nat.lt_of_le_of_lt (Nat.min_le_right _ _) (by decide)
  rw [millis, UInt64.toNat_ofNat', Nat.mod_eq_of_lt hlt]
  rfl

/-- **What is checked to be positive is.** -/
theorem Positive.pos_of_checkAll {ps : List Positive} (h : checkAll ps = .ok ()) : ∀ p ∈ ps, 0 < p.value := by
  induction ps with
  | nil => exact fun p hp => absurd hp List.not_mem_nil
  | cons p rest ih =>
    rw [checkAll] at h
    split at h
    · cases h
    · rename_i hp
      exact List.forall_mem_cons.mpr ⟨Nat.pos_of_ne_zero hp, ih h⟩

theorem Settings.pos_of_check {s : Settings} (h : s.check = .ok ()) : ∀ p ∈ s.positives, 0 < p.value := by
  unfold check at h
  split at h
  · cases h
  · rename_i hpositives
    exact Positive.pos_of_checkAll hpositives

namespace Conflation

/-- **Who waits at least a millisecond.** A conflation that is made as sound settings say hands downstream, of each
name, what waits in the windows that are due, merged. All of it came in one period before, in whole milliseconds and
up to the last instant. So what came in before the last instant came in before the drain, if and only if the period
is not shorter than a millisecond. -/
theorem residency_iff {s : Settings} (hs : s.check = .ok ()) :
    let c := s.conflation.create
    (∀ calls now f, ((c.after calls).drain now).1.filter (fun m => decide (m.fqn = f)) =
      (merged (((c.after calls).due now).filterMap
        (fun d => merged ((waiting c calls d f).map Prod.snd)))).toList) ∧
    (∀ calls now, ∀ d ∈ (c.after calls).due now, ∀ f, ∀ e ∈ waiting c calls d f,
      min (e.1.toNat + s.conflation.period.nanos / Duration.nanosPerMilli) (2 ^ 64 - 1) ≤ now.toNat) ∧
    ((∀ calls now, ∀ d ∈ (c.after calls).due now, ∀ f, ∀ e ∈ waiting c calls d f,
      e.1 < lastInstant → e.1 < now) ↔ Duration.nanosPerMilli ≤ s.conflation.period.nanos) := by
  intro c
  have hperiod := Duration.toNat_millis s.conflation.period
  refine ⟨fun calls now f => ?_, fun calls now d hd f e he => ?_, fun h => ?_, fun h => ?_⟩
  · have hsound : (c.after calls).Sound := sound_after s.conflation.period.millis s.conflation.maxQueueSize calls
    have hrecords : Records (history c calls) (c.after calls) :=
      records_after s.conflation.period.millis s.conflation.maxQueueSize calls
    simp only [filter_drain now hsound, map_snd_waiting, hrecords _ f]
  · have hle := UInt64.le_iff_toNat_le.mp (deadlineAfter_le_of_mem_waiting hd he)
    rw [toNat_deadlineAfter, show c.period = s.conflation.period.millis from rfl, hperiod] at hle
    omega
  · -- a shorter period has no whole millisecond, and any sample that may wait shows it
    by_contra hshort
    have hzero : s.conflation.period.millis = 0 := by
      refine UInt64.toNat_inj.mp ?_
      rw [hperiod, Nat.div_eq_of_lt (not_le.mp hshort)]
      rfl
    have hcapacity : 0 < s.conflation.maxQueueSize :=
      Settings.pos_of_check hs ⟨"conflation.max_queue_size", _⟩ (by simp [Settings.positives])
    let m : Metric := ⟨⟨0, "h", "a", [], "x", .gauge, "h/a:x"⟩, 0, .long 0⟩
    obtain ⟨hwaiting, hdue⟩ := waiting_of_period_zero hcapacity 0 (m := m) rfl
    have hc : c = create 0 s.conflation.maxQueueSize := congrArg (create · s.conflation.maxQueueSize) hzero
    have hlt := h [.enqueue 0 [m]] 0 0 (hc ▸ hdue) m.fqn (0, m) (by rw [hc, hwaiting]; exact List.mem_singleton_self _)
      (by decide)
    exact absurd hlt (UInt64.lt_irrefl 0)
  · have hpos : 0 < s.conflation.period.millis := by
      have hmilli : 0 < s.conflation.period.nanos / Duration.nanosPerMilli := Nat.div_pos h (by decide)
      rw [UInt64.lt_iff_toNat_lt, hperiod]
      show 0 < _
      omega
    exact fun calls now d hd f e he hlast => lt_of_mem_waiting hpos hd he hlast

/-- A period of a millisecond and a half, of which the half is cut off: a sample waits for a millisecond. -/
theorem residency_iff_of_one_and_a_half :
    let s : Settings := { conflation := { period := ⟨1500000⟩ } }
    let c := s.conflation.create
    let m : Metric := ⟨⟨0, "h", "a", [], "x", .gauge, "h/a:x"⟩, 0, .long 7⟩
    let calls : List Call := [.enqueue 5 [m], .drain 5]
    s.check = .ok () ∧ (∀ calls now, ∀ d ∈ (c.after calls).due now, ∀ f, ∀ e ∈ waiting c calls d f,
      e.1 < lastInstant → e.1 < now) ∧
      (c.after calls).due 6 = [6] ∧ waiting c calls 6 "h/a:x" = [(5, m)] ∧
      ((c.after calls).drain 6).1.filter (fun m => decide (m.fqn = "h/a:x")) = [m] := by
  intro s c m calls
  have hs : s.check = .ok () := by decide +kernel
  obtain ⟨hgiven, -, hiff⟩ := residency_iff hs
  have hdue : (c.after calls).due 6 = [6] := by decide +kernel
  have hwaiting : waiting c calls 6 "h/a:x" = [(5, m)] := by decide +kernel
  refine ⟨hs, hiff.mpr (by decide), hdue, hwaiting, (hgiven calls 6 "h/a:x").trans ?_⟩
  rw [hdue, List.filterMap_cons, hwaiting]
  rfl

/-- **Half a millisecond is a sound period**, and a sample goes downstream at the instant of its arrival. -/
theorem drain_of_half_milli :
    let s : Settings := { conflation := { period := ⟨500000⟩ } }
    let c := s.conflation.create
    let m : Metric := ⟨⟨0, "h", "a", [], "x", .gauge, "h/a:x"⟩, 0, .long 7⟩
    s.check = .ok () ∧ mayWait m = true ∧ (5 : UInt64) < lastInstant ∧
      ((c.after [.enqueue 5 [m]]).drain 5).1 = [m] := by
  decide +kernel

end Conflation

end MetricRouter
