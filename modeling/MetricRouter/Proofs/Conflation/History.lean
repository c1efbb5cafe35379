import MetricRouter.Proofs.Conflation.Delivery

/-!
# Windows and their history

What the open windows hold can be read off what happened to them.

* `merged_concat`, `merged_admitted_filed`, `admitted_drained` — the entries of a history, event by event;
* `Records`, `records_after` — the invariant: every entry is what the history says;
* `handed_drain` — the main statement: what a drain hands downstream.
-/

namespace MetricRouter.Conflation

/-! ## Histories -/

theorem merged_concat (ms : List Metric) (m : Metric) : merged (ms ++ [m]) = takeIn true m (merged ms) := by
  rw [← foldl_takeIn_none, List.foldl_append, foldl_takeIn_none]
  rfl

section Events

variable (h : List Event) (d x now : UInt64) (m : Metric) (room : Bool) (f : String)

theorem arrivals_concat (e : Event) : arrivals (h ++ [e]) d f =
    if e.closes d then [] else arrivals h d f ++ (e.files d f).toList := by
  unfold arrivals
  rw [List.rtakeWhile_concat]
  cases e.closes d with
  | true => rfl
  | false =>
    rw [Bool.not_false, if_pos rfl, if_neg Bool.false_ne_true, List.filterMap_append]
    cases hfiles : e.files d f with
    | none => simp [hfiles]
    | some a => simp [hfiles]

theorem admitted_drained : admitted (h ++ [.drained now]) d f = if d ≤ now then [] else admitted h d f := by
  unfold admitted
  rw [arrivals_concat]
  by_cases hd : d ≤ now
  · simp [Event.closes, hd]
  · simp [Event.closes, Event.files, hd]

theorem admitted_filed_of_ne (hne : ¬ (d = x ∧ m.fqn = f)) :
    admitted (h ++ [.filed d m room]) x f = admitted h x f := by
  unfold admitted
  rw [arrivals_concat]
  simp [Event.closes, Event.files, hne]

theorem admitted_filed : admitted (h ++ [.filed d m room]) d m.fqn =
    if admitted h d m.fqn = [] ∧ room = false then [] else admitted h d m.fqn ++ [m] := by
  have hfiles : arrivals (h ++ [.filed d m room]) d m.fqn = arrivals h d m.fqn ++ [(m, room)] := by
    rw [arrivals_concat]
    simp [Event.closes, Event.files]
  unfold admitted
  rw [hfiles, List.dropWhile_append]
  cases hbefore : (arrivals h d m.fqn).dropWhile (fun a => !a.2) with
  | nil =>
    cases room with
    | false => rfl
    | true => rfl
  | cons a rest => simp

/-- **The entry of a history after a filing.** -/
theorem merged_admitted_filed : merged (admitted (h ++ [.filed d m room]) x f) =
    if d = x ∧ m.fqn = f then takeIn room m (merged (admitted h d f)) else merged (admitted h x f) := by
  split
  · rename_i heq
    obtain ⟨rfl, rfl⟩ := heq
    rw [admitted_filed]
    cases hbefore : admitted h d m.fqn with
    | nil =>
      cases room with
      | false => rfl
      | true => rfl
    | cons first later =>
      rw [if_neg (by simp), merged_concat]
      rfl
  · rename_i hne
    rw [admitted_filed_of_ne h d x m room f hne]

end Events

/-! ## The invariant -/

/-- **Every entry is what the history says.** -/
def Records (h : List Event) (c : Conflation) : Prop := ∀ d f, c.held? d f = merged (admitted h d f)

section Step

variable {h : List Event} {c : Conflation}

theorem records_create (period : UInt64) (capacity : Nat) : Records [] (create period capacity) :=
  fun _ _ => rfl

theorem records_file (hrec : Records h c) (hc : c.Sound) (d : UInt64) (m : Metric) :
    Records (h ++ [.filed d m (decide (c.entryCount < c.capacity))]) (c.file d m) := by
  intro x f
  rw [held?_of_filing (filing_file c d m), merged_admitted_filed, ← hc.pending, hrec d f, hrec x f]

theorem records_filings (d : UInt64) (ms : List Metric) (hrec : Records h c) (hc : c.Sound) :
    Records (h ++ filings d c ms) (ms.foldl (fun c m => c.file d m) c) := by
  induction ms generalizing h c with
  | nil =>
    rw [filings, List.append_nil]
    exact hrec
  | cons m ms ih =>
    have hrest := ih (records_file hrec hc d m) (sound_of_filing hc (filing_file c d m))
    rw [List.append_assoc] at hrest
    exact hrest

theorem records_drain (hrec : Records h c) (now : UInt64) :
    Records (h ++ [.drained now]) (c.drain now).2 := by
  intro d f
  rw [held?_drain, admitted_drained, hrec d f]
  split
  · rfl
  · rfl

theorem records_call (hrec : Records h c) (hc : c.Sound) (k : Call) :
    Records (h ++ k.events c) (c.call k).2 := by
  cases k with
  | enqueue now ms => exact records_filings (deadlineAfter now c.period) (ms.filter mayWait) hrec hc
  | drain now => exact records_drain hrec now
  | flush => exact records_drain hrec lastInstant

theorem records_run (hrec : Records h c) (hc : c.Sound) (calls : List Call) :
    Records (h ++ history c calls) (c.after calls) := by
  induction calls generalizing h c with
  | nil =>
    rw [history, List.append_nil]
    exact hrec
  | cons k calls ih =>
    have hrest := ih (records_call hrec hc k) (sound_call hc k)
    rw [List.append_assoc] at hrest
    exact hrest

end Step

/-- **After all calls, every entry is what the history of the calls says.** -/
theorem records_after (period : UInt64) (capacity : Nat) (calls : List Call) :
    Records (history (create period capacity) calls) ((create period capacity).after calls) :=
  records_run (records_create period capacity) (sound_create period capacity) calls

/-! ## What a drain hands downstream -/

/-- **What a drain hands downstream.** After all calls, whatever broke down before, a drain hands over one batch,
or nothing if it has no sample for it. Of each name the batch has one sample if a window that is due has an
entry of it, and no other one: the entry of the earliest such window with those of the later ones merged into
it in the order of their deadlines. An entry is the first sample of its name that was admitted to its window
with the later ones merged into it in the order of their arrival. The windows that are due are gone then, and
the others stay. -/
theorem handed_drain (period : UInt64) (capacity : Nat)
    (breaks : List (List Metric) → List Metric → Bool) (calls : List Call) (now : UInt64) :
    let s := (Service.fresh period capacity).after breaks calls
    let s' := (s.call breaks (.drain now)).2
    let h := history (create period capacity) calls
    (∃ batch, s'.handed = s.handed ++ (if batch = [] then [] else [batch]) ∧
      ∀ f, batch.filter (fun m => decide (m.fqn = f)) =
        (merged ((s.conflation.due now).filterMap (fun d => s.conflation.held? d f))).toList) ∧
    (s.conflation.due now).Pairwise (· < ·) ∧
    (∀ d, d ∈ s.conflation.due now ↔ d ≤ now ∧ (s.conflation.windows.get? d).isSome) ∧
    (∀ d, s'.conflation.windows.get? d = if d ≤ now then none else s.conflation.windows.get? d) ∧
    (∀ d f, s.conflation.held? d f = merged (admitted h d f)) ∧
    s.conflation.period = period ∧
    ∀ t, (deadlineAfter t period).toNat = min (t.toNat + period.toNat) (2 ^ 64 - 1) := by
  intro s s' h
  have hconflation : s.conflation = (create period capacity).after calls := Service.conflation_after calls
  have hsound : s.conflation.Sound := by
    rw [hconflation]
    exact sound_after period capacity calls
  have hrecords : Records h s.conflation := by
    rw [hconflation]
    exact records_after period capacity calls
  have hperiod : s.conflation.period = period := by
    rw [hconflation]
    exact (settings_after (create period capacity) calls).1
  have hdrain : s'.conflation = (s.conflation.drain now).2 := Service.conflation_call (.drain now)
  refine ⟨⟨(s.conflation.drain now).1, Service.handed_call (.drain now), filter_drain now hsound⟩,
    sorted_due now, fun d => mem_due_iff now, fun d => ?_, hrecords, hperiod, fun t => ?_⟩
  · rw [hdrain]
    exact get?_windows_drain s.conflation now d
  · exact toNat_deadlineAfter t period

end MetricRouter.Conflation
