import MetricRouter.Proofs.Routing.Delays

/-!
# The accounts of the router

Refusals are counted as they happen, acceptances only when a dispatch has gone through its batch. So what a dispatch
that is broken off had delivered before is not counted as routed, and that of a dispatch on its way is not counted yet.

* `answering` — the answers of destinations, remembered in order;
* `Sweep.Told`, `told_offerAll`, `told_sweep`, `told_resume` — what a dispatch counts is what it was answered;
* `Came`, `came_conclude`, `came_afterOutcome` — what a router counts when a dispatch came so far;
* `Audit`, `Event`, `next` — a router with its workers and its callers, and what every dispatch was answered;
* `route_pool`, `queue_pool`, `work_pool` — its steps are those of the pool;
* `Kept`, `kept_next`, `kept_foldl` — the invariant: every answer was given to one dispatch, and the counters agree;
* `routed_of_answers` — the main statement, and `routed_of_breakdown` — what is left out.
-/

namespace MetricRouter

variable {σ : Type}

/-- Destinations that answer as `receive` says; their answers are remembered in order. -/
def answering (receive : Receive σ) : Receive (σ × List Answer) := fun d m w =>
  let (answer, next) := receive d m w.1
  (answer, next, w.2 ++ if answer = .waiting then [] else [answer])

/-! ## What a dispatch is answered -/

/-- **What a dispatch counts on its way is what it is answered.** -/
structure Sweep.Told (s : Sweep (σ × List Answer)) (made : List Answer) (s' : Sweep (σ × List Answer)) : Prop where
  log : s'.world.2 = s.world.2 ++ made
  delivered : s'.delivered = s.delivered + made.count .accepted
  rejected : s'.rejected = s.rejected + made.count .refused

/-- How many acceptances a dispatch that came out so goes by. -/
def Outcome.Counts (n : Nat) : Outcome → Prop
  | .done delivered => delivered = n
  | .failed _ => True
  | .waiting left => left.delivered = n

/-- The acceptances that are counted when a dispatch came out so. -/
def Outcome.routed : Outcome → Nat
  | .done delivered => delivered
  | _ => 0

/-- The batches that are counted when a dispatch came out so. -/
def Outcome.batches : Outcome → Nat
  | .done _ => 1
  | _ => 0

/-- The answers to a dispatch, once it has ended. -/
def Outcome.filed (answers : List Answer) : Outcome → List Answer
  | .waiting _ => []
  | _ => answers

section Told

variable (receive : Receive σ)

theorem Sweep.Told.refl (s : Sweep (σ × List Answer)) : s.Told [] s := ⟨(List.append_nil _).symm, rfl, rfl⟩

theorem Sweep.Told.trans {s s' s'' : Sweep (σ × List Answer)} {made made' : List Answer} (h : s.Told made s')
    (h' : s'.Told made' s'') : s.Told (made ++ made') s'' where
  log := by rw [h'.log, h.log, List.append_assoc]
  delivered := by rw [h'.delivered, h.delivered, List.count_append, Nat.add_assoc]
  rejected := by rw [h'.rejected, h.rejected, List.count_append, Nat.add_assoc]

theorem told_offer (m : Metric) (d : Destination) (s : Sweep (σ × List Answer)) :
    ∃ made, s.Told made (Sweep.offer (answering receive) m d s).2 ∧
      ((Sweep.offer (answering receive) m d s).1 = .waiting → made = []) := by
  unfold Sweep.offer answering
  generalize receive d m s.world.1 = result
  obtain ⟨answer, w⟩ := result
  cases answer with
  | accepted => exact ⟨[.accepted], ⟨rfl, rfl, rfl⟩, nofun⟩
  | refused => exact ⟨[.refused], ⟨rfl, rfl, rfl⟩, nofun⟩
  | failed reason => exact ⟨[.failed reason], ⟨rfl, rfl, rfl⟩, nofun⟩
  | waiting => exact ⟨[], ⟨rfl, rfl, rfl⟩, fun _ => rfl⟩

variable (memoKey : String → Nat)

/-- **One sample.** -/
theorem told_offerAll (m : Metric) (bs : List Binding) (matched : Bool) (s : Sweep (σ × List Answer)) :
    ∃ made, s.Told made (offerAll (answering receive) memoKey m bs matched s).2 := by
  induction bs generalizing matched s with
  | nil => exact ⟨[], .refl s⟩
  | cons b rest ih =>
    rw [offerAll]
    split
    · rename_i ms hasked
      obtain ⟨made, htold⟩ := ih matched { s with matchers := ms }
      exact ⟨made, htold.log, htold.delivered, htold.rejected⟩
    · rename_i ms hasked
      obtain ⟨made, hoffer, -⟩ := told_offer receive m b.destination { s with matchers := ms }
      have hfirst : s.Told made (Sweep.offer (answering receive) m b.destination { s with matchers := ms }).2 :=
        ⟨hoffer.log, hoffer.delivered, hoffer.rejected⟩
      split
      · rename_i reason next hanswer
        rw [hanswer] at hfirst
        exact ⟨made, hfirst⟩
      · rename_i next hanswer
        rw [hanswer] at hfirst
        exact ⟨made, hfirst⟩
      · rename_i answer next hfailed hwaiting hanswer
        rw [hanswer] at hfirst
        obtain ⟨more, hrest⟩ := ih true next
        exact ⟨made ++ more, hfirst.trans hrest⟩

/-- **A batch.** -/
theorem told_sweep (bs : List Binding) (batch : List Metric) (s : Sweep (σ × List Answer)) :
    let result := sweep (answering receive) memoKey bs batch s
    ∃ made, s.Told made result.2 ∧ result.1.Counts result.2.delivered := by
  induction batch generalizing s with
  | nil => exact ⟨[], .refl s, rfl⟩
  | cons m later ih =>
    obtain ⟨made, hfirst⟩ := told_offerAll receive memoKey m bs false s
    rw [sweep]
    split
    · rename_i reason next houtcome
      rw [houtcome] at hfirst
      exact ⟨made, hfirst, trivial⟩
    · rename_i d rest next houtcome
      rw [houtcome] at hfirst
      exact ⟨made, hfirst, rfl⟩
    · rename_i next houtcome
      rw [houtcome] at hfirst
      obtain ⟨more, hrest, hcounts⟩ := ih next
      exact ⟨made ++ more, hfirst.trans hrest, hcounts⟩
    · rename_i next houtcome
      rw [houtcome] at hfirst
      obtain ⟨more, hrest, hcounts⟩ := ih { next with unmatched := next.unmatched + 1 }
      exact ⟨made ++ more, hfirst.trans ⟨hrest.log, hrest.delivered, hrest.rejected⟩, hcounts⟩

/-- **What is left of a batch.** -/
theorem told_resume (left : Stalled) (s : Sweep (σ × List Answer)) :
    let result := left.resume (answering receive) memoKey s
    ∃ made, Sweep.Told { s with delivered := left.delivered } made result.2 ∧
      result.1.Counts result.2.delivered := by
  obtain ⟨made, hfirst, hnone⟩ :=
    told_offer receive left.metric left.destination { s with delivered := left.delivered }
  rw [Stalled.resume]
  split
  · rename_i reason next hanswer
    rw [hanswer] at hfirst
    exact ⟨made, hfirst, trivial⟩
  · rename_i next hanswer
    rw [hanswer] at hfirst hnone
    obtain rfl := hnone rfl
    exact ⟨[], hfirst, hfirst.delivered.symm⟩
  · rename_i answer next hfailed hwaiting hanswer
    rw [hanswer] at hfirst
    obtain ⟨more, hsample⟩ := told_offerAll receive memoKey left.metric left.rest true next
    have hoffered := hfirst.trans hsample
    split
    · rename_i reason last houtcome
      rw [houtcome] at hoffered
      exact ⟨_, hoffered, trivial⟩
    · rename_i d rest last houtcome
      rw [houtcome] at hoffered
      exact ⟨_, hoffered, rfl⟩
    · rename_i matched last houtcome
      rw [houtcome] at hoffered
      obtain ⟨rest, hrest, hcounts⟩ := told_sweep receive memoKey left.bindings left.later last
      exact ⟨_, hoffered.trans hrest, hcounts⟩

end Told

/-! ## What a router counts -/

/-- The acceptances that a dispatch on its way goes by. -/
def Job.delivered : Job → Nat
  | .ready _ => 0
  | .stalled left => left.delivered

/-- **What a router counts when a dispatch came so far**: refusals at once, acceptances and the batch at its end. -/
structure Came (before : Nat) (r : Router (σ × List Answer)) (outcome : Outcome) (made : List Answer)
    (r' : Router (σ × List Answer)) : Prop where
  log : r'.world.2 = r.world.2 ++ made
  counts : outcome.Counts (before + made.count .accepted)
  rejected : r'.counters.rejected = r.counters.rejected + made.count .refused
  routed : r'.counters.routed = r.counters.routed + outcome.routed
  batches : r'.counters.batches = r.counters.batches + outcome.batches

section Came

variable (receive : Receive σ) (r : Router (σ × List Answer)) (job : Job)

theorem came_conclude :
    let result := Pool.sweepOf (answering receive) r job
    ∃ made, Came job.delivered r result.1 made (r.conclude result.1 result.2) := by
  have htold : ∃ made, Sweep.Told { r.start with delivered := job.delivered } made
      (Pool.sweepOf (answering receive) r job).2 ∧
        (Pool.sweepOf (answering receive) r job).1.Counts (Pool.sweepOf (answering receive) r job).2.delivered := by
    cases job with
    | ready batch => exact told_sweep receive r.memoKey r.bindings batch r.start
    | stalled left => exact told_resume receive r.memoKey left r.start
  intro result
  obtain ⟨made, htold, hcounts⟩ := htold
  rw [htold.delivered] at hcounts
  have hrejected : r.counters.rejected + result.2.rejected = r.counters.rejected + made.count .refused := by
    rw [htold.rejected]
    exact congrArg (r.counters.rejected + ·) (Nat.zero_add _)
  refine ⟨made, ?_⟩
  change Outcome.Counts _ result.1 at hcounts
  have hlog : result.2.world.2 = r.world.2 ++ made := htold.log
  cases houtcome : result.1 with
  | done delivered => exact ⟨hlog, houtcome ▸ hcounts, hrejected, rfl, rfl⟩
  | failed reason => exact ⟨hlog, trivial, hrejected, rfl, rfl⟩
  | waiting left => exact ⟨hlog, houtcome ▸ hcounts, hrejected, rfl, rfl⟩

theorem came_afterOutcome :
    let result := Pool.sweepOf (answering receive) r job
    ∃ made, Came job.delivered r result.1 made (Pool.afterOutcome r result.1 result.2).2 := by
  intro result
  obtain ⟨made, hcame⟩ := came_conclude receive r job
  refine ⟨made, ?_⟩
  change Came job.delivered r result.1 made (r.conclude result.1 result.2) at hcame
  cases houtcome : result.1 with
  | done delivered => rw [houtcome] at hcame; exact hcame
  | failed reason =>
    rw [houtcome] at hcame
    exact ⟨hcame.log, trivial, hcame.rejected, hcame.routed, hcame.batches⟩
  | waiting left => rw [houtcome] at hcame; exact hcame

end Came

/-! ## The accounts -/

/-- A router with its workers, and what every dispatch was answered. -/
structure Audit (σ : Type) where
  pool : Pool (σ × List Answer)
  /-- The batches of the workers, with the answers so far. -/
  held : List (Job × List Answer)
  /-- The batches of callers that wait for their dispatch, with the answers so far. -/
  calls : List (Job × List Answer)
  /-- The answers to the dispatches that were gone through to the end. -/
  done : List (List Answer)
  /-- The answers to the dispatches that were broken off. -/
  broken : List (List Answer)

namespace Audit

/-- All answers, in order. -/
def answers (s : Audit σ) : List Answer := s.pool.router.world.2

/-- The dispatches on their way. -/
def underWay (s : Audit σ) : List (Job × List Answer) := s.held ++ s.calls

/-- A router whose dispatches are followed from now on; its workers are not running. -/
def start (r : Router σ) (workers queueSize : Nat) : Audit σ :=
  { pool := .create (r.viewed fun w => (w, [])) workers queueSize, held := [], calls := [], done := [], broken := [] }

/-! ## Steps -/

/-- What can happen. -/
inductive Event where
  /-- A batch is delivered by its caller. -/
  | route (batch : List Metric)
  /-- A batch is handed in. -/
  | queue (batch : List Metric)
  /-- The dispatch of a caller goes on. -/
  | call (k : Nat)
  /-- The workers are started. -/
  | run
  /-- A free worker takes the oldest batch. -/
  | take
  /-- A worker goes on with its batch. -/
  | work (k : Nat)
  /-- The workers are told to stop. -/
  | stop

/-- The dispatches of a list after one of them came so far. -/
def moved (l : List (Job × List Answer)) (k : Nat) (answers : List Answer) : Outcome → List (Job × List Answer)
  | .waiting left => l.set k (.stalled left, answers)
  | _ => l.eraseIdx k

/-- The answers to a dispatch that ended are filed. -/
def file (s : Audit σ) (answers : List Answer) : Outcome → Audit σ
  | .done _ => { s with done := s.done ++ [answers] }
  | .failed _ => { s with broken := s.broken ++ [answers] }
  | .waiting _ => s

/-- The dispatch of a caller goes on. -/
def call (receive : Receive σ) (s : Audit σ) (k : Nat) : Audit σ :=
  match s.calls[k]? with
  | none => s
  | some (job, before) =>
    let (outcome, last) := Pool.sweepOf (answering receive) s.pool.router job
    let router := s.pool.router.conclude outcome last
    let answers := before ++ router.world.2.drop s.answers.length
    file { s with pool := { s.pool with router := router }, calls := moved s.calls k answers outcome } answers outcome

/-- A batch is delivered by its caller. -/
def route (receive : Receive σ) (s : Audit σ) (batch : List Metric) : Audit σ :=
  call receive { s with calls := s.calls ++ [(.ready batch, [])] } s.calls.length

/-- A batch is handed in. -/
def queue (receive : Receive σ) (s : Audit σ) (batch : List Metric) : Audit σ :=
  if batch.isEmpty || s.pool.isRunning then { s with pool := (s.pool.queue (answering receive) batch).2 }
  else s.route receive batch

/-- A free worker takes the oldest batch. -/
def take (s : Audit σ) : Audit σ :=
  match s.pool.begin, s.pool.waiting.head? with
  | some p, some batch => { s with pool := p, held := s.held ++ [(.ready batch, [])] }
  | _, _ => s

/-- A worker goes on with its batch. -/
def work (receive : Receive σ) (s : Audit σ) (k : Nat) : Audit σ :=
  match s.held[k]? with
  | none => s
  | some (job, before) =>
    let (outcome, last) := Pool.sweepOf (answering receive) s.pool.router job
    let router := (Pool.afterOutcome s.pool.router outcome last).2
    let answers := before ++ router.world.2.drop s.answers.length
    let held := moved s.held k answers outcome
    file { s with pool := { s.pool with router := router, busy := held.map Prod.fst }, held := held } answers outcome

/-- The audit after something happened. -/
def next (receive : Receive σ) (s : Audit σ) : Event → Audit σ
  | .route batch => s.route receive batch
  | .queue batch => s.queue receive batch
  | .call k => s.call receive k
  | .run => { s with pool := s.pool.run }
  | .take => s.take
  | .work k => s.work receive k
  | .stop => { s with pool := { s.pool with isRunning := false } }

section File

variable (s : Audit σ) (answers : List Answer) (outcome : Outcome)

@[simp] theorem file_pool : (s.file answers outcome).pool = s.pool := by
  cases outcome <;> rfl

@[simp] theorem file_held : (s.file answers outcome).held = s.held := by
  cases outcome <;> rfl

@[simp] theorem file_underWay : (s.file answers outcome).underWay = s.underWay := by
  cases outcome <;> rfl

theorem count_file (a : Answer) :
    ((s.file answers outcome).done ++ (s.file answers outcome).broken).flatten.count a =
      (s.done ++ s.broken).flatten.count a + (outcome.filed answers).count a := by
  cases outcome with
  | done delivered =>
    simp only [file, Outcome.filed, List.flatten_append, List.count_append, List.flatten_singleton]
    omega
  | failed reason =>
    simp only [file, Outcome.filed, List.flatten_append, List.count_append, List.flatten_singleton]
    omega
  | waiting left => rfl

end File

theorem route_pool (receive : Receive σ) (s : Audit σ) (batch : List Metric) :
    (s.route receive batch).pool = (s.pool.route (answering receive) batch).2 := by
  simp [route, call, Pool.route, Router.dispatch, Pool.sweepOf]

theorem queue_pool (receive : Receive σ) (s : Audit σ) (batch : List Metric) :
    (s.queue receive batch).pool = (s.pool.queue (answering receive) batch).2 := by
  rw [queue]
  split
  · rfl
  · rename_i hinline
    rw [Bool.or_eq_true, not_or] at hinline
    rw [route_pool, Pool.queue, if_neg hinline.1, if_neg hinline.2]
    generalize s.pool.route (answering receive) batch = result
    obtain ⟨outcome, p⟩ := result
    cases outcome <;> rfl

theorem work_pool (receive : Receive σ) {s : Audit σ} (hbusy : s.pool.busy = s.held.map Prod.fst) {k : Nat} {job : Job}
    {before : List Answer} (h : s.held[k]? = some (job, before)) :
    let result := Pool.Job.advance (answering receive) s.pool.router job
    (s.work receive k).pool = { s.pool with
      router := result.2
      busy := match result.1 with
        | some left => s.pool.busy.set k left
        | none => s.pool.busy.eraseIdx k } := by
  rw [work, h, Pool.advance_eq]
  simp only [file_pool, hbusy]
  cases (Pool.sweepOf (answering receive) s.pool.router job).1 with
  | done delivered => simp [Pool.afterOutcome, moved, List.eraseIdx_map]
  | failed reason => simp [Pool.afterOutcome, moved, List.eraseIdx_map]
  | waiting left => simp [Pool.afterOutcome, moved, List.map_set]

/-! ## What the accounts keep -/

/-- **Every answer was given to one dispatch, and the counters agree**: `first` are the counters at the start. -/
structure Kept (first : RouterCounters) (s : Audit σ) : Prop where
  held : s.pool.busy = s.held.map Prod.fst
  delivered : ∀ d ∈ s.underWay, d.1.delivered = d.2.count .accepted
  answers : ∀ a, s.answers.count a = (s.done ++ s.broken ++ s.underWay.map Prod.snd).flatten.count a
  routed : s.pool.router.counters.routed = first.routed + s.done.flatten.count .accepted
  rejected : s.pool.router.counters.rejected = first.rejected + s.answers.count .refused
  batches : s.pool.router.counters.batches = first.batches + s.done.length

section Kept

variable {receive : Receive σ} {first : RouterCounters} {s : Audit σ}

theorem kept_start (r : Router σ) (workers queueSize : Nat) : (start r workers queueSize).Kept r.counters where
  held := rfl
  delivered := fun _ h => absurd h List.not_mem_nil
  answers := fun _ => rfl
  routed := rfl
  rejected := rfl
  batches := rfl

theorem mem_moved {l : List (Job × List Answer)} {k : Nat} {answers : List Answer} {outcome : Outcome}
    {d : Job × List Answer} (h : d ∈ moved l k answers outcome) :
    d ∈ l ∨ ∃ left, outcome = .waiting left ∧ d = (.stalled left, answers) := by
  cases outcome with
  | done delivered => exact Or.inl (List.mem_of_mem_eraseIdx h)
  | failed reason => exact Or.inl (List.mem_of_mem_eraseIdx h)
  | waiting left =>
    rcases List.mem_or_eq_of_mem_set h with h | h
    · exact Or.inl h
    · exact Or.inr ⟨left, rfl, h⟩

/-- The answers of one dispatch, among those of a list. -/
theorem count_flatten_of_getElem? {l : List (Job × List Answer)} {k : Nat} {d : Job × List Answer}
    (h : l[k]? = some d) (e : Job × List Answer) (a : Answer) :
    ((l.map Prod.snd).flatten.count a = ((l.eraseIdx k).map Prod.snd).flatten.count a + d.2.count a) ∧
      (((l.set k e).map Prod.snd).flatten.count a = ((l.eraseIdx k).map Prod.snd).flatten.count a + e.2.count a) := by
  obtain ⟨hk, rfl⟩ := List.getElem?_eq_some_iff.mp h
  have hsplit : l = l.take k ++ l[k] :: l.drop (k + 1) := by simp
  have hset : l.set k e = l.take k ++ e :: l.drop (k + 1) := List.set_eq_take_append_cons_drop .. |>.trans (if_pos hk)
  rw [List.eraseIdx_eq_take_drop_succ, hset]
  refine ⟨?_, ?_⟩
  · conv_lhs => rw [hsplit]
    simp only [List.map_append, List.map_cons, List.flatten_append, List.flatten_cons, List.count_append]
    omega
  · simp only [List.map_append, List.map_cons, List.flatten_append, List.flatten_cons, List.count_append]
    omega

theorem count_moved {l : List (Job × List Answer)} {k : Nat} {job : Job} {before : List Answer}
    (h : l[k]? = some (job, before)) (made : List Answer) (outcome : Outcome) (a : Answer) :
    ((moved l k (before ++ made) outcome).map Prod.snd).flatten.count a + (outcome.filed (before ++ made)).count a =
      (l.map Prod.snd).flatten.count a + made.count a := by
  cases outcome with
  | done delivered =>
    have hcount := (count_flatten_of_getElem? h (job, before) a).1
    simp only [moved, Outcome.filed, List.count_append] at hcount ⊢
    omega
  | failed reason =>
    have hcount := (count_flatten_of_getElem? h (job, before) a).1
    simp only [moved, Outcome.filed, List.count_append] at hcount ⊢
    omega
  | waiting left =>
    obtain ⟨hcount, hset⟩ := count_flatten_of_getElem? h (.stalled left, before ++ made) a
    simp only [moved, Outcome.filed, List.count_append, List.count_nil] at hcount hset ⊢
    omega

/-- **A dispatch that came so far keeps the accounts**, whoever makes it. -/
theorem kept_file {s' : Audit σ} {before made : List Answer} {outcome : Outcome} (h : s.Kept first)
    (hcame : Came (before.count .accepted) s.pool.router outcome made s'.pool.router)
    (hheld : s'.pool.busy = s'.held.map Prod.fst) (hdone : s'.done = s.done) (hbroken : s'.broken = s.broken)
    (hmem : ∀ d ∈ s'.underWay, d ∈ s.underWay ∨ ∃ left, outcome = .waiting left ∧ d = (.stalled left, before ++ made))
    (hcount : ∀ a, (s'.underWay.map Prod.snd).flatten.count a + (outcome.filed (before ++ made)).count a =
      (s.underWay.map Prod.snd).flatten.count a + made.count a) :
    (s'.file (before ++ made) outcome).Kept first := by
  have hanswers : ∀ a, s'.answers.count a = s.answers.count a + made.count a := by
    intro a
    rw [answers, hcame.log, List.count_append]
    rfl
  have hrouted := hcame.routed
  have hbatches := hcame.batches
  rw [h.routed] at hrouted
  rw [h.batches] at hbatches
  constructor
  case held => simpa using hheld
  case delivered =>
    intro d hd
    rw [file_underWay] at hd
    obtain hd | ⟨left, rfl, rfl⟩ := hmem d hd
    · exact h.delivered d hd
    · rw [List.count_append]
      exact hcame.counts
  case answers =>
    intro a
    have hfiled := count_file s' (before ++ made) outcome a
    have hmoved := hcount a
    have hbefore := h.answers a
    have hnow := hanswers a
    rw [List.flatten_append, List.count_append] at hbefore ⊢
    rw [hdone, hbroken] at hfiled
    simp only [answers, file_pool, file_underWay] at hnow hbefore ⊢
    omega
  case rejected =>
    have hrejected := hcame.rejected
    rw [h.rejected, Nat.add_assoc, ← hanswers] at hrejected
    simpa [answers] using hrejected
  case routed =>
    cases outcome with
    | done delivered =>
      have hcounts : delivered = before.count .accepted + made.count .accepted := hcame.counts
      simpa [file, Outcome.routed, hdone, hcounts, Nat.add_assoc] using hrouted
    | failed reason => simpa [file, Outcome.routed, hdone] using hrouted
    | waiting left => simpa [file, Outcome.routed, hdone] using hrouted
  case batches =>
    cases outcome with
    | done delivered => simpa [file, Outcome.batches, hdone, Nat.add_assoc] using hbatches
    | failed reason => simpa [file, Outcome.batches, hdone] using hbatches
    | waiting left => simpa [file, Outcome.batches, hdone] using hbatches

theorem drop_answers {before : Nat} {outcome : Outcome} {made : List Answer} {r' : Router (σ × List Answer)}
    (h : Came before s.pool.router outcome made r') : r'.world.2.drop s.answers.length = made := by
  rw [h.log]
  exact List.drop_left

theorem kept_call (h : s.Kept first) (k : Nat) : (s.call receive k).Kept first := by
  unfold call
  split
  · exact h
  · rename_i job before hk
    obtain ⟨made, hcame⟩ := came_conclude receive s.pool.router job
    have hbefore : job.delivered = before.count .accepted :=
      h.delivered _ (List.mem_append_right _ (List.mem_of_getElem? hk))
    rw [hbefore] at hcame
    simp only [drop_answers hcame]
    refine kept_file h hcame h.held rfl rfl (fun d hd => ?_) (fun a => ?_)
    · rcases List.mem_append.mp hd with hd | hd
      · exact Or.inl (List.mem_append_left _ hd)
      · exact (mem_moved hd).imp_left (List.mem_append_right _)
    · have hmoved := count_moved hk made (Pool.sweepOf (answering receive) s.pool.router job).1 a
      simp only [underWay, List.map_append, List.flatten_append, List.count_append] at hmoved ⊢
      omega

theorem kept_work (h : s.Kept first) (k : Nat) : (s.work receive k).Kept first := by
  unfold work
  split
  · exact h
  · rename_i job before hk
    obtain ⟨made, hcame⟩ := came_afterOutcome receive s.pool.router job
    have hbefore : job.delivered = before.count .accepted :=
      h.delivered _ (List.mem_append_left _ (List.mem_of_getElem? hk))
    rw [hbefore] at hcame
    simp only [drop_answers hcame]
    refine kept_file h hcame rfl rfl rfl (fun d hd => ?_) (fun a => ?_)
    · rcases List.mem_append.mp hd with hd | hd
      · exact (mem_moved hd).imp_left (List.mem_append_left _)
      · exact Or.inl (List.mem_append_right _ hd)
    · have hmoved := count_moved hk made (Pool.sweepOf (answering receive) s.pool.router job).1 a
      simp only [underWay, List.map_append, List.flatten_append, List.count_append] at hmoved ⊢
      omega

theorem kept_route (h : s.Kept first) (batch : List Metric) : (s.route receive batch).Kept first := by
  refine kept_call ?_ s.calls.length
  refine { h with delivered := fun d hd => ?_, answers := fun a => ?_ }
  · simp only [underWay, ← List.append_assoc] at hd
    rcases List.mem_append.mp hd with hd | hd
    · exact h.delivered d hd
    · rw [List.mem_singleton.mp hd]
      rfl
  · have hall := h.answers a
    simp only [underWay, answers, List.map_append, List.flatten_append, List.count_append] at hall ⊢
    simpa using hall

theorem kept_queue (h : s.Kept first) (batch : List Metric) : (s.queue receive batch).Kept first := by
  unfold queue
  split
  · rename_i hqueued
    have hpool : ∃ waiting dropped, (s.pool.queue (answering receive) batch).2 =
        { s.pool with
          waiting := waiting
          router := { s.pool.router with counters := { s.pool.router.counters with dropped := dropped } } } := by
      rw [Pool.queue]
      split
      · exact ⟨_, _, rfl⟩
      · rename_i hempty
        rw [if_pos (by simpa [hempty] using hqueued)]
        split
        · exact ⟨_, _, rfl⟩
        · exact ⟨_, _, rfl⟩
    obtain ⟨waiting, dropped, hpool⟩ := hpool
    rw [hpool]
    exact { h with }
  · exact kept_route h batch

theorem kept_take (h : s.Kept first) : s.take.Kept first := by
  unfold take
  split
  · rename_i p batch hbegin hhead
    obtain ⟨rest, hwaiting⟩ := List.head?_eq_some_iff.mp hhead
    rw [Pool.begin, hwaiting] at hbegin
    obtain ⟨-, hp⟩ := Option.ite_none_right_eq_some.mp hbegin
    obtain rfl := Option.some.inj hp
    refine { h with held := ?_, delivered := fun d hd => ?_, answers := fun a => ?_ }
    · simp [h.held]
    · rcases List.mem_append.mp hd with hd | hd
      · rcases List.mem_append.mp hd with hd | hd
        · exact h.delivered d (List.mem_append_left _ hd)
        · rw [List.mem_singleton.mp hd]
          rfl
      · exact h.delivered d (List.mem_append_right _ hd)
    · have hall := h.answers a
      simp only [underWay, answers, List.map_append, List.flatten_append, List.count_append] at hall ⊢
      simpa using hall
  · exact h

/-- **Everything that happens keeps the accounts.** -/
theorem kept_next (receive : Receive σ) (h : s.Kept first) (e : Event) : (s.next receive e).Kept first := by
  cases e with
  | route batch => exact kept_route h batch
  | queue batch => exact kept_queue h batch
  | call k => exact kept_call h k
  | run => exact { h with }
  | take => exact kept_take h
  | work k => exact kept_work h k
  | stop => exact { h with }

theorem kept_foldl (receive : Receive σ) (h : s.Kept first) (events : List Event) :
    (events.foldl (next receive) s).Kept first :=
  List.foldlRecOn (motive := Kept first) events _ h fun _ h e _ => kept_next receive h e

end Kept

/-- **Acceptances are counted once the dispatch that they belong to has gone through its batch**, refusals at once.
Batches are delivered by their callers or handed in, before the workers are started, while they run and after they were
told to stop, and however the dispatches on their way take turns; destinations may accept, refuse, break down, or keep
an offer waiting. Every answer was given to one dispatch, which has gone through its batch, was broken off, or is still on
its way. Refused offers are counted as rejected whichever it was; accepted ones are counted as routed in the dispatches
that have gone through only, and these are the batches that are counted. So the routed offers are the accepted ones
exactly if no offer was accepted in a dispatch that was broken off or is still on its way. -/
theorem routed_of_answers (receive : Receive σ) (r : Router σ) (workers queueSize : Nat) (events : List Event) :
    let s := events.foldl (next receive) (start r workers queueSize)
    let counters := s.pool.router.counters
    s.answers.Perm (s.done ++ s.broken ++ s.underWay.map Prod.snd).flatten ∧
    counters.routed = r.counters.routed + s.done.flatten.count .accepted ∧
    counters.rejected = r.counters.rejected + s.answers.count .refused ∧
    counters.batches = r.counters.batches + s.done.length ∧
    (counters.routed = r.counters.routed + s.answers.count .accepted ↔
      ∀ answers ∈ s.broken ++ s.underWay.map Prod.snd, .accepted ∉ answers) := by
  intro s counters
  have hkept : s.Kept r.counters := kept_foldl receive (kept_start r workers queueSize) events
  have hall := hkept.answers .accepted
  have hrouted : counters.routed = r.counters.routed + s.done.flatten.count .accepted := hkept.routed
  refine ⟨List.perm_iff_count.mpr hkept.answers, hrouted, hkept.rejected, hkept.batches, ?_⟩
  rw [List.append_assoc, List.flatten_append, List.count_append] at hall
  have hnone : (s.broken ++ s.underWay.map Prod.snd).flatten.count .accepted = 0 ↔
      ∀ answers ∈ s.broken ++ s.underWay.map Prod.snd, .accepted ∉ answers := by
    rw [List.count_eq_zero, List.mem_flatten]
    exact ⟨fun h answers hin hmem => h ⟨answers, hin, hmem⟩, fun h ⟨answers, hin, hmem⟩ => h answers hin hmem⟩
  rw [← hnone]
  omega

/-- A destination breaks down over a sample that one has accepted and another one refused, when the batch is delivered
by its caller and when a worker delivers it: the refusal is counted, the acceptance is not. -/
theorem routed_of_breakdown :
    let store : Destination := ⟨0, "store"⟩
    let shut : Destination := ⟨1, "shut"⟩
    let broken : Destination := ⟨2, "broken"⟩
    let receive : Receive Unit := fun d _ _ =>
      (if d = store then .accepted else if d = shut then .refused else .failed "down", ())
    let r := (Router.keyed Text.code ()).edited
      [.register store [".*"], .register shut [".*"], .register broken [".*"]]
    let m : Metric := ⟨⟨0, "h", "a", [], "x", .gauge, "h/a:x"⟩, 0, .long 1⟩
    let inline := [Event.queue [m]].foldl (next receive) (start r 1 1)
    let pooled := [Event.run, .queue [m], .take, .work 0].foldl (next receive) (start r 1 1)
    (inline.answers = [.accepted, .refused, .failed "down"] ∧ inline.underWay.length = 0 ∧
      inline.pool.router.counters.rejected = inline.answers.count .refused ∧
      inline.pool.router.counters.routed ≠ inline.answers.count .accepted) ∧
    (pooled.answers = [.accepted, .refused, .failed "down"] ∧ pooled.underWay.length = 0 ∧
      pooled.pool.router.counters.rejected = pooled.answers.count .refused ∧
      pooled.pool.router.counters.routed ≠ pooled.answers.count .accepted) := by
  decide +kernel

end Audit

end MetricRouter
