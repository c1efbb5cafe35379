import MetricRouter.Proofs.Wire.Buffers

/-!
# Every read is guarded

Metrics, frames and replies are read from bytes that a stranger sent: the lengths and the counts in them are the
stranger's. Read step by step, each check apart from the reads that it stands in front of, they give what the readers
give, so no read goes past the bytes that are left and no difference is below zero. A count says how often the loop over
segments may go round, and the bytes say how often it does.

* `run_header`, `follows_segment`, `follows_names`, `follows_value` — the parts of a metric follow their readers;
* `Concludes` — a scan gives what a reader gives, however much it leaves;
* `concludes_metric`, `concludes_bodies`, `concludes_batch`, `concludes_reply` — metrics, frames and replies;
* `Answers` — what may come of bytes;
* `reads_guarded` — the main statement.
-/

namespace MetricRouter.Wire.Buffer

/-! ## The parts of a metric -/

/-- **One check stands in front of two reads**: the first one leaves what the second one needs. -/
theorem run_header (b : Buffer) :
    (∃ token type d, header.run b = (.ok (token, type), d) ∧
      Incoming.decodeHeader b.left = .ok (token, type, d.left) ∧ d.cost ≤ b.cost) ∨
    (∃ f d, header.run b = (.error (.fault f), d) ∧ Incoming.decodeHeader b.left = .error f ∧
      4 * d.rounds ≤ b.cost) := by
  unfold header Incoming.decodeHeader
  rcases Nat.lt_or_ge b.left.length 9 with hleft | hleft
  · rw [take_of_lt _ hleft]
    exact Or.inr ⟨_, b, run_bind_of_error (run_check_of_lt _ hleft) _, rfl, b.rounds_le_cost⟩
  · have height : 8 ≤ (b.vouch 9).left.length := Nat.le_of_succ_le hleft
    have hone : 1 ≤ ((b.vouch 9).skip 8).left.length := by
      rw [left_skip, left_vouch, List.length_drop]
      omega
    have hcheck := run_check_of_le .metricHeader hleft
    have htoken : (read 8).run (b.vouch 9) = (.ok (b.left.take 8), (b.vouch 9).skip 8) := run_read (by simp) height
    have hordinal : (read 1).run ((b.vouch 9).skip 8) =
        (.ok ((b.left.drop 8).take 1), ((b.vouch 9).skip 8).skip 1) := run_read (by simp) hone
    have hcost : (((b.vouch 9).skip 8).skip 1).cost ≤ b.cost := by
      have hskip := cost_skip_add height
      have hskip' := cost_skip_add hone
      rw [cost_vouch] at hskip
      omega
    -- the reader takes the nine bytes at once and divides them afterwards
    have htake : (b.left.take 9).take 8 = b.left.take 8 := List.take_take ..
    have hdrop : (b.left.take 9).drop 8 = (b.left.drop 8).take 1 := List.drop_take ..
    have hrest : b.left.drop 9 = (((b.vouch 9).skip 8).skip 1).left := by simp
    rw [run_bind_of_ok hcheck, run_bind_of_ok htoken, run_bind_of_ok hordinal, take_of_le _ hleft]
    simp only [bind, Except.bind, htake, hdrop, hrest]
    cases MetricType.ofOrdinal? (UInt8.ofNat (Wire.number ((b.left.drop 8).take 1))) with
    | none => exact Or.inr ⟨_, _, rfl, rfl, Nat.le_trans (rounds_le_cost _) hcost⟩
    | some type => exact Or.inl ⟨_, type, _, rfl, rfl, hcost⟩

/-- A segment that can be read takes its round and four bytes, which costs nothing. One that cannot takes the round. -/
theorem follows_segment : Follows 0 4 segment (readText .segment) := by
  intro b
  have hround : round.run b = (.ok (), b.tick) := rfl
  have htick := cost_tick b
  rcases follows_text .segment b.tick with ⟨s, d, hrun, hread, hcost⟩ | ⟨f, d, hrun, hread, hrounds⟩
  · exact Or.inl ⟨s, d, (run_bind_of_ok hround _).trans hrun, hread, by omega⟩
  · exact Or.inr ⟨f, d, (run_bind_of_ok hround _).trans hrun, hread, by omega⟩

/-- However many segments there should be, only the last round can cost anything. -/
theorem follows_segments (count : Nat) : Follows 0 4 (segments count) (Incoming.readSegments count) := by
  induction count with
  | zero => exact follows_pure []
  | succ count ih => exact follows_segment.bind fun s => ih.bind fun more => follows_pure (s :: more)

theorem follows_names : Follows 0 4 names Incoming.decodeName :=
  (follows_text .host).relax.bind fun host =>
    (follows_text .agent).relax.bind fun agent =>
      (follows_number .namespaceCount 4).relax.bind fun count =>
        (follows_segments count).bind fun segments =>
          (follows_text .name).relax.bind fun name => follows_pure (FullName.mk host agent segments name)

theorem follows_key (token : Int64) : Follows 0 4 (key token) (Incoming.decodeKey token) := by
  unfold key Incoming.decodeKey
  split
  · exact follows_names.bind fun names => follows_pure (Key.named names)
  · exact follows_pure (Key.token token)

theorem follows_value (type : MetricType) : Follows 0 4 (value type) (Incoming.decodeValue type) := by
  cases type with
  | gauge | delta => exact (follows_long .longValue).relax.bind fun v => follows_pure (Value.long v)
  | error | text => exact (follows_text .textValue).relax.bind fun s => follows_pure (Value.text s)
  | blob => exact (follows_block .blobValue).relax.bind fun raw => follows_pure (Value.blob raw)

/-! ## What comes of a whole scan -/

/-- The scan gives what a reader gives, and the rounds exceed the cost by one round at most. -/
structure Concludes {α : Type} (s : Scan α) (b : Buffer) (x : Except Fault α) : Prop where
  result : (s.run b).1 = x.mapError .fault
  rounds : 4 * (s.run b).2.rounds ≤ b.cost + 4

section Concludes

variable {α β : Type} {s : Scan α} {t : α → Scan β} {b d : Buffer} {x : Except Fault β}

theorem Concludes.of_run {a : α} (hrun : s.run b = (.ok a, d)) (hrounds : 4 * d.rounds ≤ b.cost + 4) :
    Concludes s b (.ok a) where
  result := by
    rw [hrun]
    rfl
  rounds := by rwa [hrun]

theorem concludes_pure (a : α) (b : Buffer) : Concludes (pure a) b (.ok a) :=
  .of_run (run_pure a b) (Nat.le_add_right_of_le b.rounds_le_cost)

theorem concludes_throw (f : Fault) (b : Buffer) : Concludes (throw (.fault f) : Scan α) b (.error f) where
  result := rfl
  rounds := Nat.le_add_right_of_le b.rounds_le_cost

theorem Concludes.of_ok {a : α} (hrun : s.run b = (.ok a, d)) (hcost : d.cost ≤ b.cost) (h : Concludes (t a) d x) :
    Concludes (s >>= t) b x where
  result := by rw [run_bind_of_ok hrun, h.result]
  rounds := by
    rw [run_bind_of_ok hrun]
    exact Nat.le_trans h.rounds (Nat.add_le_add_right hcost 4)

theorem Concludes.of_fault {f : Fault} (hrun : s.run b = (.error (.fault f), d))
    (hrounds : 4 * d.rounds ≤ b.cost + 4) : Concludes (s >>= t) b (.error f) where
  result := by
    rw [run_bind_of_error hrun]
    rfl
  rounds := by rwa [run_bind_of_error hrun]

theorem Concludes.map {a : α} (h : Concludes s b (.ok a)) (f : α → β) :
    Concludes (s >>= fun a => pure (f a)) b (.ok (f a)) := by
  have hrun : s.run b = (.ok a, (s.run b).2) := Prod.ext h.result rfl
  exact .of_run (run_bind_of_ok hrun _) h.rounds

theorem Follows.concludes {spent : Nat} {r : Reader α} (hs : Follows spent 4 s r)
    {q : α × List UInt8 → Except Fault β} (ht : ∀ a d, Concludes (t a) d (q (a, d.left))) :
    Concludes (s >>= t) b (r b.left >>= q) := by
  rcases hs b with ⟨a, d, hrun, hread, hcost⟩ | ⟨f, d, hrun, hread, hrounds⟩
  · rw [hread]
    exact .of_ok hrun (Nat.le_of_add_right_le hcost) (ht a d)
  · rw [hread]
    exact .of_fault hrun hrounds

end Concludes

/-! ## Metrics and replies -/

theorem concludes_metric (b : Buffer) : Concludes metric b (Incoming.decode b.left) := by
  unfold metric Incoming.decode
  rcases run_header b with ⟨token, type, d, hrun, hread, hcost⟩ | ⟨f, d, hrun, hread, hrounds⟩
  · rw [hread]
    refine .of_ok hrun hcost ?_
    exact (follows_key token).concludes fun key d =>
      (follows_long .time).relax.concludes fun time d =>
        (follows_value type).concludes fun value d => concludes_pure (Incoming.mk key type time value) d
  · rw [hread]
    exact .of_fault hrun (Nat.le_add_right_of_le hrounds)

theorem concludes_reply (b : Buffer) : Concludes reply b (Reply.decode b.left) := by
  refine follows_opcode.relax.concludes fun opcode d => ?_
  cases opcode with
  | tokenAssign =>
    exact (follows_text .fqn).relax.concludes fun fqn d =>
      (follows_long .token).relax.concludes fun token d => concludes_pure (Reply.tokenAssign fqn token) d
  | confirm => exact (follows_text .key).relax.concludes fun key d => concludes_pure (Reply.confirm key) d
  | reset => exact concludes_pure Reply.reset d
  | sendMetric | sendMetricDirect | resetConfirm => exact concludes_throw (.notReply _) d

/-! ## Frames -/

theorem run_apart (body : List UInt8) (b : Buffer) : (apart body metric).run b = (.ok (Incoming.decode body), b) := by
  have hresult : (metric.run (on body)).1 = (Incoming.decode body).mapError .fault := (concludes_metric (on body)).result
  unfold apart
  rw [hresult]
  cases Incoming.decode body <;> rfl

/-- **No difference is below zero**: from the place `i` on there are as many bodies as `i` is less than the count. -/
theorem concludes_bodies {count n i : Nat} (h : i + n = count) (metrics : List Incoming) (malformed : Nat)
    (b : Buffer) : Concludes (bodies count metrics malformed (List.range' i n)) b
      (.ok (metrics ++ (Batch.readBodies n b.left).1, malformed + (Batch.readBodies n b.left).2)) := by
  induction n generalizing i metrics malformed b with
  | zero =>
    rw [Batch.readBodies, List.append_nil]
    exact concludes_pure _ b
  | succ n ih =>
    rw [List.range'_succ, bodies, Batch.readBodies]
    rcases run_length .metricBody b with
      ⟨size, d, hrun, hvouched, hleft, hread, hcost⟩ | ⟨f, d, hrun, hread, hrounds⟩
    · rw [hread]
      have hskip : (d.skip size).cost ≤ d.cost := Nat.le_of_add_right_le (Nat.le_of_eq (cost_skip_add hleft))
      have hplace : i + 1 + n = count := by omega
      refine .of_ok (run_attempt_of_ok hrun) (Nat.le_of_add_right_le hcost) ?_
      refine .of_ok (run_read hvouched hleft) hskip ?_
      refine .of_ok (run_apart _ _) (Nat.le_refl _) ?_
      cases hdecode : Incoming.decode (d.left.take size) with
      | ok m =>
        have hrest := ih hplace (metrics ++ [m]) malformed (d.skip size)
        rw [List.append_assoc, List.singleton_append] at hrest
        simpa only [hdecode, left_skip] using hrest
      | error f =>
        have hrest := ih hplace metrics (malformed + 1) (d.skip size)
        rw [Nat.add_assoc, Nat.add_comm 1] at hrest
        simpa only [hdecode, left_skip] using hrest
    · rw [hread]
      have hplace : i ≤ count := Nat.le_of_add_right_le (Nat.le_of_eq h)
      have hmissing : count - i = n + 1 := by omega
      have hsubtract := run_subtract (b := d) hplace
      rw [hmissing] at hsubtract
      have hlast : (subtract count i >>= fun missing => pure (metrics, malformed + missing) : Scan _).run d =
          (.ok (metrics, malformed + (n + 1)), d) := run_bind_of_ok hsubtract _
      refine .of_run ((run_bind_of_ok (run_attempt_of_fault hrun) _).trans ?_) (Nat.le_add_right_of_le hrounds)
      rw [List.append_nil]
      exact hlast

theorem concludes_batch (remote : Option Net.Endpoint) (b : Buffer) :
    Concludes (batch remote) b (Batch.decode b.left remote) := by
  have hframe : (get : Scan Buffer).run b = (.ok b, b) := rfl
  refine .of_ok hframe (Nat.le_refl _) ?_
  refine follows_opcode.relax.concludes fun opcode d => ?_
  cases opcode with
  | resetConfirm => exact concludes_pure _ d
  | sendMetric | sendMetricDirect =>
    refine (follows_number .metricCount 4).relax.concludes fun count d => ?_
    have hbodies := concludes_bodies (Nat.zero_add count) [] 0 d
    rw [← List.range_eq_range', List.nil_append, Nat.zero_add] at hbodies
    exact hbodies.map _
  | tokenAssign | confirm | reset => exact concludes_throw (.notInbound _) d

/-! ## Any bytes -/

/-- A value, or a fault that is a failure of decoding or of the protocol. -/
def Answers {α : Type} (x : Except Stop α) : Prop :=
  (∃ a, x = .ok a) ∨
    ∃ f reason, x = .error (.fault f) ∧ (f.failure = .decode reason ∨ f.failure = .protocol reason)

theorem failure_cases (f : Fault) : ∃ reason, f.failure = .decode reason ∨ f.failure = .protocol reason := by
  cases f with
  | truncated | unknownType | notUtf8 => exact ⟨_, Or.inl rfl⟩
  | unknownOpcode | notInbound | notReply => exact ⟨_, Or.inr rfl⟩

theorem Concludes.answers {α : Type} {s : Scan α} {b : Buffer} {x : Except Fault α} (h : Concludes s b x) :
    Answers (s.run b).1 := by
  rw [h.result]
  cases x with
  | ok a => exact Or.inl ⟨a, rfl⟩
  | error f =>
    obtain ⟨reason, hfailure⟩ := failure_cases f
    exact Or.inr ⟨f, reason, rfl, hfailure⟩

/-- **Nothing that is sent makes a read go past its bytes.** Whatever the bytes are, to read a metric, a frame or a reply
step by step gives

* a value or a failure of decoding or of the protocol: every read is of bytes that are left and that the last check has
  found, and what is missing of a count is not below zero;
* what the readers of metrics, frames and replies give;
* and the loop over the segments of a metric goes round once more than there are four bytes, at most, whatever the number
  of segments is said to be. -/
theorem reads_guarded (bytes : List UInt8) (remote : Option Net.Endpoint) :
    (Answers (metric.run (on bytes)).1 ∧ Answers ((batch remote).run (on bytes)).1 ∧
      Answers (reply.run (on bytes)).1) ∧
    ((metric.run (on bytes)).1 = (Incoming.decode bytes).mapError .fault ∧
      ((batch remote).run (on bytes)).1 = (Batch.decode bytes remote).mapError .fault ∧
      (reply.run (on bytes)).1 = (Reply.decode bytes).mapError .fault) ∧
    (metric.run (on bytes)).2.rounds ≤ bytes.length / 4 + 1 := by
  have hmetric := concludes_metric (on bytes)
  have hbatch := concludes_batch remote (on bytes)
  have hreply := concludes_reply (on bytes)
  refine ⟨⟨hmetric.answers, hbatch.answers, hreply.answers⟩, ⟨hmetric.result, hbatch.result, hreply.result⟩, ?_⟩
  have hrounds := hmetric.rounds
  rw [cost_on] at hrounds
  omega

/-- There are 4294967295 segments, it says, and one of them is there: the round after it is the last one. -/
example :
    let bytes : List UInt8 :=
      writeLong noToken ++ [0] ++ writeText "" ++ writeText "" ++ [255, 255, 255, 255] ++ writeText "a"
    (metric.run (on bytes)).2.rounds = 2 := by
  decide +kernel

end MetricRouter.Wire.Buffer
