import MetricRouter.Proofs.Wire.Frame

/-!
# Frames that are cut short

A frame is read as far as its bodies are there whole. Where it is cut, the bodies behind the cut are lost and count as
malformed, and what is read of the others does not change.

* `wholeBodies` — the bodies that are there whole, of a number of them;
* `readBlock_of_cut`, `wholeBodies_of_cut` — what is read in front of a cut;
* `readBodies_eq_readable`, `decode_of_start` — the metrics of a frame are those of its whole bodies;
* `declared_of_cut` — a cut behind the number of metrics leaves that number;
* `decode_of_cut` — the main statement.
-/

namespace MetricRouter.Wire.Batch

/-- The bodies that are there whole, of a number of them: from the first one that is not, none can be told apart. -/
def wholeBodies : Nat → List UInt8 → List (List UInt8)
  | 0, _ => []
  | count + 1, bytes =>
    match readBlock .metricBody bytes with
    | .error _ => []
    | .ok (body, rest) => body :: wholeBodies count rest

/-! ## Bodies in front of a cut -/

section Bodies

variable {field : Field} {count : Nat} {bytes cut body rest : List UInt8}

theorem wholeBodies_of_ok (h : readBlock .metricBody bytes = .ok (body, rest)) :
    wholeBodies (count + 1) bytes = body :: wholeBodies count rest := by
  rw [wholeBodies, h]

theorem wholeBodies_of_error {fault : Fault} (h : readBlock .metricBody bytes = .error fault) :
    wholeBodies (count + 1) bytes = [] := by
  rw [wholeBodies, h]

/-- What is read in front of a cut is read without the cut, too. -/
theorem readBlock_of_cut (hcut : cut <+: bytes) (h : readBlock field cut = .ok (body, rest)) :
    ∃ more, readBlock field bytes = .ok (body, more) ∧ rest <+: more := by
  obtain ⟨lost, rfl⟩ := hcut
  obtain ⟨hlength, rfl⟩ := readBlock_eq_ok_iff.mp h
  exact ⟨rest ++ lost, readBlock_eq_ok_iff.mpr ⟨hlength, List.append_assoc _ _ _⟩, List.prefix_append _ _⟩

theorem wholeBodies_of_cut (hcut : cut <+: bytes) : wholeBodies count cut <+: wholeBodies count bytes := by
  induction count generalizing cut bytes with
  | zero => exact List.prefix_rfl
  | succ count ih =>
    cases hread : readBlock .metricBody cut with
    | error fault =>
      rw [wholeBodies_of_error hread]
      exact List.nil_prefix
    | ok block =>
      obtain ⟨body, rest⟩ := block
      obtain ⟨more, hmore, hrest⟩ := readBlock_of_cut hcut hread
      rw [wholeBodies_of_ok hread, wholeBodies_of_ok hmore]
      exact (List.prefix_cons_inj body).mpr (ih hrest)

theorem readBodies_eq_readable (count : Nat) (bytes : List UInt8) :
    (readBodies count bytes).1 = readable (wholeBodies count bytes) := by
  induction count generalizing bytes with
  | zero => rfl
  | succ count ih =>
    cases hread : readBlock .metricBody bytes with
    | error fault =>
      rw [readBodies, hread, wholeBodies_of_error hread]
      rfl
    | ok block =>
      rw [readBodies_succ hread, wholeBodies_of_ok hread, ih, ← readable_append, List.singleton_append]

end Bodies

/-! ## Frames in front of a cut -/

section Frames

variable {opcode : Opcode} {remote : Option Net.Endpoint} {frame cut : List UInt8}

/-- A frame that has room for an opcode of metrics and their number is the two and whatever follows. -/
theorem eq_of_start (hopcode : opcode.carriesMetrics = true) (hstart : [opcode.byte] <+: frame)
    (hlength : 5 ≤ frame.length) :
    frame = opcode.byte :: (bigEndian 4 (declared frame) ++ frame.drop 5) ∧ declared frame < UInt32.size := by
  obtain ⟨rest, rfl⟩ := hstart
  have hfour : (rest.take 4).length = 4 := by
    rw [List.length_take]
    simp only [List.singleton_append, List.length_cons] at hlength
    omega
  have hdeclared : declared (opcode.byte :: rest) = number (rest.take 4) := by
    rw [declared, Opcode.ofByte?_byte, Option.any_some, if_pos hopcode]
  have hwritten := bigEndian_number (rest.take 4)
  have hfits := number_lt (rest.take 4)
  rw [hfour] at hwritten hfits
  rw [List.singleton_append, hdeclared, hwritten]
  exact ⟨congrArg _ (List.take_append_drop 4 rest).symm, hfits⟩

theorem decode_of_start (hopcode : opcode.carriesMetrics = true) (hstart : [opcode.byte] <+: frame)
    (hlength : 5 ≤ frame.length) :
    decode frame remote =
      .ok ⟨opcode, remote, readable (wholeBodies (declared frame) (frame.drop 5)), frame.length,
        (readBodies (declared frame) (frame.drop 5)).2⟩ := by
  obtain ⟨hframe, hfits⟩ := eq_of_start hopcode hstart hlength
  have hdecode := @decode_of_count opcode (frame.drop 5) remote hopcode _ hfits
  rwa [← hframe, readBodies_eq_readable] at hdecode

theorem declared_of_cut (hcut : cut <+: frame) (hlength : 5 ≤ cut.length) : declared cut = declared frame := by
  obtain ⟨lost, rfl⟩ := hcut
  cases cut with
  | nil => exact absurd hlength (by simp)
  | cons byte rest =>
    have hfour : 4 ≤ rest.length := by simpa using hlength
    rw [List.cons_append, declared, declared, List.take_append_of_le_length hfour]

end Frames

/-- **A cut takes metrics from the end of a frame and does nothing else.** Any bytes that start with an opcode of
metrics and have room for their number are read: as the metrics of the bodies that are there whole, and what is not
read of the number counts as malformed. If they are cut behind the number, what is left is read as metrics with which
the ones of all the bytes start, and the others count as malformed. -/
theorem decode_of_cut {opcode : Opcode} (hopcode : opcode.carriesMetrics = true) (remote : Option Net.Endpoint)
    {frame : List UInt8} (hstart : [opcode.byte] <+: frame) (hlength : 5 ≤ frame.length) :
    ∃ metrics malformed, decode frame remote = .ok ⟨opcode, remote, metrics, frame.length, malformed⟩ ∧
      metrics = readable (wholeBodies (declared frame) (frame.drop 5)) ∧
      metrics.length + malformed = declared frame ∧
      ∀ cut, cut <+: frame → 5 ≤ cut.length →
        ∃ kept lost, decode cut remote = .ok ⟨opcode, remote, kept, cut.length, lost⟩ ∧
          kept <+: metrics ∧ kept.length + lost = declared frame := by
  have hread := @decode_of_start opcode remote frame hopcode hstart hlength
  refine ⟨_, _, hread, rfl, (declared_of_decode hread).2.1, fun cut hcut hfive => ?_⟩
  have hbehind : [opcode.byte].length ≤ cut.length := Nat.le_trans (by simp) hfive
  have hleft := @decode_of_start opcode remote cut hopcode
    (List.prefix_of_prefix_length_le hstart hcut hbehind) hfive
  have hcounted := (declared_of_decode hleft).2.1
  rw [declared_of_cut hcut hfive] at hleft hcounted
  exact ⟨_, _, hleft, (wholeBodies_of_cut (hcut.drop 5)).filterMap _, hcounted⟩

/-- A frame that declares four metrics: an empty body stands between two that can be read, and the last length leads
past the end. The cut goes through the second metric. -/
theorem decode_of_cut_of_four_declared :
    let m : Incoming := ⟨.token 7, .gauge, -1, .long 3⟩
    let frame : List UInt8 := [0, 0, 0, 0, 4] ++ [m.encode, [], m.encode].flatMap writeBlock ++ [0, 0, 0, 9, 1]
    let cut : List UInt8 := frame.take 50
    Opcode.sendMetric.carriesMetrics = true ∧ [Opcode.sendMetric.byte] <+: frame ∧ 5 ≤ frame.length ∧
      cut <+: frame ∧ 5 ≤ cut.length ∧ declared frame = 4 ∧
      decode frame none = .ok ⟨.sendMetric, none, [m, m], 72, 2⟩ ∧
      [m, m] = readable (wholeBodies (declared frame) (frame.drop 5)) ∧
      decode cut none = .ok ⟨.sendMetric, none, [m], 50, 3⟩ ∧ [m] <+: [m, m] ∧ [m, m].length + 2 = 4 ∧
      [m].length + 3 = 4 := by
  intro m frame cut
  have hstart : [Opcode.sendMetric.byte] <+: frame := ⟨frame.drop 1, by decide +kernel⟩
  have hlength : 5 ≤ frame.length := by decide +kernel
  have hcut : cut <+: frame := List.take_prefix 50 frame
  have hfive : 5 ≤ cut.length := by decide +kernel
  have hdeclared : declared frame = 4 := by decide +kernel
  have hread : decode frame none = .ok ⟨.sendMetric, none, [m, m], 72, 2⟩ := by decide +kernel
  have hleft : decode cut none = .ok ⟨.sendMetric, none, [m], 50, 3⟩ := by decide +kernel
  obtain ⟨metrics, malformed, hframe, hwhole, hcounted, hcuts⟩ :=
    @decode_of_cut .sendMetric rfl none frame hstart hlength
  obtain ⟨kept, lost, hkept, hkeeps, hlost⟩ := hcuts cut hcut hfive
  obtain ⟨rfl, -, rfl⟩ : metrics = [m, m] ∧ 72 = frame.length ∧ malformed = 2 := by
    rw [hread] at hframe
    simpa [eq_comm] using hframe
  obtain ⟨rfl, -, rfl⟩ : kept = [m] ∧ 50 = cut.length ∧ lost = 3 := by
    rw [hleft] at hkept
    simpa [eq_comm] using hkept
  rw [hdeclared] at hcounted hlost
  exact ⟨rfl, hstart, hlength, hcut, hfive, hdeclared, hread, hwhole, hleft, hkeeps, hcounted, hlost⟩

end MetricRouter.Wire.Batch
