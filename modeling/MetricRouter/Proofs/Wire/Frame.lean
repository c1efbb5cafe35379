import MetricRouter.Proofs.Wire.Incoming
import MetricRouter.Wire.Frame

/-!
# Frames and their bodies

A frame is read body by body, and no body has a say in where the next one starts: its length does.

* `Opcode.carriesMetrics`, `Batch.frame` — the frames of metrics, made of any bodies;
* `Batch.readable`, `Batch.unreadable` — the metrics of bodies, and the number of bodies that have none;
* `readBodies_flatMap_append`, `length_readBodies` — what is read of bodies that are there, and that each one counts;
* `declared_of_decode` — what is read of a frame is as much as the frame declares;
* `decode_frame_append` — the main statement.
-/

namespace MetricRouter.Wire

/-- Does a frame of this kind have metrics? -/
def Opcode.carriesMetrics : Opcode → Bool
  | sendMetric | sendMetricDirect => true
  | _ => false

namespace Batch

/-- The frame of some bodies, which may be any bytes. -/
def frame (opcode : Opcode) (bodies : List (List UInt8)) : List UInt8 :=
  opcode.byte :: bigEndian 4 bodies.length ++ bodies.flatMap writeBlock

/-- The metrics of the bodies that can be read, in order. -/
def readable (bodies : List (List UInt8)) : List Incoming :=
  bodies.filterMap (fun body => (Incoming.decode body).toOption)

/-- The number of bodies that cannot be read. -/
def unreadable (bodies : List (List UInt8)) : Nat :=
  bodies.countP (fun body => !(Incoming.decode body).isOk)

/-- Do the number of the bodies and their lengths fit in four bytes? -/
structure Framable (bodies : List (List UInt8)) : Prop where
  count : bodies.length < UInt32.size
  lengths : ∀ body ∈ bodies, body.length < UInt32.size

/-- The number of metrics that a frame says it has, which stands behind its opcode. -/
def declared : List UInt8 → Nat
  | [] => 0
  | byte :: rest => if (Opcode.ofByte? byte).any Opcode.carriesMetrics then number (rest.take 4) else 0

theorem encode_eq_frame (opcode : Opcode) (ms : List Incoming) :
    encode opcode ms = frame opcode (ms.map Incoming.encode) := by
  rw [encode, frame, List.length_map, List.flatMap_map]

/-! ## Bodies -/

section Bodies

variable {bodies : List (List UInt8)}

theorem readable_append (earlier later : List (List UInt8)) :
    readable (earlier ++ later) = readable earlier ++ readable later := List.filterMap_append

theorem unreadable_append (earlier later : List (List UInt8)) :
    unreadable (earlier ++ later) = unreadable earlier + unreadable later := List.countP_append

theorem readable_singleton_of_ok {body : List UInt8} {m : Incoming} (h : Incoming.decode body = .ok m) :
    readable [body] = [m] ∧ unreadable [body] = 0 := by
  simp [readable, unreadable, h, Except.toOption, Except.isOk, Except.toBool]

theorem readable_singleton_of_error {body : List UInt8} {fault : Fault} (h : Incoming.decode body = .error fault) :
    readable [body] = [] ∧ unreadable [body] = 1 := by
  simp [readable, unreadable, h, Except.toOption, Except.isOk, Except.toBool]

theorem length_readable_singleton (body : List UInt8) : (readable [body]).length + unreadable [body] = 1 := by
  cases h : Incoming.decode body with
  | ok m => rw [(readable_singleton_of_ok h).1, (readable_singleton_of_ok h).2, List.length_singleton]
  | error fault => rw [(readable_singleton_of_error h).1, (readable_singleton_of_error h).2, List.length_nil]

theorem readBodies_succ {count : Nat} {bytes body rest : List UInt8}
    (h : readBlock .metricBody bytes = .ok (body, rest)) :
    readBodies (count + 1) bytes =
      (readable [body] ++ (readBodies count rest).1, unreadable [body] + (readBodies count rest).2) := by
  rw [readBodies, h]
  cases hdecode : Incoming.decode body with
  | ok m =>
    rw [(readable_singleton_of_ok hdecode).1, (readable_singleton_of_ok hdecode).2, Nat.zero_add]
    simp only [hdecode, List.singleton_append]
  | error fault =>
    rw [(readable_singleton_of_error hdecode).1, (readable_singleton_of_error hdecode).2]
    simp only [hdecode, List.nil_append, Nat.add_comm 1]

/-- **What is read of bodies that are there**: each one gives its own metric or counts, whatever the others are. -/
theorem readBodies_flatMap_append (h : ∀ body ∈ bodies, body.length < UInt32.size) (trailing : List UInt8) :
    readBodies bodies.length (bodies.flatMap writeBlock ++ trailing) = (readable bodies, unreadable bodies) := by
  induction bodies with
  | nil => rfl
  | cons body rest ih =>
    obtain ⟨hbody, hrest⟩ := List.forall_mem_cons.mp h
    have hblock : readBlock .metricBody (writeBlock body ++ (rest.flatMap writeBlock ++ trailing)) =
        .ok (body, rest.flatMap writeBlock ++ trailing) := readBlock_eq_ok_iff.mpr ⟨hbody, rfl⟩
    rw [List.length_cons, List.flatMap_cons, List.append_assoc, readBodies_succ hblock, ih hrest,
      ← readable_append, ← unreadable_append, List.singleton_append]

/-- Each body that a frame declares is read or counts, also where the frame is cut short. -/
theorem length_readBodies (count : Nat) (bytes : List UInt8) :
    (readBodies count bytes).1.length + (readBodies count bytes).2 = count := by
  induction count generalizing bytes with
  | zero => rfl
  | succ count ih =>
    cases hblock : readBlock .metricBody bytes with
    | error fault =>
      rw [readBodies, hblock]
      exact Nat.zero_add _
    | ok block =>
      have hfirst := length_readable_singleton block.1
      have hrest := ih block.2
      rw [readBodies_succ hblock, List.length_append]
      omega

theorem readable_map_encode {ms : List Incoming} (h : ∀ m ∈ ms, m.WellFormed) :
    readable (ms.map Incoming.encode) = ms ∧ unreadable (ms.map Incoming.encode) = 0 := by
  have hread : ∀ m ∈ ms, Incoming.decode m.encode = .ok m := fun m hm => by
    have hdecode := Incoming.decode_encode_append (h m hm) []
    rwa [List.append_nil] at hdecode
  constructor
  · rw [readable, List.filterMap_map]
    calc ms.filterMap _ = ms.filterMap some := List.filterMap_congr fun m hm => by
          simp [hread m hm, Except.toOption]
      _ = ms := List.filterMap_some
  · rw [unreadable, List.countP_map, List.countP_eq_zero]
    intro m hm
    simp [hread m hm, Except.isOk, Except.toBool]

end Bodies

/-! ## Frames -/

section Frames

variable {opcode : Opcode} {bytes rest : List UInt8} {remote : Option Net.Endpoint}

theorem decode_of_count (hopcode : opcode.carriesMetrics = true) {count : Nat} (hcount : count < UInt32.size) :
    decode (opcode.byte :: (bigEndian 4 count ++ bytes)) remote =
      .ok ⟨opcode, remote, (readBodies count bytes).1, (opcode.byte :: (bigEndian 4 count ++ bytes)).length,
        (readBodies count bytes).2⟩ := by
  have hread : readOpcode (opcode.byte :: (bigEndian 4 count ++ bytes)) =
      .ok (opcode, bigEndian 4 count ++ bytes) := readOpcode_eq_ok_iff.mpr rfl
  have hnumber : readNumber .metricCount 4 (bigEndian 4 count ++ bytes) = .ok (count, bytes) :=
    readNumber_eq_ok_iff.mpr ⟨hcount, rfl⟩
  refine bind_eq_ok.mpr ⟨_, hread, ?_⟩
  cases opcode with
  | sendMetric | sendMetricDirect => exact bind_eq_ok.mpr ⟨_, hnumber, rfl⟩
  | tokenAssign | confirm | reset | resetConfirm => exact absurd hopcode (by simp [Opcode.carriesMetrics])

/-- **What is read of a frame is as much as the frame declares**: all metrics that it says it has are read or count
as malformed. A confirmation has none. -/
theorem declared_of_decode {b : Batch} (h : decode bytes remote = .ok b) :
    b.bytes = bytes.length ∧ b.metrics.length + b.malformed = declared bytes ∧
      (b.opcode = .resetConfirm → b.metrics = []) := by
  simp only [decode, bind_eq_ok, Prod.exists, readOpcode_eq_ok_iff] at h
  obtain ⟨opcode, rest, rfl, h⟩ := h
  rw [declared, Opcode.ofByte?_byte, Option.any_some]
  cases opcode with
  | resetConfirm =>
    obtain rfl := pure_eq_ok.mp h
    exact ⟨rfl, rfl, fun _ => rfl⟩
  | sendMetric | sendMetricDirect =>
    simp only [bind_eq_ok, Prod.exists, readNumber_eq_ok_iff, pure_eq_ok] at h
    obtain ⟨count, rest, ⟨hcount, rfl⟩, rfl⟩ := h
    have hwritten : number ((bigEndian 4 count ++ rest).take 4) = count := by
      rw [List.take_left' (length_bigEndian 4 count), number_bigEndian, Nat.mod_eq_of_lt hcount]
    refine ⟨rfl, ?_, fun hconfirm => absurd hconfirm (by simp)⟩
    rw [hwritten]
    exact length_readBodies count rest
  | tokenAssign | confirm | reset => exact absurd h (by simp)

end Frames

/-- **Frames are read body by body.** A frame of metrics whose bodies are any bytes, with anything behind it, is read
as the metrics of those bodies that can be read, in order, and the number of the others. So a body that cannot be
read, whatever it is, takes nothing from the others, and well-formed metrics are read back from their frame. -/
theorem decode_frame_append (opcode : Opcode) (hopcode : opcode.carriesMetrics = true)
    (remote : Option Net.Endpoint) :
    (∀ bodies trailing, Framable bodies →
      decode (frame opcode bodies ++ trailing) remote =
        .ok ⟨opcode, remote, readable bodies, (frame opcode bodies ++ trailing).length, unreadable bodies⟩) ∧
    (∀ earlier bad later trailing, Framable (earlier ++ bad :: later) → (∀ m, Incoming.decode bad ≠ .ok m) →
      ∃ b, decode (frame opcode (earlier ++ later) ++ trailing) remote = .ok b ∧
        decode (frame opcode (earlier ++ bad :: later) ++ trailing) remote =
          .ok { b with
            bytes := (frame opcode (earlier ++ bad :: later) ++ trailing).length
            malformed := b.malformed + 1 }) ∧
    (∀ ms : List Incoming, ms.length < UInt32.size → (∀ m ∈ ms, m.WellFormed ∧ m.encode.length < UInt32.size) →
      decode (encode opcode ms) remote = .ok ⟨opcode, remote, ms, (encode opcode ms).length, 0⟩) := by
  have hframe (bodies : List (List UInt8)) (trailing : List UInt8) (h : Framable bodies) :
      decode (frame opcode bodies ++ trailing) remote =
        .ok ⟨opcode, remote, readable bodies, (frame opcode bodies ++ trailing).length, unreadable bodies⟩ := by
    rw [frame, List.append_assoc, List.cons_append, decode_of_count hopcode h.count,
      readBodies_flatMap_append h.lengths trailing]
  refine ⟨hframe, fun earlier bad later trailing h hbad => ?_, fun ms hcount hms => ?_⟩
  · have hless : Framable (earlier ++ later) := by
      refine ⟨Nat.lt_of_le_of_lt ?_ h.count, fun body hbody => h.lengths body ?_⟩
      · simp
      · rcases List.mem_append.mp hbody with hbody | hbody
        · exact List.mem_append_left _ hbody
        · exact List.mem_append_right _ (List.mem_cons_of_mem _ hbody)
    have hsplit : earlier ++ bad :: later = earlier ++ ([bad] ++ later) := rfl
    refine ⟨_, hframe _ trailing hless, ?_⟩
    cases hdecode : Incoming.decode bad with
    | ok m => exact absurd hdecode (hbad m)
    | error fault =>
      obtain ⟨hnone, hone⟩ := readable_singleton_of_error hdecode
      rw [hframe _ trailing h]
      simp only [hsplit, readable_append, unreadable_append, hnone, hone, List.nil_append]
      rw [Nat.add_comm 1, Nat.add_assoc]
  · have hbodies : Framable (ms.map Incoming.encode) := by
      refine ⟨by rwa [List.length_map], fun body hbody => ?_⟩
      obtain ⟨m, hm, rfl⟩ := List.mem_map.mp hbody
      exact (hms m hm).2
    obtain ⟨hread, hcounted⟩ := readable_map_encode fun m hm => (hms m hm).1
    have hdecode := hframe _ [] hbodies
    rwa [List.append_nil, hread, hcounted, ← encode_eq_frame] at hdecode

/-- A frame whose first body is empty, whose second one says that it has a longer name than there are bytes, and
behind which the start of another body stands. -/
theorem decode_frame_append_of_three_bodies :
    let m : Incoming := ⟨.token 7, .gauge, -1, .long 3⟩
    let long : List UInt8 := writeLong noToken ++ 0 :: [255, 255, 255, 255, 104]
    let trailing : List UInt8 := [0, 0, 0, 9, 1]
    Opcode.sendMetricDirect.carriesMetrics = true ∧ Framable [[], long, m.encode] ∧
      (∀ m', Incoming.decode long ≠ .ok m') ∧
      readable [[], long, m.encode] = [m] ∧ unreadable [[], long, m.encode] = 2 ∧
      decode (frame .sendMetricDirect [[], long, m.encode] ++ trailing) none =
        .ok ⟨.sendMetricDirect, none, [m], 61, 2⟩ ∧
      (∃ b, decode (frame .sendMetricDirect [[], m.encode] ++ trailing) none = .ok b ∧
        decode (frame .sendMetricDirect [[], long, m.encode] ++ trailing) none =
          .ok { b with bytes := 61, malformed := b.malformed + 1 }) := by
  intro m long trailing
  have hfits : Framable [[], long, m.encode] := ⟨by decide, by decide⟩
  have hbad : ∀ m', Incoming.decode long ≠ .ok m' := by
    have herror : Incoming.decode long = .error (.truncated .host (2 ^ 32 - 1) 1) := by decide +kernel
    rw [herror]
    simp
  have hread : readable [[], long, m.encode] = [m] := by decide +kernel
  have hcounted : unreadable [[], long, m.encode] = 2 := by decide +kernel
  obtain ⟨hframe, hless, -⟩ := decode_frame_append .sendMetricDirect rfl none
  have hdecode := hframe [[], long, m.encode] trailing hfits
  rw [hread, hcounted] at hdecode
  exact ⟨rfl, hfits, hbad, hread, hcounted, hdecode, hless [[]] long [m.encode] trailing hfits hbad⟩

end Batch

end MetricRouter.Wire
