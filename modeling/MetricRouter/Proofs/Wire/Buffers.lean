import MetricRouter.Wire.Frame
import MetricRouter.Wire.Reply

/-!
# Reads and the checks in front of them

A reader of the wire format checks for the bytes of a field and takes them in one step. In a buffer the two are apart: a
check finds bytes, and a read takes bytes without asking whether they are there. A read that no check stands in front of
is a crash, and so is a difference below zero. A buffer also counts the rounds of the loop over segments, whose number
comes from the sender.

* `Buffer`, `Buffer.Crash`, `Buffer.Scan` — buffers, and what is done with them step by step;
* `Buffer.metric`, `Buffer.batch`, `Buffer.reply` — the steps that read metrics, frames and replies;
* `Buffer.run_check_of_le`, `Buffer.run_read`, `Buffer.run_subtract`, … — what each step does where it does not crash;
* `Buffer.Follows` — a scan does as a reader does, and how many rounds that takes;
* `Buffer.Follows.bind` — scans that follow their readers do so one after another;
* `Buffer.follows_take`, `Buffer.follows_number`, `Buffer.follows_text`, … — each kind of field.
-/

namespace MetricRouter.Wire

/-- Bytes that are being read. -/
structure Buffer where
  left : List UInt8
  /-- How many of the bytes that are left the last check has found. -/
  vouched : Nat
  /-- How many rounds of the loop over segments were begun. -/
  rounds : Nat

namespace Buffer

/-- Bytes of which nothing is read. -/
def on (bytes : List UInt8) : Buffer := ⟨bytes, 0, 0⟩

/-- The next `n` bytes are found. -/
def vouch (b : Buffer) (n : Nat) : Buffer := { b with vouched := n }

/-- The next `n` bytes are taken. -/
def skip (b : Buffer) (n : Nat) : Buffer := { b with left := b.left.drop n, vouched := b.vouched - n }

/-- Another round is begun. -/
def tick (b : Buffer) : Buffer := { b with rounds := b.rounds + 1 }

/-- What must not happen. -/
inductive Crash where
  /-- A read of bytes that the last check has not found. -/
  | unguarded
  /-- A read past the bytes that are left. -/
  | overrun
  /-- A difference below zero. -/
  | underflow
  deriving DecidableEq

/-- Why reading stops early. -/
inductive Stop where
  | fault (f : Fault)
  | crash (c : Crash)
  deriving DecidableEq

/-- Steps on a buffer. Where they stop early, what was done to the buffer stays done. -/
abbrev Scan := ExceptT Stop (StateM Buffer)

/-! ## Steps -/

/-- Are `n` bytes left? -/
def check (field : Field) (n : Nat) : Scan Unit := do
  let b ← get
  if b.left.length < n then throw (.fault (.truncated field n b.left.length))
  set (b.vouch n)

/-- The next `n` bytes, which have to be there. -/
def read (n : Nat) : Scan (List UInt8) := do
  let b ← get
  if b.vouched < n then throw (.crash .unguarded)
  if b.left.length < n then throw (.crash .overrun)
  set (b.skip n)
  return b.left.take n

/-- What `m` has more than `n`, which must not be the larger one. -/
def subtract (m n : Nat) : Scan Nat :=
  if m < n then throw (.crash .underflow) else return m - n

/-- Another round of the loop over segments. -/
def round : Scan Unit := modify tick

/-- A fault is looked at and does not stop what follows. -/
def attempt {α : Type} (s : Scan α) : Scan (Except Fault α) := fun b =>
  match s.run b with
  | (.ok a, d) => (.ok (.ok a), d)
  | (.error (.fault f), d) => (.ok (.error f), d)
  | (.error (.crash c), d) => (.error (.crash c), d)

/-- Some bytes are read in a buffer of their own. A crash there is a crash here. -/
def apart {α : Type} (bytes : List UInt8) (s : Scan α) : Scan (Except Fault α) :=
  match (s.run (on bytes)).1 with
  | .ok a => return .ok a
  | .error (.fault f) => return .error f
  | .error (.crash c) => throw (.crash c)

/-! ## Fields -/

/-- A number of `width` bytes. -/
def number (field : Field) (width : Nat) : Scan Nat := do
  check field width
  let raw ← read width
  return Wire.number raw

/-- A signed number of eight bytes. -/
def long (field : Field) : Scan Int64 := do
  let n ← number field 8
  return (UInt64.ofNat n).toInt64

/-- A length that does not lead past the end. -/
def length (field : Field) : Scan Nat := do
  let n ← number field 4
  check field n
  return n

/-- Bytes that follow their length. -/
def block (field : Field) : Scan (List UInt8) := do
  let n ← length field
  read n

/-- A text that follows its length in bytes. -/
def text (field : Field) : Scan String := do
  let raw ← block field
  match Text.ofUtf8 raw with
  | .error fault => throw (.fault (.notUtf8 field fault))
  | .ok s => return s

/-- The opcode of a frame. -/
def opcode : Scan Opcode := do
  let n ← number .opcode 1
  match Opcode.ofByte? (UInt8.ofNat n) with
  | none => throw (.fault (.unknownOpcode (UInt8.ofNat n)))
  | some o => return o

/-! ## Metrics -/

/-- Token and type: one check for the two of them. -/
def header : Scan (Int64 × MetricType) := do
  check .metricHeader 9
  let token ← read 8
  let ordinal ← read 1
  match MetricType.ofOrdinal? (UInt8.ofNat (Wire.number ordinal)) with
  | none => throw (.fault (.unknownType (UInt8.ofNat (Wire.number ordinal))))
  | some type => return ((UInt64.ofNat (Wire.number token)).toInt64, type)

/-- A segment, which takes a round. -/
def segment : Scan String := do
  round
  text .segment

/-- A given number of segments. -/
def segments : Nat → Scan (List String)
  | 0 => return []
  | count + 1 => do
    let s ← segment
    let more ← segments count
    return s :: more

/-- Names. -/
def names : Scan FullName := do
  let host ← text .host
  let agent ← text .agent
  let count ← number .namespaceCount 4
  let segments ← segments count
  let name ← text .name
  return ⟨host, agent, segments, name⟩

/-- The names or the token in front of which a token was read. -/
def key (token : Int64) : Scan Key :=
  if token = noToken then do
    let names ← names
    return .named names
  else return .token token

/-- A value of the kind that a type carries. -/
def value (type : MetricType) : Scan Value :=
  match type with
  | .gauge | .delta => do
    let v ← long .longValue
    return .long v
  | .error | .text => do
    let s ← text .textValue
    return .text s
  | .blob => do
    let raw ← block .blobValue
    return .blob raw

/-- The metric of a body. -/
def metric : Scan Incoming := do
  let (token, type) ← header
  let key ← key token
  let time ← long .time
  let value ← value type
  return { key := key, type := type, time := time, value := value }

/-! ## Frames -/

/-- The metrics and the number of malformed bodies of `count` ones, from what is known of those in front and the places
of those that are to come. A length that leads past the end is the last thing that is read: what is missing from its
place on is malformed. -/
def bodies (count : Nat) (metrics : List Incoming) (malformed : Nat) : List Nat → Scan (List Incoming × Nat)
  | [] => return (metrics, malformed)
  | i :: places => do
    match ← attempt (length .metricBody) with
    | .error _ =>
      let missing ← subtract count i
      return (metrics, malformed + missing)
    | .ok n =>
      let body ← read n
      match ← apart body metric with
      | .ok m => bodies count (metrics ++ [m]) malformed places
      | .error _ => bodies count metrics (malformed + 1) places

/-- The batch of a frame from a remote. -/
def batch (remote : Option Net.Endpoint) : Scan Batch := do
  let frame ← get
  let opcode ← opcode
  match opcode with
  | .resetConfirm =>
    return { opcode := opcode, remote := remote, metrics := [], bytes := frame.left.length, malformed := 0 }
  | .sendMetric | .sendMetricDirect =>
    let count ← number .metricCount 4
    let (metrics, malformed) ← bodies count [] 0 (List.range count)
    return { opcode := opcode, remote := remote, metrics := metrics, bytes := frame.left.length,
             malformed := malformed }
  | other => throw (.fault (.notInbound other))

/-- The reply of a frame. -/
def reply : Scan Reply := do
  let opcode ← opcode
  match opcode with
  | .tokenAssign =>
    let fqn ← text .fqn
    let token ← long .token
    return .tokenAssign fqn token
  | .confirm =>
    let key ← text .key
    return .confirm key
  | .reset => return .reset
  | other => throw (.fault (.notReply other))

/-! ## What buffers cost -/

@[simp] theorem left_vouch (b : Buffer) (n : Nat) : (b.vouch n).left = b.left := rfl

@[simp] theorem vouched_vouch (b : Buffer) (n : Nat) : (b.vouch n).vouched = n := rfl

@[simp] theorem left_skip (b : Buffer) (n : Nat) : (b.skip n).left = b.left.drop n := rfl

@[simp] theorem vouched_skip (b : Buffer) (n : Nat) : (b.skip n).vouched = b.vouched - n := rfl

/-- Four for each round and one for each byte that is left: a round that goes well takes the four bytes of a length. -/
def cost (b : Buffer) : Nat := 4 * b.rounds + b.left.length

theorem rounds_le_cost (b : Buffer) : 4 * b.rounds ≤ b.cost := Nat.le_add_right _ _

@[simp] theorem cost_on (bytes : List UInt8) : (on bytes).cost = bytes.length := Nat.zero_add _

@[simp] theorem cost_vouch (b : Buffer) (n : Nat) : (b.vouch n).cost = b.cost := rfl

theorem cost_tick (b : Buffer) : b.tick.cost = b.cost + 4 := by
  simp only [cost, tick]
  omega

theorem cost_skip_add {b : Buffer} {n : Nat} (h : n ≤ b.left.length) : (b.skip n).cost + n = b.cost := by
  simp only [cost, skip, List.length_drop]
  omega

/-! ## What steps do -/

section Steps

variable {α β : Type} {b d : Buffer}

theorem run_pure (a : α) (b : Buffer) : (pure a : Scan α).run b = (.ok a, b) := rfl

theorem run_bind_of_ok {s : Scan α} {a : α} (h : s.run b = (.ok a, d)) (t : α → Scan β) :
    (s >>= t).run b = (t a).run d := by
  have hs : s b = (.ok a, d) := h
  show (s >>= t) b = t a d
  simp only [bind, ExceptT.bind, ExceptT.mk, StateT.bind, hs]
  rfl

theorem run_bind_of_error {s : Scan α} {e : Stop} (h : s.run b = (.error e, d)) (t : α → Scan β) :
    (s >>= t).run b = (.error e, d) := by
  have hs : s b = (.error e, d) := h
  show (s >>= t) b = (.error e, d)
  simp only [bind, ExceptT.bind, ExceptT.mk, StateT.bind, hs]
  rfl

section Checks

variable (field : Field) {n : Nat}

theorem run_check_of_le (h : n ≤ b.left.length) : (check field n).run b = (.ok (), b.vouch n) := by
  show (if b.left.length < n then _ else _ : Scan _).run b = _
  rw [if_neg (Nat.not_lt.mpr h)]
  rfl

theorem run_check_of_lt (h : b.left.length < n) :
    (check field n).run b = (.error (.fault (.truncated field n b.left.length)), b) := by
  show (if b.left.length < n then _ else _ : Scan _).run b = _
  rw [if_pos h]
  rfl

theorem run_read (hvouched : n ≤ b.vouched) (hleft : n ≤ b.left.length) :
    (read n).run b = (.ok (b.left.take n), b.skip n) := by
  show (if b.vouched < n then _ else if b.left.length < n then _ else _ : Scan _).run b = _
  rw [if_neg (Nat.not_lt.mpr hvouched), if_neg (Nat.not_lt.mpr hleft)]
  rfl

/-- That the byte is there does not help: nothing has looked. -/
example : ((read 1).run (on [7])).1 = .error (.crash .unguarded) := rfl

end Checks

theorem run_subtract {m n : Nat} (h : n ≤ m) : (subtract m n).run b = (.ok (m - n), b) := by
  rw [subtract, if_neg (Nat.not_lt.mpr h)]
  rfl

theorem run_attempt_of_ok {s : Scan α} {a : α} (h : s.run b = (.ok a, d)) :
    (attempt s).run b = (.ok (.ok a), d) := by
  show (match s.run b with | (.ok a, d) => _ | (.error (.fault f), d) => _ | (.error (.crash c), d) => _) = _
  rw [h]

theorem run_attempt_of_fault {s : Scan α} {f : Fault} (h : s.run b = (.error (.fault f), d)) :
    (attempt s).run b = (.ok (.error f), d) := by
  show (match s.run b with | (.ok a, d) => _ | (.error (.fault f), d) => _ | (.error (.crash c), d) => _) = _
  rw [h]

end Steps

/-! ## Scans and readers -/

/-- What a reader gives: a value and the bytes behind it. -/
abbrev Reader (α : Type) := List UInt8 → Except Fault (α × List UInt8)

/-- **A scan does as a reader does**, from whatever buffer it starts: it ends with the same value in front of the same
bytes, or with the same fault, and never with a crash. In the one case the cost falls by `spent` at least. In the other
case the rounds exceed it by `slack` at most. -/
def Follows {α : Type} (spent slack : Nat) (s : Scan α) (r : Reader α) : Prop :=
  ∀ b : Buffer,
    (∃ a d, s.run b = (.ok a, d) ∧ r b.left = .ok (a, d.left) ∧ d.cost + spent ≤ b.cost) ∨
    (∃ f d, s.run b = (.error (.fault f), d) ∧ r b.left = .error f ∧ 4 * d.rounds ≤ b.cost + slack)

section Follows

variable {α β : Type} {spent slack : Nat} {s : Scan α} {r : Reader α}

theorem follows_pure (a : α) : Follows 0 slack (pure a) (fun bytes => .ok (a, bytes)) :=
  fun b => Or.inl ⟨a, b, rfl, rfl, Nat.le_refl _⟩

theorem follows_throw (f : Fault) : Follows spent slack (throw (.fault f) : Scan α) (fun _ => .error f) :=
  fun b => Or.inr ⟨f, b, rfl, rfl, Nat.le_add_right_of_le b.rounds_le_cost⟩

theorem Follows.relax (h : Follows spent 0 s r) : Follows 0 slack s r := by
  intro b
  rcases h b with ⟨a, d, hrun, hread, hcost⟩ | ⟨f, d, hrun, hread, hrounds⟩
  · exact Or.inl ⟨a, d, hrun, hread, Nat.le_of_add_right_le hcost⟩
  · exact Or.inr ⟨f, d, hrun, hread, Nat.le_add_right_of_le hrounds⟩

/-- **One scan after another**: the second one starts where the first one ends. -/
theorem Follows.bind (hs : Follows spent slack s r) {t : α → Scan β}
    {q : α × List UInt8 → Except Fault (β × List UInt8)}
    (ht : ∀ a, Follows 0 slack (t a) (fun rest => q (a, rest))) :
    Follows spent slack (s >>= t) (fun bytes => r bytes >>= q) := by
  intro b
  rcases hs b with ⟨a, d, hrun, hread, hcost⟩ | ⟨f, d, hrun, hread, hrounds⟩
  · simp only [run_bind_of_ok hrun, hread]
    rcases ht a d with ⟨a', e, hrun', hread', hcost'⟩ | ⟨f, e, hrun', hread', hrounds'⟩
    · exact Or.inl ⟨a', e, hrun', hread', by omega⟩
    · exact Or.inr ⟨f, e, hrun', hread', by omega⟩
  · simp only [run_bind_of_error hrun, hread]
    exact Or.inr ⟨f, d, rfl, rfl, hrounds⟩

end Follows

/-! ## Fields and readers -/

section Fields

variable (field : Field)

theorem take_of_le {n : Nat} {bytes : List UInt8} (h : n ≤ bytes.length) :
    take field n bytes = .ok (bytes.take n, bytes.drop n) := by
  rw [take, if_pos (List.length_take_of_le h)]

theorem take_of_lt {n : Nat} {bytes : List UInt8} (h : bytes.length < n) :
    take field n bytes = .error (.truncated field n bytes.length) := by
  have htaken : (bytes.take n).length ≠ n := by
    rw [List.length_take]
    omega
  rw [take, if_neg htaken]

/-- **A check and a read of what it found** do what a reader does in one step. -/
theorem follows_take (n : Nat) : Follows n 0 (do check field n; read n) (take field n) := by
  intro b
  rcases Nat.lt_or_ge b.left.length n with hleft | hleft
  · exact Or.inr ⟨_, b, run_bind_of_error (run_check_of_lt field hleft) _, take_of_lt field hleft, b.rounds_le_cost⟩
  · have hcheck := run_bind_of_ok (run_check_of_le field hleft) (fun _ => read n)
    have hread := run_read (b := b.vouch n) (Nat.le_refl n) hleft
    have hskip := cost_skip_add (b := b.vouch n) hleft
    exact Or.inl ⟨_, _, hcheck.trans hread, take_of_le field hleft, Nat.le_of_eq hskip⟩

theorem follows_number (width : Nat) : Follows width 0 (number field width) (readNumber field width) := by
  have hnumber : number field width = (do check field width; read width) >>= fun raw => pure (Wire.number raw) :=
    (bind_assoc _ _ _).symm
  rw [hnumber]
  exact (follows_take field width).bind fun raw => follows_pure (Wire.number raw)

theorem follows_long : Follows 8 0 (long field) (readLong field) :=
  (follows_number field 8).bind fun n => follows_pure (UInt64.ofNat n).toInt64

theorem run_length (b : Buffer) :
    (∃ n d, (length field).run b = (.ok n, d) ∧ n ≤ d.vouched ∧ n ≤ d.left.length ∧
      readBlock field b.left = .ok (d.left.take n, d.left.drop n) ∧ d.cost + 4 ≤ b.cost) ∨
    (∃ f d, (length field).run b = (.error (.fault f), d) ∧ readBlock field b.left = .error f ∧
      4 * d.rounds ≤ b.cost) := by
  unfold length readBlock
  rcases follows_number field 4 b with ⟨n, d, hrun, hread, hcost⟩ | ⟨f, d, hrun, hread, hrounds⟩
  · simp only [run_bind_of_ok hrun, hread]
    rcases Nat.lt_or_ge d.left.length n with hleft | hleft
    · have hrounds : 4 * d.rounds ≤ b.cost := Nat.le_trans d.rounds_le_cost (Nat.le_of_add_right_le hcost)
      exact Or.inr ⟨_, d, run_bind_of_error (run_check_of_lt field hleft) _, take_of_lt field hleft, hrounds⟩
    · exact Or.inl ⟨n, _, run_bind_of_ok (run_check_of_le field hleft) _, Nat.le_refl n, hleft,
        take_of_le field hleft, hcost⟩
  · simp only [run_bind_of_error hrun, hread]
    exact Or.inr ⟨f, d, rfl, rfl, hrounds⟩

theorem follows_block : Follows 4 0 (block field) (readBlock field) := by
  intro b
  rcases run_length field b with ⟨n, d, hrun, hvouched, hleft, hread, hcost⟩ | ⟨f, d, hrun, hread, hrounds⟩
  · have hskip := cost_skip_add hleft
    exact Or.inl ⟨_, _, (run_bind_of_ok hrun _).trans (run_read hvouched hleft), hread, by omega⟩
  · exact Or.inr ⟨f, d, run_bind_of_error hrun _, hread, hrounds⟩

theorem follows_text : Follows 4 0 (text field) (readText field) := by
  refine (follows_block field).bind fun raw => ?_
  dsimp only
  cases Text.ofUtf8 raw with
  | error fault => exact follows_throw (.notUtf8 field fault)
  | ok s => exact follows_pure s

theorem follows_opcode : Follows 1 0 opcode readOpcode := by
  refine (follows_number .opcode 1).bind fun n => ?_
  dsimp only
  cases Opcode.ofByte? (UInt8.ofNat n) with
  | none => exact follows_throw (.unknownOpcode (UInt8.ofNat n))
  | some o => exact follows_pure o

end Fields

end Buffer

end MetricRouter.Wire
