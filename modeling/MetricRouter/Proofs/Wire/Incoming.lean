import MetricRouter.Proofs.Wire.Reading
import MetricRouter.Wire.Incoming

/-!
# Bodies and their metrics

Reading a body and writing it are inverse to each other, although they look at different things: reading goes
by the token and the type, writing by the key and the kind of the value.

* `decodeName_eq_ok_iff`, `decodeKey_eq_ok_iff`, `decodeValue_eq_ok_iff`, `decodeHeader_eq_ok_iff` — one law
  for each part of a body;
* `decode_eq_ok_iff`, `decode_encode_append` — the law of a whole body, and how it is used;
* `decode_eq_ok_iff_encode_append` — the main statement.
-/

namespace MetricRouter

theorem MetricType.ofOrdinal?_eq_some_iff {n : UInt8} {t : MetricType} :
    ofOrdinal? n = some t ↔ n = t.ordinal := by
  unfold ofOrdinal?
  constructor
  · intro h
    obtain ⟨hn, ht⟩ := List.getElem?_eq_some_iff.mp h
    have hn' : n.toNat < 5 := hn
    apply UInt8.toNat_inj.mp
    interval_cases hk : n.toNat <;> rw [← ht] <;> rfl
  · rintro rfl
    cases t <;> rfl

namespace Wire.Incoming

/-! ## Names -/

/-- Do the names fit? -/
def Fits (n : FullName) : Prop :=
  (Text.utf8 n.host).length < UInt32.size ∧ (Text.utf8 n.agent).length < UInt32.size ∧
    n.segments.length < UInt32.size ∧ (∀ s ∈ n.segments, (Text.utf8 s).length < UInt32.size) ∧
    (Text.utf8 n.name).length < UInt32.size

section Parts

variable {bytes rest : List UInt8}

theorem readSegments_eq_ok_iff {count : Nat} {segments : List String} :
    readSegments count bytes = .ok (segments, rest) ↔
      segments.length = count ∧ (∀ s ∈ segments, (Text.utf8 s).length < UInt32.size) ∧
        bytes = segments.flatMap writeText ++ rest := by
  induction count generalizing bytes segments rest with
  | zero =>
    simp only [readSegments, Except.ok.injEq, Prod.mk.injEq]
    constructor
    · rintro ⟨rfl, rfl⟩
      simp
    · rintro ⟨hlength, -, hbytes⟩
      obtain rfl := List.eq_nil_of_length_eq_zero hlength
      exact ⟨rfl, hbytes⟩
  | succ count ih =>
    simp only [readSegments, bind_eq_ok, Prod.exists, readText_eq_ok_iff, pure_eq_ok, Prod.mk.injEq, ih]
    constructor
    · rintro ⟨s, rest₁, ⟨hs, rfl⟩, more, rest₂, ⟨hlength, hmore, rfl⟩, rfl, rfl⟩
      refine ⟨congrArg Nat.succ hlength, List.forall_mem_cons.mpr ⟨hs, hmore⟩, ?_⟩
      rw [List.flatMap_cons, List.append_assoc]
    · rintro ⟨hlength, hfit, hbytes⟩
      cases segments with
      | nil => exact absurd hlength (by simp)
      | cons s more =>
        obtain ⟨hs, hmore⟩ := List.forall_mem_cons.mp hfit
        rw [List.flatMap_cons, List.append_assoc] at hbytes
        exact ⟨s, _, ⟨hs, hbytes⟩, more, rest, ⟨Nat.succ.inj hlength, hmore, rfl⟩, rfl, rfl⟩

theorem decodeName_eq_ok_iff {n : FullName} :
    decodeName bytes = .ok (n, rest) ↔ Fits n ∧ bytes = encodeName n ++ rest := by
  obtain ⟨host, agent, segments, name⟩ := n
  simp only [decodeName, bind_eq_ok, Prod.exists, readText_eq_ok_iff, readNumber_eq_ok_iff,
    readSegments_eq_ok_iff, pure_eq_ok, Prod.mk.injEq, FullName.mk.injEq, encodeName, Fits,
    List.append_assoc]
  constructor
  · rintro ⟨_, _, ⟨hhost, rfl⟩, _, _, ⟨hagent, rfl⟩, _, _, ⟨hcount, rfl⟩, _, _, ⟨rfl, hsegments, rfl⟩,
      _, _, ⟨hname, rfl⟩, ⟨rfl, rfl, rfl, rfl⟩, rfl⟩
    exact ⟨⟨hhost, hagent, hcount, hsegments, hname⟩, rfl⟩
  · rintro ⟨⟨hhost, hagent, hcount, hsegments, hname⟩, rfl⟩
    exact ⟨_, _, ⟨hhost, rfl⟩, _, _, ⟨hagent, rfl⟩, _, _, ⟨hcount, rfl⟩, _, _, ⟨rfl, hsegments, rfl⟩,
      _, _, ⟨hname, rfl⟩, ⟨rfl, rfl, rfl, rfl⟩, rfl⟩

/-! ## Keys, values and headers -/

/-- The bytes of a key behind its token: names are written out. -/
def encodeKey : Key → List UInt8
  | .token _ => []
  | .named n => encodeName n

/-- The token that stands for a key on the wire. -/
def keyToken : Key → Int64
  | .token t => t
  | .named _ => noToken

/-- Can the key be read back? -/
def KeyFits : Key → Prop
  | .token t => t ≠ noToken
  | .named n => Fits n

/-- Can the value be read back? -/
def ValueFits : Value → Prop
  | .long _ => True
  | .text s => (Text.utf8 s).length < UInt32.size
  | .blob raw => raw.length < UInt32.size

theorem decodeKey_eq_ok_iff {token : Int64} {key : Key} :
    decodeKey token bytes = .ok (key, rest) ↔
      token = keyToken key ∧ KeyFits key ∧ bytes = encodeKey key ++ rest := by
  unfold decodeKey
  by_cases ht : token = noToken
  · subst ht
    simp only [if_true, bind_eq_ok, Prod.exists, decodeName_eq_ok_iff, pure_eq_ok, Prod.mk.injEq]
    cases key with
    | token t =>
      constructor
      · rintro ⟨_, _, -, hkey, -⟩
        exact absurd hkey (by simp)
      · rintro ⟨rfl, hne, -⟩
        exact absurd rfl hne
    | named n => simp [keyToken, KeyFits, encodeKey]
  · simp only [if_neg ht, Except.ok.injEq, Prod.mk.injEq]
    cases key with
    | token t =>
      simp only [Key.token.injEq, keyToken, KeyFits, encodeKey, List.nil_append]
      constructor
      · rintro ⟨rfl, rfl⟩
        exact ⟨rfl, ht, rfl⟩
      · rintro ⟨rfl, -, rfl⟩
        exact ⟨rfl, rfl⟩
    | named n => simp [keyToken, ht]

theorem decodeValue_eq_ok_iff {type : MetricType} {value : Value} :
    decodeValue type bytes = .ok (value, rest) ↔
      type.accepts value = true ∧ ValueFits value ∧ bytes = encodeValue value ++ rest := by
  unfold decodeValue
  cases type <;>
    simp only [bind_eq_ok, Prod.exists, readLong_eq_ok_iff, readText_eq_ok_iff, readBlock_eq_ok_iff,
      pure_eq_ok, Prod.mk.injEq] <;>
    cases value <;> simp [MetricType.accepts, MetricType.isLong, ValueFits, encodeValue]

theorem decodeHeader_eq_ok_iff {token : Int64} {type : MetricType} :
    decodeHeader bytes = .ok (token, type, rest) ↔
      bytes = writeLong token ++ type.ordinal :: rest := by
  unfold decodeHeader
  simp only [bind_eq_ok, Prod.exists, take_eq_ok_iff]
  constructor
  · rintro ⟨raw, rest', ⟨hlength, rfl⟩, h⟩
    split at h
    · exact absurd h (by simp)
    rename_i type' htype
    simp only [Except.ok.injEq, Prod.mk.injEq] at h
    obtain ⟨rfl, rfl, rfl⟩ := h
    have hfront : (raw.take 8).length = 8 := by
      rw [List.length_take]
      omega
    have hlast : (raw.drop 8).length = 1 := by
      rw [List.length_drop]
      omega
    obtain ⟨b, hb⟩ := List.length_eq_one_iff.mp hlast
    have hn := number_lt (raw.take 8)
    rw [hfront] at hn
    rw [hb, number_singleton, UInt8.ofNat_toNat, MetricType.ofOrdinal?_eq_some_iff] at htype
    have hwritten := bigEndian_number (raw.take 8)
    rw [hfront] at hwritten
    rw [writeLong_ofNat hn, hwritten, ← htype]
    calc raw ++ rest' = (raw.take 8 ++ raw.drop 8) ++ rest' := by rw [List.take_append_drop]
      _ = raw.take 8 ++ b :: rest' := by rw [hb, List.append_assoc, List.singleton_append]
  · rintro rfl
    have hfront := length_writeLong token
    refine ⟨writeLong token ++ [type.ordinal], rest, ⟨?_, ?_⟩, ?_⟩
    · rw [List.length_append, hfront, List.length_singleton]
    · rw [List.append_assoc, List.singleton_append]
    · rw [List.take_left' hfront, List.drop_left' hfront, number_singleton, UInt8.ofNat_toNat,
        MetricType.ofOrdinal?_eq_some_iff.mpr rfl, toInt64_number_writeLong]

end Parts

/-! ## Bodies -/

section Bodies

variable {m : Incoming} {bytes : List UInt8}

theorem wellFormed_iff :
    m.WellFormed ↔ KeyFits m.key ∧ ValueFits m.value ∧ m.type.accepts m.value = true := by
  obtain ⟨key, type, time, value⟩ := m
  constructor
  · rintro ⟨hkey, hvalue, haccepted⟩
    refine ⟨?_, ?_, haccepted⟩
    · cases key <;> exact hkey
    · cases value <;> exact hvalue
  · rintro ⟨hkey, hvalue, haccepted⟩
    refine ⟨?_, ?_, haccepted⟩
    · cases key <;> exact hkey
    · cases value <;> exact hvalue

theorem encode_eq (m : Incoming) : m.encode = writeLong (keyToken m.key) ++
    m.type.ordinal :: (encodeKey m.key ++ (writeLong m.time ++ encodeValue m.value)) := by
  obtain ⟨key, type, time, value⟩ := m
  cases key <;> simp [encode, token, keyToken, encodeKey]

theorem decode_eq_ok_iff : decode bytes = .ok m ↔ m.WellFormed ∧ ∃ rest, bytes = m.encode ++ rest := by
  obtain ⟨key, type, time, value⟩ := m
  simp only [decode, bind_eq_ok, Prod.exists, decodeHeader_eq_ok_iff, decodeKey_eq_ok_iff,
    readLong_eq_ok_iff, decodeValue_eq_ok_iff, pure_eq_ok, Incoming.mk.injEq, wellFormed_iff, encode_eq]
  constructor
  · rintro ⟨_, _, _, rfl, _, _, ⟨rfl, hkey, rfl⟩, _, _, rfl, _, rest, ⟨haccepted, hvalue, rfl⟩,
      rfl, rfl, rfl, rfl⟩
    refine ⟨⟨hkey, hvalue, haccepted⟩, rest, ?_⟩
    simp only [List.append_assoc, List.cons_append]
  · rintro ⟨⟨hkey, hvalue, haccepted⟩, rest, rfl⟩
    refine ⟨_, _, _, ?_, _, _, ⟨rfl, hkey, rfl⟩, _, _, rfl, _, rest, ⟨haccepted, hvalue, rfl⟩,
      rfl, rfl, rfl, rfl⟩
    simp only [List.append_assoc, List.cons_append]

theorem decode_encode_append (h : m.WellFormed) (rest : List UInt8) : decode (m.encode ++ rest) = .ok m :=
  decode_eq_ok_iff.mpr ⟨h, rest, rfl⟩

/-- **Reading and writing are inverse to each other.** Some bytes are read as a metric exactly if the metric is
well formed and its body stands in front of them. So a well-formed metric is read back from its own body, and a
metric that was read is written in the bytes that it was read from. -/
theorem decode_eq_ok_iff_encode_append (bytes : List UInt8) (m : Incoming) :
    (decode bytes = .ok m ↔ m.WellFormed ∧ ∃ rest, bytes = m.encode ++ rest) ∧
    (m.WellFormed → decode m.encode = .ok m) ∧
    (decode bytes = .ok m → bytes.take m.encode.length = m.encode) := by
  refine ⟨decode_eq_ok_iff, fun h => ?_, fun h => ?_⟩
  · have hread := decode_encode_append h []
    rwa [List.append_nil] at hread
  · obtain ⟨-, rest, rfl⟩ := decode_eq_ok_iff.mp h
    exact List.take_left

end Bodies

end Wire.Incoming

end MetricRouter
