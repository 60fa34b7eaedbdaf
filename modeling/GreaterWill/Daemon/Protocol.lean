import GreaterWill.Lib.Frames

/-!
# Length-prefixed framing

A message goes over the socket as a 4-byte big-endian length and that many bytes of JSON. The bytes
written so far and not yet read are a list; a connection that closes ends the list, and `read_exact`
then fails with `UnexpectedEof`. `serde_json` is a parameter, for one message type at a time.
-/

namespace GreaterWill

/-- Maximum message size: 16 MiB. -/
def MAX_MESSAGE_SIZE : UInt32 := 16 * 1024 * 1024

/-- `serde_json::to_vec` and `serde_json::from_slice` at the message type `T`. -/
structure SerdeJson (T E : Type) where
  toVec : T → Except E (List UInt8)
  fromSlice : List UInt8 → Except E T

/-- What `write_message` fails with before it writes anything. -/
inductive WriteError (E : Type) where
  | json (e : E)
  | tooLarge (len : Nat)

/-- What `read_message` fails with. -/
inductive ReadError (E : Type) where
  | unexpectedEof
  | tooLarge (len : UInt32)
  | json (e : E)

/-- The text of the report on an oversized message, the same on both sides. -/
def tooLargeText (len : Nat) : String :=
  s!"message size {len} exceeds maximum {MAX_MESSAGE_SIZE}"

section
variable {T E : Type} (serde : SerdeJson T E)

/-- `u32::to_be_bytes`. -/
def toBeBytes (n : UInt32) : List UInt8 := beBytes 4 n.toNat

/-- `u32::from_be_bytes`. -/
def fromBeBytes (bs : List UInt8) : UInt32 := UInt32.ofNat (ofBeBytes bs)

/-- The bytes `write_message` puts on the wire. -/
def writeMessage (msg : T) : Except (WriteError E) (List UInt8) :=
  match serde.toVec msg with
  | .error e => .error (.json e)
  | .ok payload =>
    if MAX_MESSAGE_SIZE.toNat < payload.length then
      .error (.tooLarge payload.length)
    else
      -- the cast `as u32`
      let len := UInt32.ofNat payload.length
      .ok (toBeBytes len ++ payload)

/-- `read_exact`: the next `n` bytes and the rest of the stream. -/
def readExact (n : Nat) (stream : List UInt8) :
    Except (ReadError E) (List UInt8 × List UInt8) :=
  if n ≤ stream.length then .ok (stream.take n, stream.drop n) else .error .unexpectedEof

/-- Read one message from the front of the stream; also what is left of the stream. -/
def readMessage (stream : List UInt8) : Except (ReadError E) (T × List UInt8) :=
  match readExact 4 stream with
  | .error e => .error e
  | .ok (lenBuf, stream) =>
    let len := fromBeBytes lenBuf
    if MAX_MESSAGE_SIZE < len then
      .error (.tooLarge len)
    else
      match readExact len.toNat stream with
      | .error e => .error e
      | .ok (payload, stream) =>
        match serde.fromSlice payload with
        | .error e => .error (.json e)
        | .ok msg => .ok (msg, stream)

/-- Write the messages one after the other, up to the first that is refused. -/
def writeMessages : List T → Except (WriteError E) (List UInt8)
  | [] => .ok []
  | msg :: msgs =>
    match writeMessage serde msg with
    | .error e => .error e
    | .ok frame =>
      match writeMessages msgs with
      | .error e => .error e
      | .ok frames => .ok (frame ++ frames)

end

/-! ## Exact reads -/

section
variable {E : Type} {n k : Nat} {bs stream : List UInt8}

theorem readExact_append (h : bs.length = n) :
    (readExact n (bs ++ stream) : Except (ReadError E) _) = .ok (bs, stream) := by
  subst h
  simp [readExact]

theorem readExact_of_lt (h : stream.length < n) :
    (readExact n stream : Except (ReadError E) _) = .error .unexpectedEof := by
  rw [readExact, if_neg (Nat.not_le.mpr h)]

theorem length_of_readExact {taken rest : List UInt8}
    (h : (readExact n stream : Except (ReadError E) _) = .ok (taken, rest)) :
    rest.length + n = stream.length := by
  rw [readExact] at h
  split at h
  · next hle =>
    cases h
    rw [List.length_drop, Nat.sub_add_cancel hle]
  · cases h

@[simp] theorem length_toBeBytes (len : UInt32) : (toBeBytes len).length = 4 :=
  length_beBytes 4 _

@[simp] theorem fromBeBytes_toBeBytes (len : UInt32) : fromBeBytes (toBeBytes len) = len := by
  have hlt : len.toNat < 256 ^ 4 := len.toNat_lt
  rw [fromBeBytes, toBeBytes, ofBeBytes_beBytes hlt, UInt32.ofNat_toNat]

/-- Below the limit the cast to `u32` loses nothing. -/
theorem toNat_ofNat_of_le (h : n ≤ MAX_MESSAGE_SIZE.toNat) : (UInt32.ofNat n).toNat = n := by
  have hmax : MAX_MESSAGE_SIZE.toNat = 16777216 := by decide
  rw [UInt32.toNat_ofNat']
  omega

end

/-! ## Reading what was written -/

section
variable {T E : Type} {serde : SerdeJson T E} {msg : T} {payload frame rest : List UInt8}

/-- `read_message` takes at least the four bytes of the length. -/
theorem length_of_readMessage (h : readMessage serde frame = .ok (msg, rest)) :
    rest.length < frame.length := by
  rw [readMessage] at h
  split at h
  · cases h
  · next lenBuf stream hlen =>
    have h4 := length_of_readExact hlen
    dsimp only at h
    split at h
    · cases h
    · split at h
      · cases h
      · next payload stream' hpayload =>
        have hrest := length_of_readExact hpayload
        split at h
        · cases h
        · cases h
          omega

/-- `read_message` as a reader of the stream. -/
def messageReader (serde : SerdeJson T E) : Reader UInt8 T (ReadError E) where
  read := readMessage serde
  progress := length_of_readMessage

theorem readMessage_nil : (messageReader serde).read [] = .error .unexpectedEof := rfl

/-- What `write_message` writes: the length, which fits, and the JSON. -/
theorem writeMessage_eq_ok : writeMessage serde msg = .ok frame ↔
    ∃ payload, serde.toVec msg = .ok payload ∧ payload.length ≤ MAX_MESSAGE_SIZE.toNat ∧
      frame = toBeBytes (UInt32.ofNat payload.length) ++ payload := by
  rw [writeMessage]
  cases serde.toVec msg with
  | error e => simp
  | ok payload =>
    rcases Nat.lt_or_ge MAX_MESSAGE_SIZE.toNat payload.length with h | h
    · simp [h, Nat.not_le.mpr h]
    · simp [h, Nat.not_lt.mpr h, eq_comm]

/-- After the length of a frame, `read_message` reads exactly its JSON. -/
theorem readMessage_frame (serde : SerdeJson T E) (h : payload.length ≤ MAX_MESSAGE_SIZE.toNat)
    (stream : List UInt8) :
    readMessage serde (toBeBytes (UInt32.ofNat payload.length) ++ stream) =
      match readExact payload.length stream with
      | .error e => .error e
      | .ok (payload, stream) =>
        match serde.fromSlice payload with
        | .error e => .error (.json e)
        | .ok msg => .ok (msg, stream) := by
  have hlen : (UInt32.ofNat payload.length).toNat = payload.length := toNat_ofNat_of_le h
  have hmax : ¬ MAX_MESSAGE_SIZE < UInt32.ofNat payload.length := by
    rw [UInt32.lt_iff_toNat_lt, hlen]
    exact Nat.not_lt.mpr h
  rw [readMessage, readExact_append (length_toBeBytes _)]
  simp only [fromBeBytes_toBeBytes, hmax, if_false, hlen]

/-- A written message is a frame of itself. -/
theorem isFrame_of_writeMessage (hwrite : writeMessage serde msg = .ok frame)
    (hserde : ∀ payload, serde.toVec msg = .ok payload → serde.fromSlice payload = .ok msg) :
    (messageReader serde).IsFrame .unexpectedEof msg frame := by
  obtain ⟨payload, hvec, hmax, rfl⟩ := writeMessage_eq_ok.mp hwrite
  constructor
  · intro rest
    have hread := readMessage_frame serde hmax (payload ++ rest)
    rw [readExact_append rfl] at hread
    simpa only [messageReader, List.append_assoc, hserde payload hvec] using hread
  · intro k hk
    rw [List.length_append, length_toBeBytes] at hk
    rcases Nat.lt_or_ge k 4 with h4 | h4
    · -- the cut is inside the length
      have hshort : ((toBeBytes (UInt32.ofNat payload.length) ++ payload).take k).length < 4 := by
        rw [List.length_take]
        omega
      simp only [messageReader, readMessage, readExact_of_lt hshort]
    · have htake : (toBeBytes (UInt32.ofNat payload.length) ++ payload).take k =
          toBeBytes (UInt32.ofNat payload.length) ++ payload.take (k - 4) := by
        rw [List.take_append, length_toBeBytes, List.take_of_length_le (by simpa using h4)]
      have hshort : (payload.take (k - 4)).length < payload.length := by
        rw [List.length_take]
        omega
      have hread := readMessage_frame serde hmax (payload.take (k - 4))
      rw [readExact_of_lt hshort] at hread
      simpa only [messageReader, htake] using hread

theorem writeMessages_cons {msgs : List T} {frames : List UInt8}
    (hmsg : writeMessage serde msg = .ok frame) (hmsgs : writeMessages serde msgs = .ok frames) :
    writeMessages serde (msg :: msgs) = .ok (frame ++ frames) := by
  rw [writeMessages, hmsg]
  dsimp only
  rw [hmsgs]

variable (serde) in
/-- The message fits the limit and survives `serde_json`. -/
def Sendable (msg : T) : Prop :=
  ∃ payload, serde.toVec msg = .ok payload ∧ payload.length ≤ MAX_MESSAGE_SIZE.toNat ∧
    serde.fromSlice payload = .ok msg

theorem Sendable.isFrame (h : Sendable serde msg) : ∃ frame,
    writeMessage serde msg = .ok frame ∧
      (messageReader serde).IsFrame .unexpectedEof msg frame := by
  obtain ⟨payload, hvec, hmax, hslice⟩ := h
  have hwrite := writeMessage_eq_ok.mpr ⟨payload, hvec, hmax, rfl⟩
  refine ⟨_, hwrite, isFrame_of_writeMessage hwrite fun payload' hvec' => ?_⟩
  rw [hvec] at hvec'
  cases hvec'
  exact hslice

/-- What `writeMessages` writes is one frame a message. -/
theorem writeMessages_frames {msgs : List T} (h : ∀ msg ∈ msgs, Sendable serde msg) :
    ∃ frames, writeMessages serde msgs = .ok frames.flatten ∧
      List.Forall₂ ((messageReader serde).IsFrame .unexpectedEof) msgs frames := by
  induction msgs with
  | nil => exact ⟨[], rfl, .nil⟩
  | cons msg msgs ih =>
    obtain ⟨hmsg, hmsgs⟩ := List.forall_mem_cons.mp h
    obtain ⟨frame, hwrite, hframe⟩ := hmsg.isFrame
    obtain ⟨frames, hwrites, hframes⟩ := ih hmsgs
    exact ⟨frame :: frames, writeMessages_cons hwrite hwrites, .cons hframe hframes⟩

/-- `read_message` does not find a frame too large that `write_message` wrote. -/
theorem readMessage_ne_tooLarge (h : writeMessage serde msg = .ok frame) (len : UInt32) :
    readMessage serde (frame ++ rest) ≠ .error (.tooLarge len) := by
  obtain ⟨payload, -, hmax, rfl⟩ := writeMessage_eq_ok.mp h
  rw [List.append_assoc, readMessage_frame serde hmax, readExact_append rfl]
  dsimp only
  cases serde.fromSlice payload <;> simp

/-- The framing round trip: what was written is read back message by message, a stream that was
cut off gives a beginning of the messages and then an error, and no written frame is too large. -/
theorem read_written_messages (serde : SerdeJson T E) (msgs : List T)
    (hserde : ∀ msg ∈ msgs, Sendable serde msg) :
    (∃ bytes, writeMessages serde msgs = .ok bytes ∧
      (messageReader serde).readAll bytes = (msgs, [], .unexpectedEof) ∧
      ∀ k, ∃ j left, (messageReader serde).readAll (bytes.take k) =
        (msgs.take j, left, .unexpectedEof)) ∧
    ∀ msg frame rest len, writeMessage serde msg = .ok frame →
      readMessage serde (frame ++ rest) ≠ .error (.tooLarge len) := by
  obtain ⟨frames, hwrite, hframes⟩ := writeMessages_frames hserde
  refine ⟨⟨frames.flatten, hwrite, ?_, ?_⟩, ?_⟩
  · exact Reader.readAll_flatten readMessage_nil hframes
  · exact Reader.readAll_take readMessage_nil hframes
  · intro msg frame rest len h
    exact readMessage_ne_tooLarge h len

end

/-! ## A codec -/

/-- The requests without data. -/
inductive UnitRequest where
  | daemonStatus | shutdown | listSchedules | listQueue
deriving DecidableEq

/-- The bytes of `{"type":"…"}`, the JSON of a unit variant tagged by `type`. -/
def UnitRequest.json : UnitRequest → List UInt8
  | .daemonStatus => "\x7b\"type\":\"DaemonStatus\"\x7d".toUTF8.data.toList
  | .shutdown => "\x7b\"type\":\"Shutdown\"\x7d".toUTF8.data.toList
  | .listSchedules => "\x7b\"type\":\"ListSchedules\"\x7d".toUTF8.data.toList
  | .listQueue => "\x7b\"type\":\"ListQueue\"\x7d".toUTF8.data.toList

/-- `serde_json` at these requests. -/
def UnitRequest.serde : SerdeJson UnitRequest Unit where
  toVec msg := .ok msg.json
  fromSlice bs :=
    match [daemonStatus, shutdown, listSchedules, listQueue].find? (·.json == bs) with
    | some msg => .ok msg
    | none => .error ()

theorem read_written_requests :
    (∀ msg ∈ [UnitRequest.listQueue, .shutdown], Sendable UnitRequest.serde msg) ∧
    ∃ bytes, writeMessages UnitRequest.serde [.listQueue, .shutdown] = .ok bytes ∧
      (messageReader UnitRequest.serde).readAll bytes =
        ([.listQueue, .shutdown], [], .unexpectedEof) := by
  have hserde : ∀ msg ∈ [UnitRequest.listQueue, .shutdown], Sendable UnitRequest.serde msg := by
    intro msg _
    refine ⟨msg.json, rfl, ?_, ?_⟩ <;> cases msg <;> decide
  obtain ⟨⟨bytes, hwrite, hread, -⟩, -⟩ := read_written_messages UnitRequest.serde _ hserde
  exact ⟨hserde, bytes, hwrite, hread⟩

end GreaterWill
