/-
The frames between the server and the load generator (`loadtest/main.go`): `wsClient` masks what it
writes and takes frames of up to 8 MiB, the server reads them with `ReadMessage`. Over any list of
payloads and masks each side returns what the other one wrote, one frame a call, and leaves the rest of
the stream alone (`framing_roundtrip`).
-/
import NodejsHelper.WebSocket.Message
import Mathlib.Data.List.Forall2

namespace NodejsHelper.WebSocket

open Bytes

/-! ## The load generator -/

namespace Client

/-- `var mask [4]byte`, as `rand.Read` fills it. -/
abbrev Mask := { bytes : List UInt8 // bytes.length = 4 }

/-- The bytes of `writeFrameLocked`; absent when it would index outside the mask. -/
def writeFrameLocked (opcode : UInt8) (payload : List UInt8) (mask : Mask) : Option (List UInt8) :=
  (xorMask mask.1 0 payload).map fun masked =>
    (0x80 ||| opcode) :: (0x80 ||| (lengthBytes payload.length).1) ::
      ((lengthBytes payload.length).2 ++ (mask.1 ++ masked))

/-- Why `readMessage` fails: the stream ends inside a frame, `frame too large`, `closed by server`,
`unexpected fragmented frame`, or the pong cannot be written. -/
inductive ClientError
  | eof
  | tooLarge
  | closedByServer
  | fragmented
  | write
  deriving DecidableEq, Repr

/-- The largest frame `readMessage` takes. Nothing keeps a negative length from `make`. -/
def maxFrame : ℤ := 8 * 1024 * 1024

/-- The loop of `readMessage` up to its switch. -/
def readFrame : List UInt8 → FrameResult ClientError
  | h0 :: h1 :: s =>
    match readLength (h1 &&& 0x7f) s with
    | none => .failed .eof
    | some (length, s) =>
      if maxFrame < length then .failed .tooLarge
      else
        match (readBody (h1 &&& 0x80 != 0) length s).2 with
        | .read payload rest => .frame ⟨h0 &&& 0x80 != 0, h0 &&& 0x0f, payload⟩ rest
        | .eof => .failed .eof
        | .panicked => .panicked
  | _ => .failed .eof

theorem readBody_le {masked : Bool} {length : ℤ} {s payload rest : List UInt8}
    (h : (readBody masked length s).2 = .read payload rest) : rest.length ≤ s.length := by
  unfold readBody at h
  split at h
  · cases h
  · rename_i mask s' hmask
    obtain ⟨rfl, -⟩ := readFull_some hmask
    split at h
    · cases h
    · split at h
      · cases h
      · rename_i body s'' hbody
        obtain ⟨rfl, -⟩ := readFull_some hbody
        have hrest : rest = s'' := by
          repeat' split at h
          all_goals cases h
          all_goals rfl
        subst hrest
        simp only [List.length_append]
        omega

theorem readLength_le {short : UInt8} {s s' : List UInt8} {length : ℤ} (h : readLength short s = some (length, s')) :
    s'.length ≤ s.length := by
  have hfull : ∀ {n : ℕ} {r : List UInt8 × List UInt8}, readFull n s = some r → r.2.length ≤ s.length := by
    intro n r hr
    rw [(readFull_some hr).1, List.length_append]
    omega
  unfold readLength at h
  repeat' split at h
  · obtain ⟨r, hr, he⟩ := Option.map_eq_some_iff.1 h
    cases he
    exact hfull hr
  · obtain ⟨r, hr, he⟩ := Option.map_eq_some_iff.1 h
    cases he
    exact hfull hr
  · cases h
    exact le_refl _

theorem readFrame_lt {s rest : List UInt8} {f : Frame} (h : readFrame s = .frame f rest) : rest.length < s.length := by
  unfold readFrame at h
  split at h
  · split at h
    · cases h
    · rename_i hlength
      split at h
      · cases h
      · split at h
        · rename_i hbody
          cases h
          have h1 := readLength_le hlength
          have h2 := readBody_le hbody
          simp only [List.length_cons]
          omega
        · cases h
        · cases h
  · cases h

/-- `readMessage` from its `i`-th pong on, and the payloads of the pongs it writes; `writes i` says
whether the write of that pong succeeds. -/
def readMessage (writes : ℕ → Bool) (i : ℕ) (s : List UInt8) : MessageResult ClientError × List (List UInt8) :=
  match _h : readFrame s with
  | .failed e => (.failed e, [])
  | .panicked => (.panicked, [])
  | .frame f rest =>
    if f.opcode = 0x8 then (.failed .closedByServer, [])
    else if f.opcode = 0x9 then
      if writes i then
        let r := readMessage writes (i + 1) rest
        (r.1, f.payload :: r.2)
      else (.failed .write, [])
    else if f.opcode = 0xA then readMessage writes i rest
    else if f.fin then (.message f.opcode f.payload rest, [])
    else (.failed .fragmented, [])
termination_by s.length
decreasing_by all_goals exact readFrame_lt _h

end Client

/-! ## Successive calls -/

/-- Up to `n` calls, each on what the one before has left, until one does not return a message. -/
def successive {ε : Type} (read : List UInt8 → MessageResult ε) : ℕ → List UInt8 → List (MessageResult ε)
  | 0, _ => []
  | n + 1, s =>
    match read s with
    | .message opcode payload rest => .message opcode payload rest :: successive read n rest
    | r => [r]

/-- The payloads in order with opcode text, each returned when its frame and no byte more has been taken. -/
def inOrder {ε : Type} : List (List UInt8) → List (List UInt8) → List UInt8 → List (MessageResult ε)
  | payload :: payloads, _ :: frames, rest =>
    .message opText payload (frames.flatten ++ rest) :: inOrder payloads frames rest
  | _, _, _ => []

/-- A reader that returns each payload from its own frame returns all of them from the frames in a row,
and then goes on with the rest. -/
theorem successive_inOrder {ε : Type} (read : List UInt8 → MessageResult ε) {payloads frames : List (List UInt8)}
    (h : List.Forall₂ (fun payload frame => ∀ rest, read (frame ++ rest) = .message opText payload rest)
      payloads frames)
    (rest : List UInt8) (k : ℕ) :
    successive read (payloads.length + k) (frames.flatten ++ rest) =
      inOrder payloads frames rest ++ successive read k rest := by
  induction h with
  | nil => simp [inOrder]
  | @cons payload frame payloads frames hread _ ih =>
    rw [List.length_cons, Nat.add_right_comm, List.flatten_cons, List.append_assoc, successive, hread]
    simp only
    rw [ih]
    rfl

/-! ## From the load generator to the server -/

/-- A frame of the load generator is a masked frame, whatever the mask. -/
theorem writeFrameLocked_masked {opcode : UInt8} (hop : opcode < 16) {payload : List UInt8}
    (hlen : payload.length < 2 ^ 63) (mask : Client.Mask) :
    ∃ bytes, Client.writeFrameLocked opcode payload mask = some bytes ∧ MaskedFrame ⟨true, opcode, payload⟩ bytes := by
  obtain ⟨masked, hm, -⟩ := xorMask_some mask.2 0 payload
  refine ⟨_, by rw [Client.writeFrameLocked, hm, Option.map_some], ?_⟩
  exact .mk _ _ mask.1 masked hop (lengthBytes_encodes hlen) mask.2 hm

/-- `ReadMessage` returns the payload of a text frame with `fin` and leaves what follows it. -/
theorem readMessage_text {maxPayload : MaxPayload} {payload bytes : List UInt8}
    (hf : MaskedFrame ⟨true, opText, payload⟩ bytes) (hlen : (payload.length : ℤ) ≤ maxPayload.bytes)
    (writes : ℕ → Bool) (rest : List UInt8) :
    (readMessage maxPayload.bytes writes (bytes ++ rest)).result = .message opText payload rest := by
  have hwithin : (⟨true, opText, payload⟩ : Frame).Within maxPayload.bytes :=
    ⟨hlen, fun hc => absurd hc (by show ¬ opClose ≤ opText; decide)⟩
  have hread : (readFrame maxPayload.bytes (bytes ++ rest)).2 = .frame ⟨true, opText, payload⟩ rest :=
    (readFrame_frame maxPayload.lt).2 ⟨bytes, hf, hwithin, rfl⟩
  rw [readMessage, readLoop_done hread (by rfl)]

/-! ## From the server to the load generator -/

theorem unmasked_bits (short : UInt8) : short < 128 → (short &&& 0x80 != 0) = false ∧ short &&& 0x7f = short :=
  forall_byte (P := fun short => short < 128 → (short &&& 0x80 != 0) = false ∧ short &&& 0x7f = short)
    (by decide +kernel) short

/-- The body of an unmasked frame is the payload. -/
theorem readBody_unmasked (payload rest : List UInt8) :
    readBody false payload.length (payload ++ rest) = (some (payload.length : ℤ), .read payload rest) := by
  have hmask : readFull (if false then 4 else 0) (payload ++ rest) = some ([], payload ++ rest) :=
    readFull_append (n := 0) (a := []) rfl _
  unfold readBody
  rw [hmask]
  simp only
  rw [if_neg (by omega), Int.toNat_natCast, readFull_append rfl]
  rfl

/-- The load generator reads a frame of the server. -/
theorem client_readFrame {payload : List UInt8} (hlen : (payload.length : ℤ) ≤ Client.maxFrame) (rest : List UInt8) :
    Client.readFrame (writeFrame opText payload ++ rest) = .frame ⟨true, opText, payload⟩ rest := by
  have hlt : payload.length < 2 ^ 63 := by unfold Client.maxFrame at hlen; omega
  have hencodes := lengthBytes_encodes hlt
  obtain ⟨hmask, hshort⟩ := unmasked_bits _ hencodes.short_lt
  rw [writeFrame, writeHeader, List.cons_append, List.cons_append, List.cons_append, List.cons_append,
    List.append_assoc, Client.readFrame, hmask, hshort, readLength_append hencodes hlt]
  simp only
  rw [if_neg (by omega), readBody_unmasked]
  rfl

/-- `readMessage` returns the payload of a text frame of the server and leaves what follows it. -/
theorem client_readMessage_text {payload : List UInt8} (hlen : (payload.length : ℤ) ≤ Client.maxFrame)
    (writes : ℕ → Bool) (rest : List UInt8) :
    (Client.readMessage writes 0 (writeFrame opText payload ++ rest)).1 = .message opText payload rest := by
  have hread := client_readFrame hlen rest
  rw [Client.readMessage]
  split
  · rename_i h; rw [hread] at h; cases h
  · rename_i h; rw [hread] at h; cases h
  · rename_i h
    rw [hread] at h
    cases h
    rfl

/-! ## Both directions -/

/-- Of any payloads within the limit of the reader and under any masks, each side gets back what the
other one framed, in order, one frame a call; whatever follows the frames is left to the calls after them. -/
theorem framing_roundtrip :
    (∀ (maxPayload : MaxPayload) (writes : ℕ → Bool) (payloads : List (List UInt8 × Client.Mask)),
      (∀ p ∈ payloads, (p.1.length : ℤ) ≤ maxPayload.bytes) →
      ∃ frames, List.Forall₂ (fun p frame => Client.writeFrameLocked opText p.1 p.2 = some frame) payloads frames ∧
        ∀ rest k,
          successive (fun s => (readMessage maxPayload.bytes writes s).result) (payloads.length + k)
              (frames.flatten ++ rest) =
            inOrder (payloads.map Prod.fst) frames rest ++
              successive (fun s => (readMessage maxPayload.bytes writes s).result) k rest) ∧
    (∀ (writes : ℕ → Bool) (payloads : List (List UInt8)), (∀ p ∈ payloads, (p.length : ℤ) ≤ Client.maxFrame) →
      ∀ rest k,
        successive (fun s => (Client.readMessage writes 0 s).1) (payloads.length + k)
            ((payloads.map (writeFrame opText)).flatten ++ rest) =
          inOrder payloads (payloads.map (writeFrame opText)) rest ++
            successive (fun s => (Client.readMessage writes 0 s).1) k rest) := by
  constructor
  · intro maxPayload writes payloads hlen
    have hmax := maxPayload.lt
    have hmasked : ∀ p ∈ payloads, ∃ bytes, Client.writeFrameLocked opText p.1 p.2 = some bytes ∧
        MaskedFrame ⟨true, opText, p.1⟩ bytes := fun p hp =>
      writeFrameLocked_masked (by decide) (by have := hlen p hp; omega) p.2
    choose! frame hframe using hmasked
    refine ⟨payloads.map frame, List.forall₂_map_right_iff.2 (List.forall₂_same.2 fun p hp => (hframe p hp).1),
      fun rest k => ?_⟩
    have hreads : List.Forall₂ (fun payload frame => ∀ rest,
        (readMessage maxPayload.bytes writes (frame ++ rest)).result = .message opText payload rest)
        (payloads.map Prod.fst) (payloads.map frame) := by
      rw [List.forall₂_map_left_iff, List.forall₂_map_right_iff, List.forall₂_same]
      exact fun p hp rest => readMessage_text (hframe p hp).2 (hlen p hp) writes rest
    simpa only [List.length_map] using
      successive_inOrder (fun s => (readMessage maxPayload.bytes writes s).result) hreads rest k
  · intro writes payloads hlen rest k
    refine successive_inOrder (fun s => (Client.readMessage writes 0 s).1)
      (List.forall₂_map_right_iff.2 (List.forall₂_same.2 fun p hp rest => ?_)) rest k
    exact client_readMessage_text (hlen p hp) writes rest

theorem framing_roundtrip_sample :
    (∃ frames, List.Forall₂ (fun p frame => Client.writeFrameLocked opText p.1 p.2 = some frame)
        [([104, 105], ⟨[1, 2, 3, 4], rfl⟩), ([], ⟨[0, 0, 0, 0], rfl⟩)] frames ∧
      successive (fun s => (readMessage 1024 (fun _ => true) s).result) 2 (frames.flatten ++ [0x88]) =
        inOrder [[104, 105], []] frames [0x88]) ∧
    successive (fun s => (Client.readMessage (fun _ => true) 0 s).1) 2 [0x81, 0x01, 104, 0x81, 0x00, 0x88] =
      [.message opText [104] [0x81, 0x00, 0x88], .message opText [] [0x88]] := by
  constructor
  · obtain ⟨frames, hframes, hread⟩ := framing_roundtrip.1 ⟨1024, by decide, by decide⟩ (fun _ => true)
      [([104, 105], ⟨[1, 2, 3, 4], rfl⟩), ([], ⟨[0, 0, 0, 0], rfl⟩)] (by decide)
    exact ⟨frames, hframes, (hread [0x88] 0).trans (List.append_nil _)⟩
  · exact (framing_roundtrip.2 (fun _ => true) [[104], []] (by decide) [0x88] 0).trans (List.append_nil _)

end NodejsHelper.WebSocket
