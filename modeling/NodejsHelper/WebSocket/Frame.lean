/-
The frames of a websocket (`websocket.go`): the header and the body `readFrame` takes from a stream,
and the frames `writeFrame` puts on one. What `readFrame` accepts is exactly a complete masked frame
without extension bits, in any of the three encodings of its length, within the limits
(`readFrame_frame`). A step of the code that would panic, a `make` of a negative length or an index
outside the mask, is an outcome of its own.
-/
import NodejsHelper.Lib.Bytes

namespace NodejsHelper.WebSocket

open Bytes

/-! ## Opcodes and limits -/

def opContinuation : UInt8 := 0x0
def opText : UInt8 := 0x1
def opBinary : UInt8 := 0x2
def opClose : UInt8 := 0x8
def opPing : UInt8 := 0x9
def opPong : UInt8 := 0xA

/-- A `maxPayload` that `loadConfig` admits: 64 bits, and raised to 1024 below that. -/
structure MaxPayload where
  bytes : ℤ
  ge : 1024 ≤ bytes
  lt : bytes < 2 ^ 63

/-- Why a read fails: the stream ends inside a frame, `errWSClosed`, `errWSMessageTooBig`,
`errWSCorruptFrame`, or the answer to a ping cannot be written. -/
inductive ReadError
  | eof
  | closed
  | messageTooBig
  | corruptFrame
  | write
  deriving DecidableEq, Repr

/-- A frame, unmasked. -/
structure Frame where
  fin : Bool
  opcode : UInt8
  payload : List UInt8
  deriving DecidableEq, Repr

/-! ## Reading -/

/-- The length of a payload: the seven bits of the header, or the two or eight bytes they announce. -/
def readLength (short : UInt8) (s : List UInt8) : Option (ℤ × List UInt8) :=
  if short = 126 then (readFull 2 s).map fun r => ((beNat r.1 : ℤ), r.2)
  else if short = 127 then (readFull 8 s).map fun r => (int64 (beNat r.1), r.2)
  else some (short.toNat, s)

/-- What the header of an accepted frame says. -/
structure Header where
  fin : Bool
  opcode : UInt8
  length : ℤ

/-- `readFrame` up to its last check. -/
def readHeader (maxPayload : ℤ) : List UInt8 → Except ReadError (Header × List UInt8)
  | h0 :: h1 :: s =>
    if h0 &&& 0x70 ≠ 0 then .error .corruptFrame
    -- a client has to mask its frames
    else if h1 &&& 0x80 = 0 then .error .corruptFrame
    else
      match readLength (h1 &&& 0x7f) s with
      | none => .error .eof
      | some (length, s) =>
        let fin := h0 &&& 0x80 != 0
        let opcode := h0 &&& 0x0f
        -- a length of eight bytes can be negative as an int64
        if length < 0 ∨ maxPayload < length then .error .messageTooBig
        else if opClose ≤ opcode ∧ (fin = false ∨ 125 < length) then .error .corruptFrame
        else .ok (⟨fin, opcode, length⟩, s)
  | _ => .error .eof

/-- What the body of a frame gives. -/
inductive Body
  | read (payload rest : List UInt8)
  | eof
  | panicked

/-- The mask and the payload, and the length the buffer was made with. -/
def readBody (masked : Bool) (length : ℤ) (s : List UInt8) : Option ℤ × Body :=
  match readFull (if masked then 4 else 0) s with
  | none => (none, .eof)
  | some (mask, s) =>
    -- `make` of a negative length
    if length < 0 then (some length, .panicked)
    else
      match readFull length.toNat s with
      | none => (some length, .eof)
      | some (payload, s) =>
        if masked then
          match xorMask mask 0 payload with
          | none => (some length, .panicked)
          | some payload => (some length, .read payload s)
        else (some length, .read payload s)

/-- What a read of a frame gives, under the errors `ε` of the reader. -/
inductive FrameResult (ε : Type)
  | frame (f : Frame) (rest : List UInt8)
  | failed (e : ε)
  | panicked

/-- `readFrame`. -/
def readFrame (maxPayload : ℤ) (s : List UInt8) : Option ℤ × FrameResult ReadError :=
  match readHeader maxPayload s with
  | .error e => (none, .failed e)
  | .ok (header, s) =>
    match readBody true header.length s with
    | (made, .read payload rest) => (made, .frame ⟨header.fin, header.opcode, payload⟩ rest)
    | (made, .eof) => (made, .failed .eof)
    | (made, .panicked) => (made, .panicked)

/-! ## Writing -/

/-- How both writers encode a length: in the header, or behind it in two or eight bytes. -/
def lengthBytes (n : ℕ) : UInt8 × List UInt8 :=
  if n < 126 then (UInt8.ofNat n, [])
  else if n ≤ 0xFFFF then (126, [UInt8.ofNat (n / 256), UInt8.ofNat n])
  else (127, beBytes 8 n)

/-- The header of `writeFrame`. -/
def writeHeader (opcode : UInt8) (n : ℕ) : List UInt8 := (0x80 ||| opcode) :: (lengthBytes n).1 :: (lengthBytes n).2

/-- The bytes of `writeFrame`. -/
def writeFrame (opcode : UInt8) (payload : List UInt8) : List UInt8 := writeHeader opcode payload.length ++ payload

/-! ## Frames on the wire -/

/-- The first byte of a frame without extension bits. -/
def firstByte (fin : Bool) (opcode : UInt8) : UInt8 := (if fin then 0x80 else 0) ||| opcode

/-- The encodings of a length; they need not be the shortest. -/
inductive LengthBytes (n : ℕ) : UInt8 → List UInt8 → Prop
  | short : n < 126 → LengthBytes n (UInt8.ofNat n) []
  | two (ext : List UInt8) : ext.length = 2 → beNat ext = n → LengthBytes n 126 ext
  | eight (ext : List UInt8) : ext.length = 8 → beNat ext = n → LengthBytes n 127 ext

/-- The bytes are a complete masked frame without extension bits. -/
inductive MaskedFrame (f : Frame) : List UInt8 → Prop
  | mk (short : UInt8) (ext mask masked : List UInt8) : f.opcode < 16 → LengthBytes f.payload.length short ext →
      mask.length = 4 → xorMask mask 0 f.payload = some masked →
      MaskedFrame f (firstByte f.fin f.opcode :: (0x80 ||| short) :: (ext ++ (mask ++ masked)))

/-- The frame is within the limits `readFrame` checks. -/
def Frame.Within (maxPayload : ℤ) (f : Frame) : Prop :=
  f.payload.length ≤ maxPayload ∧ (opClose ≤ f.opcode → f.fin = true ∧ f.payload.length ≤ 125)

/-! ## Bits -/

/-- A property of all bytes, checked one by one. -/
theorem forall_byte {P : UInt8 → Prop} (h : ∀ n < 256, P (UInt8.ofNat n)) (b : UInt8) : P b := by
  have := h b.toNat b.toNat_lt
  rwa [UInt8.ofNat_toNat] at this

theorem firstByte_eq (b : UInt8) : b &&& 0x70 = 0 → firstByte (b &&& 0x80 != 0) (b &&& 0x0f) = b ∧ b &&& 0x0f < 16 :=
  forall_byte (P := fun b => b &&& 0x70 = 0 → firstByte (b &&& 0x80 != 0) (b &&& 0x0f) = b ∧ b &&& 0x0f < 16)
    (by decide +kernel) b

theorem firstByte_bits (fin : Bool) (opcode : UInt8) : opcode < 16 →
    firstByte fin opcode &&& 0x70 = 0 ∧ (firstByte fin opcode &&& 0x80 != 0) = fin ∧
      firstByte fin opcode &&& 0x0f = opcode := by
  revert fin
  refine forall_byte (P := fun opcode => ∀ fin, opcode < 16 → firstByte fin opcode &&& 0x70 = 0 ∧
    (firstByte fin opcode &&& 0x80 != 0) = fin ∧ firstByte fin opcode &&& 0x0f = opcode) (by decide +kernel) opcode

theorem maskBit_eq (b : UInt8) : b &&& 0x80 ≠ 0 → 0x80 ||| (b &&& 0x7f) = b ∧ b &&& 0x7f < 128 :=
  forall_byte (P := fun b => b &&& 0x80 ≠ 0 → 0x80 ||| (b &&& 0x7f) = b ∧ b &&& 0x7f < 128) (by decide +kernel) b

theorem maskBit_bits (short : UInt8) :
    short < 128 → (0x80 ||| short) &&& 0x80 ≠ 0 ∧ (0x80 ||| short) &&& 0x7f = short :=
  forall_byte (P := fun short => short < 128 → (0x80 ||| short) &&& 0x80 ≠ 0 ∧ (0x80 ||| short) &&& 0x7f = short)
    (by decide +kernel) short

/-! ## Lengths -/

theorem toNat_ofNat_lt {n : ℕ} (h : n < 256) : (UInt8.ofNat n).toNat = n := Nat.mod_eq_of_lt h

theorem LengthBytes.short_lt {n : ℕ} {short : UInt8} {ext : List UInt8} (h : LengthBytes n short ext) :
    short < 128 := by
  cases h with
  | short hn => rw [UInt8.lt_iff_toNat_lt, toNat_ofNat_lt (by omega)]; exact Nat.lt_trans hn (by decide)
  | two | eight => decide

/-- What `readLength` reads is one of the encodings of it. -/
theorem readLength_some {short : UInt8} {s s' : List UInt8} {length : ℤ} (hs : short < 128)
    (h : readLength short s = some (length, s')) (h0 : 0 ≤ length) :
    ∃ n : ℕ, length = n ∧ ∃ ext, s = ext ++ s' ∧ LengthBytes n short ext := by
  unfold readLength at h
  split at h
  · rename_i h126
    obtain ⟨⟨ext, rest⟩, hr, he⟩ := Option.map_eq_some_iff.1 h
    cases he
    obtain ⟨hs', hlen⟩ := readFull_some hr
    exact ⟨_, rfl, ext, hs', h126 ▸ .two ext hlen rfl⟩
  · rename_i h126
    split at h
    · rename_i h127
      obtain ⟨⟨ext, rest⟩, hr, he⟩ := Option.map_eq_some_iff.1 h
      cases he
      obtain ⟨hs', hlen⟩ := readFull_some hr
      have hlt := beNat_lt ext
      rw [hlen] at hlt
      exact ⟨_, int64_of_nonneg hlt h0, ext, hs', h127 ▸ .eight ext hlen rfl⟩
    · rename_i h127
      cases h
      refine ⟨_, rfl, [], rfl, ?_⟩
      have hn : short.toNat < 126 := by
        rw [UInt8.lt_iff_toNat_lt] at hs
        have h1 : short.toNat ≠ 126 := fun he => h126 (UInt8.toNat_inj.1 he)
        have h2 : short.toNat ≠ 127 := fun he => h127 (UInt8.toNat_inj.1 he)
        have h3 : (128 : UInt8).toNat = 128 := rfl
        omega
      have := LengthBytes.short hn
      rwa [UInt8.ofNat_toNat] at this

/-- Every encoding of a length is read as it. -/
theorem readLength_append {n : ℕ} {short : UInt8} {ext : List UInt8} (h : LengthBytes n short ext) (hn : n < 2 ^ 63)
    (s : List UInt8) : readLength short (ext ++ s) = some ((n : ℤ), s) := by
  cases h with
  | short hlt =>
    have hto : (UInt8.ofNat n).toNat = n := toNat_ofNat_lt (by omega)
    have h1 : UInt8.ofNat n ≠ 126 := fun he => by
      rw [he] at hto
      exact absurd hto (by show 126 ≠ n; omega)
    have h2 : UInt8.ofNat n ≠ 127 := fun he => by
      rw [he] at hto
      exact absurd hto (by show 127 ≠ n; omega)
    rw [readLength, if_neg h1, if_neg h2, hto, List.nil_append]
  | two ext hlen hv => rw [readLength, if_pos rfl, readFull_append hlen, Option.map_some, hv]
  | eight ext hlen hv =>
    rw [readLength, if_neg (by decide), if_pos rfl, readFull_append hlen, Option.map_some, hv, int64_of_lt hn]

/-- The writers use one of them. -/
theorem lengthBytes_encodes {n : ℕ} (hn : n < 2 ^ 63) : LengthBytes n (lengthBytes n).1 (lengthBytes n).2 := by
  unfold lengthBytes
  split
  · rename_i h; exact .short h
  · split
    · rename_i h
      refine .two _ rfl ?_
      have := beNat_beBytes (k := 2) (n := n) (by omega)
      simpa [beBytes] using this
    · exact .eight _ (length_beBytes 8 n) (beNat_beBytes (by omega))

/-! ## Headers and bodies -/

/-- The header of an accepted frame. -/
theorem readHeader_ok {maxPayload : ℤ} {s s' : List UInt8} {header : Header}
    (h : readHeader maxPayload s = .ok (header, s')) :
    ∃ n : ℕ, header.length = n ∧ n ≤ maxPayload ∧ (opClose ≤ header.opcode → header.fin = true ∧ n ≤ 125) ∧
      header.opcode < 16 ∧ ∃ short ext, LengthBytes n short ext ∧
        s = firstByte header.fin header.opcode :: (0x80 ||| short) :: (ext ++ s') := by
  unfold readHeader at h
  split at h
  · rename_i h0 h1 s
    split at h
    · cases h
    · rename_i hrsv
      split at h
      · cases h
      · rename_i hmask
        split at h
        · cases h
        · rename_i length rest hlength
          simp only at h
          split at h
          · cases h
          · rename_i hlen
            split at h
            · cases h
            · rename_i hctl
              cases h
              obtain ⟨hfirst, hop⟩ := firstByte_eq h0 (not_not.1 hrsv)
              obtain ⟨hsecond, hlt⟩ := maskBit_eq h1 hmask
              obtain ⟨n, rfl, ext, rfl, hbytes⟩ := readLength_some hlt hlength (by omega)
              refine ⟨n, rfl, by omega, fun hc => ?_, hop, _, ext, hbytes, by rw [hfirst, hsecond]⟩
              have hctl' : ¬ ((h0 &&& 0x80 != 0) = false ∨ (125 : ℤ) < n) := fun hc' => hctl ⟨hc, hc'⟩
              rw [not_or, Bool.not_eq_false] at hctl'
              exact ⟨hctl'.1, by omega⟩
  · cases h

/-- Every such header is accepted. -/
theorem readHeader_append {maxPayload : ℤ} (hmax : maxPayload < 2 ^ 63) {fin : Bool} {opcode short : UInt8} {n : ℕ}
    {ext : List UInt8} (hop : opcode < 16) (h : LengthBytes n short ext) (hn : n ≤ maxPayload)
    (hctl : opClose ≤ opcode → fin = true ∧ n ≤ 125) (s : List UInt8) :
    readHeader maxPayload (firstByte fin opcode :: (0x80 ||| short) :: (ext ++ s)) = .ok (⟨fin, opcode, n⟩, s) := by
  obtain ⟨hrsv, hfin, hopcode⟩ := firstByte_bits fin opcode hop
  obtain ⟨hmask, hshort⟩ := maskBit_bits short h.short_lt
  have hlen : ¬ ((n : ℤ) < 0 ∨ maxPayload < n) := by omega
  have hc : ¬ (opClose ≤ opcode ∧ (fin = false ∨ (125 : ℤ) < n)) := by
    rintro ⟨hc, hf | hl⟩
    · rw [(hctl hc).1] at hf; cases hf
    · have := (hctl hc).2; omega
  rw [readHeader, if_neg (not_not.2 hrsv), if_neg hmask, hshort, readLength_append h (by omega)]
  simp only [hfin, hopcode, if_neg hlen, if_neg hc]

/-- The body of a masked frame whose length is not negative: a buffer of that length is made when the
mask has been read, nothing panics, and it is the mask and the masked payload. -/
theorem readBody_masked (n : ℕ) (s : List UInt8) :
    ((readBody true n s).1 = none ∨ (readBody true n s).1 = some (n : ℤ)) ∧ (readBody true n s).2 ≠ .panicked ∧
      ∀ payload rest, (readBody true n s).2 = .read payload rest → ∃ mask masked, mask.length = 4 ∧
        payload.length = n ∧ xorMask mask 0 payload = some masked ∧ s = mask ++ (masked ++ rest) := by
  unfold readBody
  rw [if_pos rfl]
  split
  · exact ⟨Or.inl rfl, nofun, nofun⟩
  · rename_i mask s hmask
    obtain ⟨rfl, hlen⟩ := readFull_some hmask
    rw [if_neg (by omega), Int.toNat_natCast]
    split
    · exact ⟨Or.inr rfl, nofun, nofun⟩
    · rename_i masked s hpayload
      obtain ⟨rfl, hn⟩ := readFull_some hpayload
      obtain ⟨payload, hp, hplen⟩ := xorMask_some hlen 0 masked
      rw [if_pos rfl, hp]
      refine ⟨Or.inr rfl, nofun, fun payload' rest h => ?_⟩
      cases h
      exact ⟨mask, masked, hlen, hplen.trans hn, xorMask_xorMask hp, rfl⟩

theorem readBody_append {mask masked payload : List UInt8} (hmask : mask.length = 4)
    (hp : xorMask mask 0 payload = some masked) (rest : List UInt8) :
    readBody true payload.length (mask ++ (masked ++ rest)) = (some (payload.length : ℤ), .read payload rest) := by
  obtain ⟨masked', hm, hlen⟩ := xorMask_some hmask 0 payload
  rw [hp] at hm
  cases hm
  unfold readBody
  rw [if_pos rfl, readFull_append hmask]
  simp only
  rw [if_neg (by omega), Int.toNat_natCast, readFull_append hlen]
  simp only [if_true, xorMask_xorMask hp]

/-! ## Frames -/

/-- What `readFrame` accepts, and what it leaves. -/
theorem readFrame_frame {maxPayload : ℤ} (hmax : maxPayload < 2 ^ 63) {s : List UInt8} {f : Frame} {rest : List UInt8} :
    (readFrame maxPayload s).2 = .frame f rest ↔
      ∃ bytes, MaskedFrame f bytes ∧ f.Within maxPayload ∧ s = bytes ++ rest := by
  constructor
  · intro h
    unfold readFrame at h
    split at h
    · cases h
    · rename_i header s' hheader
      obtain ⟨n, hn, hle, hctl, hop, short, ext, hbytes, rfl⟩ := readHeader_ok hheader
      obtain ⟨-, -, hread⟩ := readBody_masked n s'
      rw [hn] at h
      split at h
      · rename_i made payload rest' hbody
        cases h
        obtain ⟨mask, masked, hmask, hlen, hx, rfl⟩ := hread payload rest (by rw [hbody])
        subst hlen
        refine ⟨_, .mk short ext mask masked hop hbytes hmask hx, ⟨hle, hctl⟩, ?_⟩
        simp only [List.cons_append, List.append_assoc]
      · cases h
      · cases h
  · rintro ⟨bytes, ⟨short, ext, mask, masked, hop, hbytes, hmask, hx⟩, ⟨hle, hctl⟩, rfl⟩
    simp only [List.cons_append, List.append_assoc]
    unfold readFrame
    rw [readHeader_append hmax hop hbytes hle hctl]
    simp only [readBody_append hmask hx]

/-- `readFrame` makes no buffer but of a length from zero to the limit, and does not panic. -/
theorem readFrame_safe (maxPayload : ℤ) (s : List UInt8) :
    (readFrame maxPayload s).2 ≠ .panicked ∧ ∀ n ∈ (readFrame maxPayload s).1, 0 ≤ n ∧ n ≤ maxPayload := by
  unfold readFrame
  split
  · exact ⟨nofun, nofun⟩
  · rename_i header s' hheader
    obtain ⟨n, hn, hle, -⟩ := readHeader_ok hheader
    obtain ⟨hmade, hpanic, -⟩ := readBody_masked n s'
    rw [hn]
    have hrange : ∀ made, (readBody true n s').1 = made → ∀ k ∈ made, 0 ≤ k ∧ k ≤ maxPayload := by
      rintro made rfl k hk
      rcases hmade with hm | hm
      · rw [hm] at hk; cases hk
      · rw [hm, Option.mem_some] at hk
        omega
    split
    · rename_i made payload rest hb
      exact ⟨nofun, hrange made (by rw [hb])⟩
    · rename_i made hb
      exact ⟨nofun, hrange made (by rw [hb])⟩
    · rename_i made hb
      exact absurd (by rw [hb]) hpanic

/-- A frame that is read has been taken off the stream. -/
theorem readFrame_lt {maxPayload : ℤ} {s : List UInt8} {made : Option ℤ} {f : Frame} {rest : List UInt8}
    (h : readFrame maxPayload s = (made, .frame f rest)) : rest.length < s.length := by
  unfold readFrame at h
  split at h
  · cases h
  · rename_i header s' hheader
    obtain ⟨n, hn, -, -, -, short, ext, -, rfl⟩ := readHeader_ok hheader
    obtain ⟨-, -, hread⟩ := readBody_masked n s'
    rw [hn] at h
    split at h
    · rename_i made payload rest' hbody
      cases h
      obtain ⟨mask, masked, -, -, -, rfl⟩ := hread payload rest (by rw [hbody])
      simp only [List.length_cons, List.length_append]
      omega
    · cases h
    · cases h

end NodejsHelper.WebSocket
