/-
# Frames on the client's stream

`relay_requests` reads records from a TCP stream, of which a single read returns any number of
bytes; `write_frame` puts records on such a stream.  Here are the reading half of the loop, from the
header to the parsed frame, over a stream that arrives in pieces, and the round trip: what
`write_frame` wrote is read back, however it is cut (`decode_writeFrames`).

`decode` takes every frame that parses, whatever the destination policy says of it;
`parseClientFrame_eq` and `onRecord_eq` say how the loop of `Connection` is built from the same
parts.
-/
import ZtPlanet.Lib.Stream
import ZtPlanet.Relay.Connection

namespace ZtPlanet.Relay

open Lib

/-! ## 1. Reading -/

/-- The `io::Error` that ends the loop. -/
inductive StreamError where
  | read (error : ReadError)
  | invalidData (message : String)
deriving DecidableEq

/-- `read_record_header`: the first byte has a deadline of its own. -/
def readRecordHeader (stream : List (Read UInt8)) :
    Except StreamError (List UInt8 × List (Read UInt8)) :=
  match readExact stream 1 with
  | .error e => .error (.read e)
  | .ok (first, stream) =>
    match readExact stream (headerLen - 1) with
    | .error e => .error (.read e)
    | .ok (others, stream) => .ok (first ++ others, stream)

/-- The tests of a header; the length of the frame behind it. -/
def checkHeader (maxFrameLen : Nat) (header : List UInt8) : Except StreamError Nat :=
  match header with
  | [a, b, c, hi, lo] =>
    let frameLen := u16FromBeBytes hi lo
    if [a, b, c] ≠ [0x17, 0x03, 0x03] then .error (.invalidData "invalid frame header")
    else if ¬ (addressHeaderLen + 16 ≤ frameLen ∧ frameLen ≤ maxFrameLen) then
      .error (.invalidData "invalid frame length")
    else .ok frameLen
  -- a header that was read has five bytes
  | _ => .error (.invalidData "invalid frame header")

/-- The loop up to the frame's last byte. -/
def readFrame (maxFrameLen : Nat) (stream : List (Read UInt8)) :
    Except StreamError (List UInt8 × List (Read UInt8)) :=
  match readRecordHeader stream with
  | .error e => .error e
  | .ok (header, stream) =>
    match checkHeader maxFrameLen header with
    | .error e => .error e
    | .ok frameLen =>
      match readExact stream frameLen with
      | .error e => .error (.read e)
      | .ok (frame, stream) => .ok (frame, stream)

/-- What a frame says: an address, a port and a payload. -/
structure Ipv4Frame where
  ip : UInt32
  port : UInt16
  payload : List UInt8
deriving DecidableEq

/-- `parse_client_frame` without the destination policy. -/
def parseFrame (frame : List UInt8) : Except String Ipv4Frame :=
  if frame.length < addressHeaderLen + 16 then .error "ZeroTier payload is too short"
  else
    match frame with
    | tag :: a :: b :: c :: d :: hi :: lo :: payload =>
      if tag ≠ 4 then .error "only IPv4 fallback is supported"
      else .ok ⟨ipv4FromBytes a b c d, UInt16.ofNat (u16FromBeBytes hi lo), payload⟩
    | _ => .error "ZeroTier payload is too short"

/-- The destination policy of `parse_client_frame`. -/
def Ipv4Frame.isAdmitted (minDestinationPort : UInt16) (f : Ipv4Frame) : Bool :=
  isGlobalUnicast f.ip && !(f.port < minDestinationPort)

/-- The address of a frame: where a request goes, where a reply comes from. -/
def Ipv4Frame.address (f : Ipv4Frame) : SocketAddr := ⟨.v4 f.ip, f.port⟩

/-- A frame that is long enough has the seven bytes in front of its payload. -/
theorem exists_of_length {frame : List UInt8} (h : addressHeaderLen + 16 ≤ frame.length) :
    ∃ tag a b c d hi lo payload, frame = tag :: a :: b :: c :: d :: hi :: lo :: payload := by
  rcases frame with _ | ⟨tag, _ | ⟨a, _ | ⟨b, _ | ⟨c, _ | ⟨d, _ | ⟨hi, _ | ⟨lo, payload⟩⟩⟩⟩⟩⟩⟩
  on_goal 8 => exact ⟨tag, a, b, c, d, hi, lo, payload, rfl⟩
  -- the shorter ones
  all_goals exact absurd h (by simp [addressHeaderLen])

theorem parseClientFrame_eq (frame : List UInt8) (minDestinationPort : UInt16) :
    parseClientFrame frame minDestinationPort =
      match parseFrame frame with
      | .error message => .error (.protocol message)
      | .ok f =>
        if f.isAdmitted minDestinationPort then .ok (f.address, f.payload)
        else .error .destination := by
  unfold parseClientFrame parseFrame
  by_cases hshort : frame.length < addressHeaderLen + 16
  · rw [if_pos hshort, if_pos hshort]
  · obtain ⟨tag, a, b, c, d, hi, lo, payload, rfl⟩ := exists_of_length (Nat.not_lt.mp hshort)
    rw [if_neg hshort, if_neg hshort]
    dsimp only
    by_cases htag : tag ≠ 4
    · rw [if_pos htag, if_pos htag]
    · rw [if_neg htag, if_neg htag]
      by_cases hglobal : isGlobalUnicast (ipv4FromBytes a b c d) = true
      · by_cases hport : UInt16.ofNat (u16FromBeBytes hi lo) < minDestinationPort
        · simp [Ipv4Frame.isAdmitted, hglobal, hport]
        · simp [Ipv4Frame.isAdmitted, Ipv4Frame.address, hglobal, hport]
      · simp [Ipv4Frame.isAdmitted, hglobal]

/-- The loop of `Connection` makes the same tests of a record. -/
theorem onRecord_eq (cfg : Config) (s : Connection.Conn) {header : List UInt8}
    (hlen : header.length = headerLen) (frame : List UInt8) :
    Connection.onRecord cfg s header frame =
      let refuse := { s with
        metrics.rejectedProtocol := wrapAdd s.metrics.rejectedProtocol 1, request := .ending }
      match checkHeader cfg.maxFrameLen header with
      | .error _ => some refuse
      | .ok frameLen =>
        if frame.length ≠ frameLen then none
        else
          match parseClientFrame frame cfg.minDestinationPort with
          | .ok (destination, payload) => some { s with request := .looking destination payload }
          | .error (.protocol _) => some refuse
          | .error .destination =>
            some { s with
              metrics.rejectedDestination := wrapAdd s.metrics.rejectedDestination 1
              request := .polling } := by
  obtain ⟨a, b, c, hi, lo, rfl⟩ : ∃ a b c hi lo, header = [a, b, c, hi, lo] := by
    match header, hlen with
    | [a, b, c, hi, lo], _ => exact ⟨a, b, c, hi, lo, rfl⟩
  by_cases htag : [a, b, c] ≠ [0x17, 0x03, 0x03]
  · have hcheck : checkHeader cfg.maxFrameLen [a, b, c, hi, lo]
        = .error (.invalidData "invalid frame header") := if_pos htag
    rw [hcheck]
    exact if_pos htag
  · by_cases hbound : ¬ (addressHeaderLen + 16 ≤ u16FromBeBytes hi lo ∧
        u16FromBeBytes hi lo ≤ cfg.maxFrameLen)
    · have hcheck : checkHeader cfg.maxFrameLen [a, b, c, hi, lo]
          = .error (.invalidData "invalid frame length") := (if_neg htag).trans (if_pos hbound)
      rw [hcheck]
      exact (if_neg htag).trans (if_pos hbound)
    · have hcheck : checkHeader cfg.maxFrameLen [a, b, c, hi, lo]
          = .ok (u16FromBeBytes hi lo) := (if_neg htag).trans (if_neg hbound)
      rw [hcheck]
      exact (if_neg htag).trans (if_neg hbound)

/-! ## 2. The loop -/

theorem weight_readRecordHeader {stream rest : List (Read UInt8)} {header : List UInt8}
    (h : readRecordHeader stream = .ok (header, rest)) : weight rest < weight stream := by
  unfold readRecordHeader at h
  split at h
  · cases h
  · rename_i first stream' hfirst
    split at h
    · cases h
    · rename_i others stream'' hothers
      have h₁ := weight_readExact hfirst
      have h₂ := weight_readExact hothers
      cases h
      omega

theorem weight_readFrame {maxFrameLen : Nat} {stream rest : List (Read UInt8)} {frame : List UInt8}
    (h : readFrame maxFrameLen stream = .ok (frame, rest)) : weight rest < weight stream := by
  unfold readFrame at h
  split at h
  · cases h
  · rename_i header stream' hheader
    split at h
    · cases h
    · split at h
      · cases h
      · rename_i frameLen _ _ frame' stream'' hframe
        have h₁ := weight_readRecordHeader hheader
        have h₂ := weight_readExact hframe
        cases h
        omega

/-- What the loop takes from a stream before it ends. -/
structure Decoded where
  frames : List Ipv4Frame
  stopped : StreamError
  /-- the bytes behind the last frame taken -/
  leftover : List UInt8
deriving DecidableEq

/-- The reading half of `relay_requests`, while `running` is set and every payload can be sent. -/
def decode (maxFrameLen : Nat) (stream : List (Read UInt8)) : Decoded :=
  match _h : readFrame maxFrameLen stream with
  | .error e => ⟨[], e, delivered stream⟩
  | .ok (frame, rest) =>
    match parseFrame frame with
    | .error message => ⟨[], .invalidData message, delivered stream⟩
    | .ok f =>
      let more := decode maxFrameLen rest
      ⟨f :: more.frames, more.stopped, more.leftover⟩
termination_by weight stream
decreasing_by exact weight_readFrame ‹_›

theorem decode_ok {maxFrameLen : Nat} {stream rest : List (Read UInt8)} {frame : List UInt8}
    {f : Ipv4Frame} (hread : readFrame maxFrameLen stream = .ok (frame, rest))
    (hparse : parseFrame frame = .ok f) :
    decode maxFrameLen stream =
      ⟨f :: (decode maxFrameLen rest).frames, (decode maxFrameLen rest).stopped,
        (decode maxFrameLen rest).leftover⟩ := by
  rw [decode]
  split
  · rename_i hread'
    rw [hread] at hread'
    cases hread'
  · rename_i frame' rest' hread'
    rw [hread] at hread'
    cases hread'
    rw [hparse]

theorem decode_error {maxFrameLen : Nat} {stream : List (Read UInt8)} {e : StreamError}
    (hread : readFrame maxFrameLen stream = .error e) :
    decode maxFrameLen stream = ⟨[], e, delivered stream⟩ := by
  rw [decode]
  split
  · rename_i hread'
    rw [hread] at hread'
    cases hread'
    rfl
  · rename_i hread'
    rw [hread] at hread'
    cases hread'

/-! ## 3. Writing -/

/-- What `write_frame` puts on the stream for each of a list of replies. -/
def writeFrames : List Ipv4Frame → Except String (List UInt8)
  | [] => .ok []
  | f :: fs =>
    match writeFrame f.address f.payload, writeFrames fs with
    | .ok (some (header, payload)), .ok bytes => .ok (header ++ payload ++ bytes)
    | .ok none, .ok bytes => .ok bytes
    | .error message, _ => .error message
    | _, .error message => .error message

theorem u16FromBeBytes_div_mod {n : Nat} (h : n < 65536) :
    u16FromBeBytes (UInt8.ofNat (n / 256)) (UInt8.ofNat (n % 256)) = n := by
  unfold u16FromBeBytes
  rw [UInt8.toNat_ofNat', UInt8.toNat_ofNat']
  omega

theorem u16FromBeBytes_port (port : UInt16) :
    UInt16.ofNat (u16FromBeBytes (UInt8.ofNat (port.toNat / 256)) port.toUInt8) = port := by
  have h := port.toNat_lt
  apply UInt16.toNat_inj.mp
  unfold u16FromBeBytes
  rw [UInt16.toNat_ofNat', UInt8.toNat_ofNat', UInt16.toNat_toUInt8]
  omega

/-- The octets of an address make the address. -/
theorem ipv4FromBytes_octets (ip : UInt32) :
    ipv4FromBytes (ip >>> 24).toUInt8 (ip >>> 16).toUInt8 (ip >>> 8).toUInt8 ip.toUInt8 = ip := by
  have h := ip.toNat_lt
  apply UInt32.toNat_inj.mp
  unfold ipv4FromBytes
  simp only [UInt32.toNat_ofNat', UInt32.toNat_toUInt8, UInt32.toNat_shiftRight]
  simp only [UInt32.reduceToNat, Nat.reduceMod, Nat.shiftRight_eq_div_pow]
  omega

/-- The frame inside a record that `write_frame` wrote. -/
def Ipv4Frame.frame (f : Ipv4Frame) : List UInt8 :=
  4 :: (ipv4Octets f.ip ++ [UInt8.ofNat (f.port.toNat / 256), f.port.toUInt8] ++ f.payload)

/-- The header in front of it. -/
def Ipv4Frame.header (f : Ipv4Frame) : List UInt8 :=
  [0x17, 0x03, 0x03, UInt8.ofNat ((addressHeaderLen + f.payload.length) / 256),
    UInt8.ofNat ((addressHeaderLen + f.payload.length) % 256)]

theorem Ipv4Frame.length_frame (f : Ipv4Frame) :
    f.frame.length = addressHeaderLen + f.payload.length := by
  simp [Ipv4Frame.frame, ipv4Octets, addressHeaderLen]
  omega

theorem writeFrame_eq {f : Ipv4Frame} (h : addressHeaderLen + f.payload.length ≤ 65535) :
    ∃ header : List UInt8, writeFrame f.address f.payload = .ok (some (header, f.payload)) ∧
      header ++ f.payload = f.header ++ f.frame := by
  refine ⟨f.header ++ 4 :: ipv4Octets f.ip ++
    [UInt8.ofNat (f.port.toNat / 256), f.port.toUInt8], ?_, ?_⟩
  · unfold writeFrame Ipv4Frame.address
    dsimp only
    rw [if_neg (Nat.not_lt.mpr h)]
    rfl
  · simp [Ipv4Frame.header, Ipv4Frame.frame]

/-- The stream that carries a list of replies. -/
theorem writeFrames_eq : ∀ {frames : List Ipv4Frame},
    (∀ f ∈ frames, addressHeaderLen + f.payload.length ≤ 65535) →
      writeFrames frames = .ok (frames.flatMap fun f => f.header ++ f.frame)
  | [], _ => rfl
  | f :: fs, h => by
    obtain ⟨header, hwrite, hbytes⟩ := writeFrame_eq (h f List.mem_cons_self)
    have ih := writeFrames_eq fun f' hf' => h f' (List.mem_cons_of_mem f hf')
    rw [writeFrames, hwrite, ih]
    dsimp only
    rw [hbytes, List.flatMap_cons]

/-! ## 4. The round trip -/

theorem parseFrame_frame {f : Ipv4Frame} (h : 16 ≤ f.payload.length) :
    parseFrame f.frame = .ok f := by
  unfold parseFrame
  rw [if_neg (by
    rw [f.length_frame]
    omega)]
  simp only [Ipv4Frame.frame, ipv4Octets, List.cons_append, List.nil_append]
  rw [if_neg (by simp), ipv4FromBytes_octets, u16FromBeBytes_port]

theorem checkHeader_header {maxFrameLen : Nat} {f : Ipv4Frame} (hmax : maxFrameLen ≤ 65535)
    (hmin : 16 ≤ f.payload.length) (hlen : addressHeaderLen + f.payload.length ≤ maxFrameLen) :
    checkHeader maxFrameLen f.header = .ok f.frame.length := by
  unfold checkHeader Ipv4Frame.header
  dsimp only
  rw [u16FromBeBytes_div_mod (by omega), if_neg (by simp), if_neg (by omega), f.length_frame]

/-- One record is read back from the pieces that carry it. -/
theorem readFrame_frame {maxFrameLen : Nat} {f : Ipv4Frame} (hmax : maxFrameLen ≤ 65535)
    (hmin : 16 ≤ f.payload.length) (hlen : addressHeaderLen + f.payload.length ≤ maxFrameLen)
    {stream : List (Read UInt8)} (hquiet : Quiet stream) {bytes : List UInt8}
    (hstream : delivered stream = f.header ++ f.frame ++ bytes) :
    ∃ rest, readFrame maxFrameLen stream = .ok (f.frame, rest) ∧ Quiet rest ∧
      delivered rest = bytes := by
  -- the tag byte, the rest of the header, the frame: three reads
  obtain ⟨s₁, hread₁, hquiet₁, hdel₁⟩ := readExact_append hquiet
    (a := [0x17]) (b := f.header.tail ++ (f.frame ++ bytes)) (by
      rw [hstream, List.append_assoc]
      rfl)
  obtain ⟨s₂, hread₂, hquiet₂, hdel₂⟩ := readExact_append hquiet₁ hdel₁
  obtain ⟨s₃, hread₃, hquiet₃, hdel₃⟩ := readExact_append hquiet₂ hdel₂
  have hheader : readRecordHeader stream = .ok (f.header, s₂) := by
    unfold readRecordHeader
    rw [show readExact stream 1 = _ from hread₁]
    dsimp only
    rw [show readExact s₁ (headerLen - 1) = _ from hread₂]
    rfl
  refine ⟨s₃, ?_, hquiet₃, hdel₃⟩
  unfold readFrame
  rw [hheader]
  dsimp only
  rw [checkHeader_header hmax hmin hlen]
  dsimp only
  rw [hread₃]

/-- At the end of the stream the loop meets the end of a record. -/
theorem readFrame_eof {maxFrameLen : Nat} {stream : List (Read UInt8)} (hquiet : Quiet stream)
    (hstream : delivered stream = []) :
    readFrame maxFrameLen stream = .error (.read .unexpectedEof) := by
  unfold readFrame readRecordHeader
  rw [readExact_eof hquiet hstream]

/-- **A stream that carries the frames of a list, and nothing else, is decoded into the list.** -/
theorem decode_frames {maxFrameLen : Nat} (hmax : maxFrameLen ≤ 65535) :
    ∀ {frames : List Ipv4Frame},
      (∀ f ∈ frames, 16 ≤ f.payload.length ∧ addressHeaderLen + f.payload.length ≤ maxFrameLen) →
        ∀ {stream : List (Read UInt8)}, Quiet stream →
          delivered stream = (frames.flatMap fun f => f.header ++ f.frame) →
            decode maxFrameLen stream = ⟨frames, .read .unexpectedEof, []⟩ := by
  intro frames
  induction frames with
  | nil =>
    intro _ stream hquiet hstream
    have hnil : delivered stream = [] := hstream
    rw [decode_error (readFrame_eof hquiet hnil), hnil]
  | cons f fs ih =>
    intro hlen stream hquiet hstream
    obtain ⟨hmin, hfit⟩ := hlen f List.mem_cons_self
    rw [List.flatMap_cons] at hstream
    obtain ⟨rest, hread, hquietRest, hrest⟩ := readFrame_frame hmax hmin hfit hquiet hstream
    have htail := ih (fun f' hf' => hlen f' (List.mem_cons_of_mem f hf')) hquietRest hrest
    rw [decode_ok hread (parseFrame_frame hmin), htail]

/-- **What `write_frame` wrote is read back, however the stream is cut into reads.**  Every frame
comes back with its address, port and payload, in order, and the loop ends between two records with
no byte left over. -/
theorem decode_writeFrames {maxFrameLen : Nat} (hmax : maxFrameLen ≤ 65535)
    {frames : List Ipv4Frame}
    (hlen : ∀ f ∈ frames,
      16 ≤ f.payload.length ∧ addressHeaderLen + f.payload.length ≤ maxFrameLen) :
    ∃ bytes, writeFrames frames = .ok bytes ∧
      ∀ stream, Quiet stream → delivered stream = bytes →
        decode maxFrameLen stream = ⟨frames, .read .unexpectedEof, []⟩ := by
  refine ⟨_, writeFrames_eq ?_, ?_⟩
  · intro f hf
    exact Nat.le_trans (hlen f hf).2 hmax
  · intro stream hquiet hstream
    exact decode_frames hmax hlen hquiet hstream

/-- Two replies, cut in the middle of the first header and of the second payload. -/
theorem decode_writeFrames_cut :
    decode 23 [.data [0x17, 0x03], .pending,
        .data ([0x03, 0, 23, 4, 1, 1, 1, 1, 0x27, 0x09] ++ List.replicate 16 7 ++
          [0x17, 0x03, 0x03, 0, 23, 4, 8, 8, 8, 8, 0x27, 0x0a] ++ List.replicate 6 9),
        .data (List.replicate 10 9)]
      = ⟨[⟨0x01010101, 9993, List.replicate 16 7⟩, ⟨0x08080808, 9994, List.replicate 16 9⟩],
        .read .unexpectedEof, []⟩ := by
  obtain ⟨bytes, hwrite, hdecode⟩ := @decode_writeFrames 23 (by decide)
    [⟨0x01010101, 9993, List.replicate 16 7⟩, ⟨0x08080808, 9994, List.replicate 16 9⟩] (by decide)
  cases hwrite
  refine hdecode _ ?_ (by decide)
  intro r hr
  simp only [List.mem_cons, List.not_mem_nil, or_false] at hr
  rcases hr with rfl | rfl | rfl | rfl
  · exact .inr ⟨_, by decide, rfl⟩
  · exact .inl rfl
  · exact .inr ⟨_, by decide, rfl⟩
  · exact .inr ⟨_, by decide, rfl⟩

end ZtPlanet.Relay
