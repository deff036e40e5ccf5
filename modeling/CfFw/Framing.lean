import CfFw.Protocol

/-! Length-prefixed JSON frames, from `ipc/framing.rs`. The JSON encoder and
decoder belong to another crate and are parameters. -/
namespace CfFw

def lengthPrefixBytes : Nat := 4

/-- A reader: the bytes it still yields, and the error it yields after them. At
end of file `read_exact` reports `UnexpectedEof`. -/
structure Stream where
  bytes : List UInt8
  failure : FwError

/-- The reader of a connection whose peer closed it after these bytes. -/
def Stream.closed (bytes : List UInt8) : Stream := ⟨bytes, .io .unexpectedEof "early eof"⟩

/-- `AsyncReadExt::read_exact`. -/
def readExact (stream : Stream) (count : Nat) : Result (List UInt8 × Stream) :=
  if count ≤ stream.bytes.length then
    .ok (stream.bytes.take count, { stream with bytes := stream.bytes.drop count })
  else .error stream.failure

/-- `u32::from_be_bytes`, as a length. -/
def fromBeBytes (header : List UInt8) : Nat :=
  header.foldl (fun value byte => value * 256 + byte.toNat) 0

/-- `framing.rs::validate_payload_len`. -/
def validatePayloadLen (payloadLen : Nat) : Result Unit :=
  if payloadLen = 0 then .error (.protocol "zero-length IPC frame")
  else if payloadLen > maxIpcFrame then
    .error (.protocol s!"IPC frame is {payloadLen} bytes; maximum is {maxIpcFrame}")
  else .ok ()

/-- `u32::to_be_bytes`. -/
def toBeBytes (value : UInt32) : List UInt8 :=
  [(value >>> 24).toUInt8, (value >>> 16).toUInt8, (value >>> 8).toUInt8, value.toUInt8]

variable {α : Type}

/-- `framing.rs::encode_frame`, for a JSON encoder. -/
def encodeFrame (toVec : Envelope α → Except String (List UInt8)) (envelope : Envelope α) :
    Result (List UInt8) := do
  envelope.validateVersion
  let payload ← (toVec envelope).mapError .json
  validatePayloadLen payload.length
  return toBeBytes (UInt32.ofNat payload.length) ++ payload

/-- `framing.rs::decode_payload`, for a JSON decoder. -/
def decodePayload (fromSlice : List UInt8 → Except String (Envelope α)) (payload : List UInt8) :
    Result (Envelope α) :=
  match fromSlice payload with
  | .error details => .error (.json details)
  | .ok envelope =>
    match envelope.validateVersion with
    | .error error => .error error
    | .ok () => .ok envelope

/-- `framing.rs::read_frame`: the frame and the reader after it. -/
def readFrame (fromSlice : List UInt8 → Except String (Envelope α)) (stream : Stream) :
    Result (Envelope α × Stream) := do
  let (header, stream) ← readExact stream lengthPrefixBytes
  let payloadLen := fromBeBytes header
  validatePayloadLen payloadLen
  let (payload, stream) ← readExact stream payloadLen
  let envelope ← decodePayload fromSlice payload
  return (envelope, stream)

/-- `framing.rs::decode_frame`. Its sum cannot overflow after the check of the
payload length. -/
def decodeFrame (fromSlice : List UInt8 → Except String (Envelope α)) (frame : List UInt8) :
    Result (Envelope α) :=
  if frame.length < lengthPrefixBytes then .error (.protocol "incomplete IPC frame header")
  else do
    let payloadLen := fromBeBytes (frame.take lengthPrefixBytes)
    validatePayloadLen payloadLen
    let expectedLen := lengthPrefixBytes + payloadLen
    if frame.length ≠ expectedLen then
      .error (.protocol (s!"IPC frame length mismatch: header declares {payloadLen} bytes, " ++
        s!"received {frame.length - lengthPrefixBytes}"))
    else decodePayload fromSlice (frame.drop lengthPrefixBytes)

end CfFw
