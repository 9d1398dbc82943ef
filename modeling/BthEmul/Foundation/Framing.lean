import BthEmul.Foundation.LittleEndian

/-!
# Frames announced by a header

A frame is a header of fixed length followed by a payload whose length the
header announces. The first bytes of a stream of frames therefore determine
where its first frame ends.
-/

namespace Foundation

/-- A header of fixed length that announces the length of a payload. -/
structure HeaderFormat where
  /-- The length of the header. -/
  headerLength : Nat
  /-- The payload length a header announces. -/
  payloadLength : List UInt8 → Nat

/-- The total length announced at the front of some bytes. -/
def HeaderFormat.announced
    (format : HeaderFormat)
    (bytes : List UInt8) : Nat :=
  format.headerLength + format.payloadLength (bytes.take format.headerLength)

/-- A header with the payload it announces. -/
structure Frame (format : HeaderFormat) where
  /-- The header. -/
  header : List UInt8
  /-- The payload. -/
  payload : List UInt8
  /-- The header has its fixed length. -/
  length_header : header.length = format.headerLength
  /-- The payload has the announced length. -/
  length_payload : payload.length = format.payloadLength header

namespace Frame

/-- The header, then the payload. -/
def bytes (frame : Frame format) : List UInt8 :=
  frame.header ++ frame.payload

theorem length_bytes (frame : Frame format) :
    frame.bytes.length =
      format.headerLength + format.payloadLength frame.header := by
  rw [bytes, List.length_append, frame.length_header, frame.length_payload]

/-- The header stands at the front of the bytes. -/
theorem take_bytes (frame : Frame format) :
    frame.bytes.take format.headerLength = frame.header := by
  rw [bytes, ← frame.length_header, List.take_left]

/-- Whatever begins with the header of a frame announces its length. -/
theorem announced_eq
    {frame : Frame format}
    {stream : List UInt8}
    (front : stream.take format.headerLength = frame.header) :
    format.announced stream = frame.bytes.length := by
  rw [HeaderFormat.announced, front, length_bytes]

end Frame
end Foundation
