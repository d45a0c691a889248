import Mathlib.Tactic

/-!
# The marker grammar of JPEG

After `SOI` a stream is a sequence of segments. A segment is a marker, introduced by one or more
bytes `0xFF`, and but for the markers that stand alone a payload behind a length of two bytes, which
counts itself. The size of the image stands in the first start-of-frame segment.
-/

namespace ModelSwitch.Jpeg

abbrev Bytes := List UInt8

/-- A number from its bytes, the most significant first. -/
def ofBytes (bs : Bytes) : ℕ := bs.foldl (fun n b => n * 256 + b.toNat) 0

/-- `TEM`, `RST0` to `RST7`, `SOI` and `EOI`. -/
def standalone (marker : UInt8) : Bool := marker = 0x01 ∨ 0xD0 ≤ marker ∧ marker ≤ 0xD9

/-- `SOF0` to `SOF15`; `DHT`, `JPG` and `DAC` lie between them. -/
def startOfFrame (marker : UInt8) : Bool :=
  0xC0 ≤ marker ∧ marker ≤ 0xCF ∧ marker ≠ 0xC4 ∧ marker ≠ 0xC8 ∧ marker ≠ 0xCC

structure Segment where
  /-- The bytes `0xFF` before the one that introduces the marker. -/
  fill : ℕ := 0
  marker : UInt8
  payload : Bytes := []
  marker_ne : marker ≠ 0x00 ∧ marker ≠ 0xFF
  payload_eq : standalone marker = true → payload = []
  length_lt : payload.length + 2 < 256 * 256
  /-- A frame header has at least the precision, the height and the width. -/
  frame_length : startOfFrame marker = true → 5 ≤ payload.length

namespace Segment

variable (seg : Segment)

def isFrame : Bool := startOfFrame seg.marker

/-- The length field. -/
def lengthBytes : Bytes :=
  [UInt8.ofNat ((seg.payload.length + 2) / 256), UInt8.ofNat ((seg.payload.length + 2) % 256)]

def body : Bytes := if standalone seg.marker then [] else seg.lengthBytes ++ seg.payload

def bytes : Bytes := List.replicate seg.fill 0xFF ++ 0xFF :: seg.marker :: seg.body

/-- Width and height of a frame header. -/
def size : ℕ × ℕ :=
  (ofBytes ((seg.payload.drop 3).take 2), ofBytes ((seg.payload.drop 1).take 2))

end Segment

/-- A stream: what follows the segments matters only before the first frame header. -/
structure Image where
  segments : List Segment
  tail : Bytes := []
  tail_eq : (∀ seg ∈ segments, seg.isFrame = false) → tail = []

namespace Image

variable (image : Image)

def bytes : Bytes := 0xFF :: 0xD8 :: (image.segments.flatMap Segment.bytes ++ image.tail)

/-- The size that a decoder reads. -/
def size : Option (ℕ × ℕ) := (image.segments.find? Segment.isFrame).map Segment.size

end Image

end ModelSwitch.Jpeg
