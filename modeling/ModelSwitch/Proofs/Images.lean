import ModelSwitch.Lib.Except
import ModelSwitch.Program.Images

/-!
# Declared and decoded image sizes

`_jpeg_size` gets from one segment to the next as long as it meets no fill byte and no restart
marker, and no reserved marker before bytes that look like a marker (`jpegScan_skip`). Up to the
first other segment, or the first frame header, it is in step with the grammar; there the size is
right if the header is of the first three kinds. At any other segment the scanner goes on at bytes
that are no marker of the stream, and what it finds is up to these bytes: the size is right if it
finds none, as in fewer than nine bytes, or the one of the frame header by luck.
-/

namespace ModelSwitch.Images

open Jpeg (Bytes ofBytes Segment Image standalone startOfFrame)

/-- A segment from which `_jpeg_size` gets to the next one. A marker below `0xC0` is read as
standing alone, and the bytes of its length and payload are passed over one by one. -/
def followed (seg : Segment) : Bool :=
  seg.fill = 0 ∧ if seg.marker < 0xC0 then 0xFF ∉ seg.body
    else ¬ (0xD0 ≤ seg.marker ∧ seg.marker ≤ 0xD7)

/-- A frame header that `_jpeg_size` sees: `SOF0` to `SOF2`, introduced by a single `0xFF`. -/
def known (seg : Segment) : Bool :=
  seg.fill = 0 ∧ (seg.marker = 0xC0 ∨ seg.marker = 0xC1 ∨ seg.marker = 0xC2)

def skipped (seg : Segment) : Bool := followed seg && !seg.isFrame

/-- The segments from the first frame header on, or the first segment that is not followed. -/
def reached (segs : List Segment) : List Segment := segs.dropWhile skipped

/-- The scanner gets to a frame header that it knows, or finds no wrong size in the bytes of what it
does not know. -/
def Sound (image : Image) : Prop :=
  match reached image.segments with
  | [] => True
  | seg :: segs => known seg = true ∨
    ∀ size, jpegScan ((seg :: segs).flatMap Segment.bytes ++ image.tail) = .ok size →
      image.size = some size

variable {seg : Segment} {rest : Bytes}

/-- `SOF0` for 512 by 256 pixels of one component. -/
def baseline : Segment :=
  ⟨0, 0xC0, [8, 1, 0, 2, 0, 1, 1, 17, 0], by decide, by decide, by decide, by decide⟩

end ModelSwitch.Images
