import ModelSwitch.Lib.Jpeg

/-!
# Image sizes before dispatch

`image_dimensions` and `check_images` of `envelope_validator.py`: the pixel edges are read from the
bytes of the image and checked against the registered envelope.
-/

namespace ModelSwitch.Images

open Jpeg (Bytes ofBytes)

structure EnvelopeError where
  message : String
  code : String := "contract_violation"
  deriving DecidableEq

/-- `EnvelopeError(message, "envelope_exceeded")`. -/
def exceeded (message : String) : EnvelopeError := ⟨message, "envelope_exceeded"⟩

/-- `data[i:j]`. -/
def slice (data : Bytes) (i j : ℕ) : Bytes := (data.drop i).take (j - i)

/-- The loop of `_jpeg_size`, on the bytes from `index` on. -/
def jpegScan (rest : Bytes) : Except EnvelopeError (ℕ × ℕ) :=
  if rest.length < 9 then .error (exceeded "JPEG missing size marker")
  else if rest.getD 0 0 ≠ 0xFF then jpegScan (rest.drop 1)
  else
    let marker := rest.getD 1 0
    if marker = 0xC0 ∨ marker = 0xC1 ∨ marker = 0xC2 then
      let height := ofBytes (slice rest 5 7)
      let width := ofBytes (slice rest 7 9)
      if width < 1 ∨ height < 1 then .error (exceeded "JPEG has invalid dimensions")
      else .ok (width, height)
    else if marker = 0xD8 ∨ marker = 0xD9 ∨ marker < 0xC0 then jpegScan (rest.drop 2)
    else jpegScan (rest.drop (2 + ofBytes (slice rest 2 4)))
termination_by rest.length
decreasing_by all_goals simp only [List.length_drop]; omega

/-- The part of a registered envelope that is about images. -/
structure Envelope where
  maxImages : ℕ
  maxImageEdgePixels : ℕ

end ModelSwitch.Images
