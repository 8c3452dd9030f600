import ClassVerification.Url.Label.Mark

/-!
The direction in which the code points of a label run, and when a label that runs from right to
left can be told apart however it is shown. The tables speak of the code points that may stand in
a label.
-/

namespace ClassVerification.Label

inductive Direction where
  | left
  | right
  | arabic
  | digit
  | arabicDigit
  | separator
  | neutral
  | boundary
  | mark
deriving DecidableEq, Repr

/-- Letters that run from right to left, those of the Arabic kind left out. -/
def rightRanges : Ranges := [
  (0x5D0, 0x5F4), (0x7C0, 0x7EA), (0x7F4, 0x7F5), (0x800, 0x815), (0x81A, 0x81A), (0x824, 0x824),
  (0x828, 0x828), (0x840, 0x858), (0x10800, 0x10A00), (0x10A10, 0x10A35), (0x10A60, 0x10AE4),
  (0x10B00, 0x10CF2), (0x10E80, 0x10EA9), (0x10EB0, 0x10F27), (0x10F70, 0x10F81),
  (0x10FB0, 0x10FF6), (0x1E800, 0x1E8C4), (0x1E922, 0x1E943), (0x1E94B, 0x1E959)]

/-- Letters of the Arabic kind. -/
def arabicRanges : Ranges := [
  (0x620, 0x64A), (0x66E, 0x66F), (0x671, 0x6D5), (0x6E5, 0x6E6), (0x6EE, 0x6EF), (0x6FA, 0x710),
  (0x712, 0x72F), (0x74D, 0x7A5), (0x7B1, 0x7B1), (0x860, 0x88E), (0x8A0, 0x8C9),
  (0xFE73, 0xFE73), (0x10D00, 0x10D23), (0x10F30, 0x10F45)]

/-- Code points without a direction. -/
def neutralRanges : Ranges := [
  (0xB7, 0xB7), (0x2B9, 0x2BA), (0x2C6, 0x2CF), (0x2EC, 0x2EC), (0x375, 0x375), (0x2E2F, 0x2E2F),
  (0x30FB, 0x30FB), (0xA67F, 0xA67F), (0xA717, 0xA71F), (0xA788, 0xA788)]

/-- Digits that run from left to right. -/
def digitRanges : Ranges := [
  (0x30, 0x39), (0x6F0, 0x6F9)]

/-- Arabic digits. -/
def arabicDigitRanges : Ranges := [
  (0x660, 0x669), (0x10D30, 0x10D39)]

/-- Marks that take part in the direction from left to right. -/
def leftMarks : List Nat := [0xCBF, 0xCC6, 0x11A07, 0x11A08, 0x11C3F]

def direction (c : CodePoint) : Direction :=
  let n := c.value
  if n = 0x2D then .separator
  else if n = 0x200C || n = 0x200D then .boundary
  else if Ranges.has digitRanges n then .digit
  else if Ranges.has arabicDigitRanges n then .arabicDigit
  else if Ranges.has rightRanges n then .right
  else if Ranges.has arabicRanges n then .arabic
  else if Ranges.has neutralRanges n then .neutral
  else if isNonspacing c && !leftMarks.contains n then .mark
  else .left

end ClassVerification.Label
