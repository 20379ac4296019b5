import PointerOrigins.Unicode.Ranges

/-!
Characters as bytes: a character is written with one to four bytes, and a range of characters as
sequences of byte ranges.
-/

namespace PointerOrigins.Unicode

/-- The bytes of a character. -/
def utf8Bytes (code : Nat) : List Nat :=
  if code < 0x80 then [code]
  else if code < 0x800 then [0xC0 + code / 64, 0x80 + code % 64]
  else if code < 0x10000 then [0xE0 + code / 4096, 0x80 + code / 64 % 64, 0x80 + code % 64]
  else
    [0xF0 + code / 262144, 0x80 + code / 4096 % 64, 0x80 + code / 64 % 64, 0x80 + code % 64]

/-- The characters that are written with equally many bytes and that no gap divides. -/
def utf8Planes : List Range :=
  [⟨0, 0x7F⟩, ⟨0x80, 0x7FF⟩, ⟨0x800, 0xD7FF⟩, ⟨0xE000, 0xFFFF⟩, ⟨0x10000, maxCode⟩]

/-- The parts of a range in the planes. -/
def planeParts (r : Range) : List Range :=
  (utf8Planes.map fun plane => ⟨max r.lo plane.lo, min r.hi plane.hi⟩).filter fun part =>
    part.lo ≤ part.hi

/-- Cuts a range so that each piece either lies within one block of some size or is made of whole ones,
for block after block.
-/
def cutAtBlocks : List Nat → Nat → Nat → List Range
  | [], lo, hi => [⟨lo, hi⟩]
  | block :: larger, lo, hi =>
      if lo / block = hi / block then [⟨lo, hi⟩]
      else
        let first := (lo + block - 1) / block * block
        let last := (hi + 1) / block * block
        let head := if lo < first then [⟨lo, first - 1⟩] else []
        let tail := if last ≤ hi then [⟨last, hi⟩] else []
        let middle := if first < last then cutAtBlocks larger first (last - 1) else []
        head ++ middle ++ tail

/-- The sequences of byte ranges that a range of characters is written as. -/
def byteSequences (r : Range) : List (List Range) :=
  (planeParts r).flatMap fun part =>
    if part.hi < 0x80 then [[part]]
    else
      (cutAtBlocks [64, 4096, 262144] part.lo part.hi).map fun piece =>
        List.zipWith Range.mk (utf8Bytes piece.lo) (utf8Bytes piece.hi)

end PointerOrigins.Unicode
