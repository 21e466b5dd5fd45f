import LintChain.Regex.CharSet

/-!
How the characters of a set are spelled in UTF-8: as sequences of byte ranges in ascending order,
each of which spells some of the characters by any choice of its bytes.
-/

namespace LintChain.Regex

structure ByteRange where
  low : Nat
  high : Nat
  deriving DecidableEq

namespace ByteRange

/-- The bytes of a code point that is spelled with `length` of them. -/
def spell (length n : Nat) : List Nat :=
  let continuation (i : Nat) : Nat := 0x80 + (n >>> (6 * i)) % 64
  match length with
  | 1 => [n]
  | 2 => [0xC0 + n >>> 6, continuation 0]
  | 3 => [0xE0 + n >>> 12, continuation 1, continuation 0]
  | _ => [0xF0 + n >>> 18, continuation 2, continuation 1, continuation 0]

/-- The sequence from the bytes of one code point to those of another one of the same length. -/
def sequence (length low high : Nat) : List ByteRange :=
  List.zipWith ByteRange.mk (spell length low) (spell length high)

/-- Splits a range at the blocks of `block` code points into a ragged beginning, whole blocks and a
ragged end, and the whole blocks at larger ones, as often as `levels` tells. -/
def sequences (length : Nat) : Nat → Nat → Nat → Nat → List (List ByteRange)
  | 0, _, low, high => [sequence length low high]
  | levels + 1, block, low, high =>
    if low / block = high / block then [sequence length low high]
    else
      let start := (low + block - 1) / block * block
      let head := if low < start then [sequence length low (start - 1)] else []
      if start / block = high / block then head ++ [sequence length start high]
      else
        let stop := (high + 1) / block * block - 1
        let tail := if stop < high then [sequence length (stop + 1) high] else []
        head ++ sequences length levels (64 * block) start stop ++ tail

/-- The code points spelled with so many bytes; surrogates are spelled with none. -/
def lengths : List (Nat × Nat × Nat) :=
  [(1, 0, 0x7F), (2, 0x80, 0x7FF), (3, 0x800, 0xD7FF), (3, 0xE000, 0xFFFF), (4, 0x10000, 0x10FFFF)]

def ofBounds (bounds : Nat × Nat) : List (List ByteRange) :=
  lengths.flatMap fun (length, first, last) =>
    let low := max bounds.1 first
    let high := min bounds.2 last
    if high < low then []
    else if length = 1 then [[⟨low, high⟩]]
    else sequences length 3 64 low high

def ofSet (s : CharSet) : List (List ByteRange) := s.bounds.flatMap ofBounds

end ByteRange

end LintChain.Regex
