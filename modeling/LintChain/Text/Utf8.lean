/-!
Bytes as text. Invalid UTF-8 is read leniently: each longest run of bytes that starts a character
and is then broken off becomes one replacement character, and so does each byte that can start
none.
-/

namespace LintChain.Text.Utf8

/-- A character in progress: the bytes still owed, the range of the next one, the bits so far. -/
structure Pending where
  owed : Nat
  low : UInt8
  high : UInt8
  value : Nat

/-- What a byte does between characters. -/
inductive Start
  | whole (c : Char)
  | opens (p : Pending)
  | stray

def replacement : Char := '\ufffd'

def start (b : UInt8) : Start :=
  if b < 0x80 then .whole (Char.ofNat b.toNat)
  else if 0xC2 ≤ b ∧ b ≤ 0xDF then .opens ⟨1, 0x80, 0xBF, b.toNat % 32⟩
  else if b = 0xE0 then .opens ⟨2, 0xA0, 0xBF, 0⟩
  else if b = 0xED then .opens ⟨2, 0x80, 0x9F, 13⟩
  else if 0xE1 ≤ b ∧ b ≤ 0xEF then .opens ⟨2, 0x80, 0xBF, b.toNat % 16⟩
  else if b = 0xF0 then .opens ⟨3, 0x90, 0xBF, 0⟩
  else if 0xF1 ≤ b ∧ b ≤ 0xF3 then .opens ⟨3, 0x80, 0xBF, b.toNat % 8⟩
  else if b = 0xF4 then .opens ⟨3, 0x80, 0x8F, 4⟩
  else .stray

/-- The text read so far, last character first, and the character in progress. -/
structure Reader where
  text : List Char
  pending : Option Pending

def Reader.begin (r : Reader) (b : UInt8) : Reader :=
  match start b with
  | .whole c => ⟨c :: r.text, none⟩
  | .opens p => ⟨r.text, some p⟩
  | .stray => ⟨replacement :: r.text, none⟩

def Reader.step (r : Reader) (b : UInt8) : Reader :=
  match r.pending with
  | none => r.begin b
  | some p =>
    if p.low ≤ b ∧ b ≤ p.high then
      let value := p.value * 64 + b.toNat % 64
      if p.owed ≤ 1 then ⟨Char.ofNat value :: r.text, none⟩
      else ⟨r.text, some ⟨p.owed - 1, 0x80, 0xBF, value⟩⟩
    else Reader.begin ⟨replacement :: r.text, none⟩ b

def Reader.finish (r : Reader) : List Char :=
  match r.pending with
  | none => r.text.reverse
  | some _ => (replacement :: r.text).reverse

/-- The text of `bytes`, with replacement characters where it is not UTF-8. -/
def decodeLossy (bytes : ByteArray) : String :=
  String.ofList (bytes.foldl Reader.step ⟨[], none⟩).finish

/-- The text of `bytes`, if they are UTF-8. -/
def decode? (bytes : ByteArray) : Option String := String.fromUTF8? bytes

def encode (text : String) : ByteArray := text.toUTF8

end LintChain.Text.Utf8
