import LintChain.Text.Utf8

/-!
Bytes as characters: a list of octets is a list of characters below 256, each standing for the byte
of its number.
-/

namespace LintChain.Text

abbrev Octets := List Char

namespace Octets

def ofBytes (bytes : ByteArray) : Octets := bytes.toList.map fun b => Char.ofNat b.toNat

def toBytes (octets : Octets) : ByteArray :=
  octets.foldl (fun bytes c => bytes.push (UInt8.ofNat c.toNat)) ByteArray.empty

def ofString (text : String) : Octets := ofBytes text.toUTF8

/-- The text that octets spell in UTF-8, invalid ones replaced. -/
def toText (octets : Octets) : String := Utf8.decodeLossy octets.toBytes

/-- The octets of a number in decimal. -/
def ofNat (n : Nat) : Octets := (toString n).toList

/-- The number that octets spell in decimal, if they are digits. -/
def toNat? (octets : Octets) : Option Nat :=
  if octets ≠ [] ∧ octets.all Char.isDigit then
    some (octets.foldl (fun n c => n * 10 + (c.toNat - '0'.toNat)) 0)
  else none

/-- The number that octets spell in decimal, a sign in front allowed. -/
def toInt? (octets : Octets) : Option Int :=
  match octets with
  | '-' :: digits => (toNat? digits).map fun n => -(n : Int)
  | '+' :: digits => (toNat? digits).map Int.ofNat
  | digits => (toNat? digits).map Int.ofNat

def ofInt (n : Int) : Octets := (toString n).toList

/-- Whether octets sort before others or are the same. -/
def isOrdered (a b : Octets) : Bool := !decide (b < a)

end Octets

end LintChain.Text
