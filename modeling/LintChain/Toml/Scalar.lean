import LintChain.Toml.Datetime
import LintChain.Toml.Value

/-!
Values written as one word: truth values, numbers, dates and times. Digits may be parted by single
underscores, and a decimal number does not start with a needless zero. A word that is put together
like a whole number but is none is refused only by one who wants to read it.
-/

namespace LintChain.Toml

/-! ### Numbers -/

def digitValue? (base : Nat) (c : Char) : Option Nat :=
  let n := c.toNat
  let value :=
    if 48 ≤ n ∧ n ≤ 57 then n - 48
    else if 97 ≤ n ∧ n ≤ 102 then n - 87
    else if 65 ≤ n ∧ n ≤ 70 then n - 55
    else base
  if value < base then some value else none

/-- Digits up to the end of the word, after a digit: underscores stand between two digits. -/
def digitsAfter (base : Nat) : List Char → Option (List Nat)
  | [] => some []
  | '_' :: c :: rest => do
    let d ← digitValue? base c
    return d :: (← digitsAfter base rest)
  | c :: rest => do
    let d ← digitValue? base c
    return d :: (← digitsAfter base rest)

def digits? (base : Nat) : List Char → Option (List Nat)
  | [] => none
  | c :: rest => do
    let d ← digitValue? base c
    return d :: (← digitsAfter base rest)

def valueOf (base : Nat) (digits : List Nat) : Nat := digits.foldl (fun n d => n * base + d) 0

/-- Decimal digits without a needless zero in front. -/
def decimalDigits? (cs : List Char) : Option (List Nat) := do
  let ds ← digits? 10 cs
  if ds.head? = some 0 ∧ ds.length ≠ 1 then none else some ds

def splitSign (cs : List Char) : Bool × List Char :=
  match cs with
  | '-' :: rest => (true, rest)
  | '+' :: rest => (false, rest)
  | cs => (false, cs)

def signed (negative : Bool) (n : Nat) : Int := if negative then -(n : Int) else n

/-- A whole number of another base, after the letter of the base. -/
def radixInteger? (base : Nat) (cs : List Char) : Option Value :=
  if cs.isEmpty then some .unreadableInteger
  else (digits? base cs).map fun ds => .integer (valueOf base ds)

def isExponentMark (c : Char) : Bool := c == 'e' || c == 'E'

def isHexDigit (c : Char) : Bool := (digitValue? 16 c).isSome

/-- Whether underscores stand between hexadecimal digits only, and one of them after plain digits;
the first of these is not a zero, and neither a point nor an exponent follows. -/
def isPartedWord (cs : List Char) : Bool :=
  let rest := cs.dropWhile Char.isDigit
  let parts := rest.splitOn '_'
  cs.head?.any (fun c => c.isDigit && c != '0') && rest.head? == some '_' &&
    rest.all (fun c => c != '.' && !isExponentMark c) &&
    (parts.drop 1).all (fun part => part.head?.any isHexDigit) &&
    (parts.dropLast.drop 1).all (fun part => part.getLast?.any isHexDigit)

def integer? (cs : List Char) : Option Value :=
  match cs with
  | '0' :: 'x' :: rest => radixInteger? 16 rest
  | '0' :: 'o' :: rest => radixInteger? 8 rest
  | '0' :: 'b' :: rest => radixInteger? 2 rest
  | cs =>
    let (negative, rest) := splitSign cs
    match decimalDigits? rest with
    | some ds => some (.integer (signed negative (valueOf 10 ds)))
    | none => if isPartedWord rest then some .unreadableInteger else none

def float? (cs : List Char) : Option Value := do
  let (negative, body) := splitSign cs
  if body = ['i', 'n', 'f'] then return .float (.infinity negative)
  if body = ['n', 'a', 'n'] then return .float .nan
  let mantissa := body.takeWhile (!isExponentMark ·)
  let exponent? := body.drop mantissa.length
  let whole := mantissa.takeWhile (· ≠ '.')
  let fraction? := mantissa.drop whole.length
  let wholeDigits ← decimalDigits? whole
  let fractionDigits ← match fraction? with
    | [] => some []
    | _ :: ds => digits? 10 ds
  let exponent ← match exponent? with
    | [] => if fraction?.isEmpty then none else some 0
    | _ :: cs =>
      let (negative, ds) := splitSign cs
      (digits? 10 ds).map fun ds => signed negative (valueOf 10 ds)
  match Binary64.ofDecimal negative (valueOf 10 (wholeDigits ++ fractionDigits))
      (exponent - fractionDigits.length) with
  | .infinity _ => return .hugeFloat
  | x => return .float x

def datetime? (cs : List Char) : Option Value :=
  match Datetime.parse cs with
  | .ok d => some (.datetime d.text)
  | .error _ => none

/-- The value of a word. -/
def scalar? (cs : List Char) : Option Value :=
  if cs = ['t', 'r', 'u', 'e'] then some (.boolean true)
  else if cs = ['f', 'a', 'l', 's', 'e'] then some (.boolean false)
  else
    ((integer? cs).orElse fun _ => float? cs).orElse fun _ => datetime? cs

end LintChain.Toml
