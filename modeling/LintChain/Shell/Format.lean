import LintChain.Shell.Arithmetic
import LintChain.Text.Octets
import LintChain.Text.Split

/-!
The texts that `echo` and `printf` write: backslash escapes, and formats whose directives take the
arguments one by one, over and over while there are any left.
-/

namespace LintChain.Shell.Format

open Text (Octets)

/-- The character that a letter after a backslash stands for. -/
def escapedChar? (c : Char) : Option Char :=
  match c with
  | 'a' => some '\x07'
  | 'b' => some '\x08'
  | 'e' => some '\x1b'
  | 'f' => some '\x0c'
  | 'n' => some '\n'
  | 'r' => some '\r'
  | 't' => some '\t'
  | 'v' => some '\x0b'
  | '\\' => some '\\'
  | _ => none

def isOctal (c : Char) : Bool := '0' ≤ c && c ≤ '7'

def octalValue (digits : Octets) : Nat :=
  digits.foldl (fun n c => n * 8 + (c.toNat - '0'.toNat)) 0

/-- The octet that up to `most` octal digits spell, and what follows them. -/
def readOctal (most : Nat) (rest : Octets) : Char × Octets :=
  let digits := (rest.take most).takeWhile isOctal
  (Char.ofNat (octalValue digits % 256), rest.drop digits.length)

/-- A text with escapes read, and whether an escape ended the output. An octal number may have a
zero in front of its three digits. -/
def unescape (fuel : Nat) (text : Octets) : Octets × Bool :=
  match fuel with
  | 0 => ([], false)
  | fuel + 1 =>
    let add (c : Char) (rest : Octets) : Octets × Bool :=
      let (after, stopped) := unescape fuel rest
      (c :: after, stopped)
    match text with
    | [] => ([], false)
    | '\\' :: 'c' :: _ => ([], true)
    | '\\' :: c :: rest =>
      match escapedChar? c with
      | some e => add e rest
      | none =>
        if c = '0' then
          let (e, rest) := readOctal 3 rest
          add e rest
        else if isOctal c then
          let (e, rest) := readOctal 3 (c :: rest)
          add e rest
        else add '\\' (c :: rest)
    | c :: rest => add c rest

/-- What `echo` writes. -/
def echo (args : List Octets) : Octets :=
  let (quiet, args) :=
    match args with
    | ['-', 'n'] :: rest => (true, rest)
    | _ => (false, args)
  let (text, stopped) :=
    let joined := Text.unfields ' ' args
    unescape (joined.length + 1) joined
  if quiet || stopped then text else text ++ ['\n']

/-- A width or precision: a number, or an argument's number. -/
inductive Extent
  | number (n : Nat)
  | argument

structure Directive where
  flags : List Char
  width : Extent
  precision? : Option Extent
  conversion : Char

inductive Piece
  | text (octets : Octets)
  | directive (d : Directive)
  /-- Ends the output with a complaint. -/
  | wrong (problem : Octets)

def readExtent (text : Octets) : Extent × Octets :=
  match text with
  | '*' :: rest => (.argument, rest)
  | text =>
    let digits := text.takeWhile Char.isDigit
    (.number ((Octets.toNat? digits).getD 0), text.drop digits.length)

def conversions : List Char := "diouxXcsbeEfFgGaA".toList

/-- A directive behind its percent sign with what follows it, or what is wrong with it. -/
def readDirective (text : Octets) : Except Octets (Directive × Octets) :=
  let flags := text.takeWhile "-0+ #".toList.contains
  let (width, rest) := readExtent (text.drop flags.length)
  let (precision?, rest) : Option Extent × Octets :=
    match rest with
    | '.' :: rest =>
      let (precision, rest) := readExtent rest
      (some precision, rest)
    | _ => (none, rest)
  match rest with
  | c :: rest =>
    if conversions.contains c then .ok (⟨flags, width, precision?, c⟩, rest)
    else .error ('%' :: text.take (text.length - rest.length) ++ ": invalid directive".toList)
  | [] => .error "missing format character".toList

def pieces (fuel : Nat) (text : Octets) : List Piece :=
  match fuel with
  | 0 => []
  | fuel + 1 =>
    match text with
    | [] => []
    | '%' :: '%' :: rest => .text ['%'] :: pieces fuel rest
    | '%' :: rest =>
      match readDirective rest with
      | .ok (d, rest) => .directive d :: pieces fuel rest
      | .error problem => [.wrong problem]
    | '\\' :: c :: rest =>
      match escapedChar? c with
      | some e => .text [e] :: pieces fuel rest
      | none =>
        if isOctal c then
          let (e, rest) := readOctal 3 (c :: rest)
          .text [e] :: pieces fuel rest
        else .text ['\\', c] :: pieces fuel rest
    | c :: rest => .text [c] :: pieces fuel rest

/-- The number that an argument gives, and what is wrong with it. -/
def argumentNumber (signed : Bool) (arg : Octets) : Int × Option Octets :=
  let problem (text : String) : Option Octets := some (arg ++ ": ".toList ++ text.toList)
  let range : Int × Int :=
    if signed then (-9223372036854775808, 9223372036854775807)
    else (-18446744073709551615, 18446744073709551615)
  match arg with
  | [] => (0, none)
  | '\'' :: rest => ((rest.head?.map fun c => (c.toNat : Int)).getD 0, none)
  | '"' :: rest => ((rest.head?.map fun c => (c.toNat : Int)).getD 0, none)
  | _ =>
    let (sign, digits) : Int × Octets := match Arithmetic.skip arg with
      | '-' :: rest => (-1, rest)
      | '+' :: rest => (1, rest)
      | rest => (1, rest)
    if !digits.head?.any Char.isDigit then (0, problem "expected numeric value")
    else
      let (n, rest) := Arithmetic.spanNumber digits
      let value := sign * (n : Int)
      let kept := max range.1 (min range.2 value)
      let outcome :=
        if rest ≠ [] then problem "not completely converted"
        else if kept ≠ value then problem "Numerical result out of range"
        else none
      (if signed then kept else kept % 18446744073709551616, outcome)

/-- What a format's pieces have written with some arguments. -/
structure Written where
  octets : Octets
  rest : List Octets
  /-- Complaints about arguments. -/
  problems : List Octets
  /-- The complaint that ended the output, or nothing where an escape did. -/
  ended? : Option (Option Octets)

/-- The next argument, and what is left after it. -/
def Written.next (w : Written) : Octets × Written :=
  (w.rest.head?.getD [], { w with rest := w.rest.tail })

def Written.nextNumber (w : Written) (signed : Bool) : Int × Written :=
  let (arg, w) := w.next
  let (n, problem?) := argumentNumber signed arg
  (n, { w with problems := w.problems ++ problem?.toList })

def Written.extent (w : Written) : Extent → Int × Written
  | .number n => (n, w)
  | .argument => w.nextNumber true

/-- How a text or number is filled up. -/
structure Layout where
  left : Bool
  flags : List Char
  width : Nat
  precision? : Option Nat

/-- `text` filled up to the width. -/
def Layout.fill (l : Layout) (text : Octets) : Octets :=
  let blanks := List.replicate (l.width - text.length) ' '
  if l.left then text ++ blanks else blanks ++ text

/-- A number, with what stands in front of its digits, filled up to the width. -/
def Layout.fillNumber (l : Layout) (front digits : Octets) : Octets :=
  let digits := List.replicate (l.precision?.getD 1 - digits.length) '0' ++ digits
  if l.flags.contains '0' && !l.left && l.precision?.isNone then
    front ++ List.replicate (l.width - front.length - digits.length) '0' ++ digits
  else l.fill (front ++ digits)

def Layout.signed (l : Layout) (n : Int) : Octets :=
  let front : Octets :=
    if n < 0 then ['-'] else if l.flags.contains '+' then ['+']
    else if l.flags.contains ' ' then [' '] else []
  l.fillNumber front (Nat.toDigits 10 n.natAbs)

def Layout.unsigned (l : Layout) (conversion : Char) (n : Nat) : Octets :=
  let marked := l.flags.contains '#' && n ≠ 0
  match conversion with
  | 'o' => l.fillNumber [] ((if marked then ['0'] else []) ++ Nat.toDigits 8 n)
  | 'x' => l.fillNumber (if marked then "0x".toList else []) (Nat.toDigits 16 n)
  | 'X' =>
    l.fillNumber (if marked then "0X".toList else []) ((Nat.toDigits 16 n).map Char.toUpper)
  | _ => l.fillNumber [] (Nat.toDigits 10 n)

def Written.add (w : Written) (octets : Octets) : Written := { w with octets := w.octets ++ octets }

/-- Writes what a directive makes of the next arguments. -/
def Written.direct (w : Written) (d : Directive) : Written :=
  let (width, w) := w.extent d.width
  let (precision?, w) := match d.precision? with
    | none => (none, w)
    | some extent =>
      let (n, w) := w.extent extent
      (if n < 0 then none else some n.toNat, w)
  let layout : Layout := ⟨d.flags.contains '-' || width < 0, d.flags, width.natAbs, precision?⟩
  match d.conversion with
  | 's' =>
    let (arg, w) := w.next
    w.add (layout.fill (match precision? with | some n => arg.take n | none => arg))
  | 'b' =>
    let (arg, w) := w.next
    let (text, stopped) := unescape (arg.length + 1) arg
    { w.add (layout.fill text) with ended? := if stopped then some none else none }
  | 'c' =>
    let (arg, w) := w.next
    w.add (layout.fill [arg.head?.getD '\x00'])
  | 'd' | 'i' =>
    let (n, w) := w.nextNumber true
    w.add (layout.signed n)
  | c =>
    let (n, w) := w.nextNumber false
    w.add (layout.unsigned c n.toNat)

/-- One pass over a format. -/
def writeOnce : List Piece → Written → Written
  | [], w => w
  | .text octets :: rest, w => writeOnce rest (w.add octets)
  | .wrong problem :: _, w => { w with ended? := some (some problem) }
  | .directive d :: rest, w =>
    let w := w.direct d
    if w.ended?.isSome then w else writeOnce rest w

def takesArguments (ps : List Piece) : Bool :=
  ps.any fun p => match p with | .directive _ => true | _ => false

/-- Passes over a format until no arguments are left. -/
def writeAll (fuel : Nat) (ps : List Piece) (w : Written) : Written :=
  match fuel with
  | 0 => w
  | fuel + 1 =>
    let w := writeOnce ps w
    if w.ended?.isSome || w.rest.isEmpty || !takesArguments ps then w else writeAll fuel ps w

/-- What `printf` writes, its complaints about arguments, and the one that ended it. -/
def printf (format : Octets) (args : List Octets) : Octets × List Octets × Option Octets :=
  let w := writeAll (args.length + 1) (pieces (format.length + 1) format) ⟨[], args, [], none⟩
  (w.octets, w.problems, w.ended?.join)

end LintChain.Shell.Format
