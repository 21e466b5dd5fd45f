import LintChain.Text.Quoted
import LintChain.Toml.Datetime
import LintChain.Toml.Value

/-!
Reading values of an expected type. A document's whole numbers have 128 bits, with a sign or
without; one that needs more cannot be read by anybody, not even by one who skips it.
-/

namespace LintChain.Toml

/-- What was found where something else was expected. -/
inductive Shape
  | integer (n : Int)
  /-- A number of more than 64 bits. -/
  | wideInteger (n : Int)
  /-- A number that needs the sign bit of 128 bits for its size. -/
  | widestInteger (n : Int)
  | float (x : Binary64)
  | boolean (b : Bool)
  | string (text : String)
  | sequence
  | map

def Shape.message : Shape → String
  | integer n => "integer `" ++ toString n ++ "`"
  | wideInteger n => "integer `" ++ toString n ++ "` as i128"
  | widestInteger n => "integer `" ++ toString n ++ "` as u128"
  | float x => "floating point `" ++ x.text ++ "`"
  | boolean b => "boolean `" ++ toString b ++ "`"
  | string text => "string " ++ Text.Quoted.encode false text
  | sequence => "sequence"
  | map => "map"

inductive DecodeError
  | invalidType (found : Shape) (expected : String)
  | invalidValue (n : Int) (expected : String)
  | invalidLength (length : Nat) (expected : String)
  | unknownField (key : String) (known : List String)
  | integerOverflow
  | floatOverflow
  | unsignedTooLarge
  | datetime (cause : DatetimeError)

def DecodeError.message : DecodeError → String
  | invalidType found expected => "invalid type: " ++ found.message ++ ", expected " ++ expected
  | invalidValue n expected =>
    "invalid value: integer `" ++ toString n ++ "`, expected " ++ expected
  | invalidLength length expected =>
    "invalid length " ++ toString length ++ ", expected " ++ expected
  | unknownField key known =>
    "unknown field `" ++ key ++ "`, expected one of " ++
      ", ".intercalate (known.map fun k => "`" ++ k ++ "`")
  | integerOverflow => "integer number overflowed"
  | floatOverflow => "floating-point number overflowed"
  | unsignedTooLarge => "u64 value was too large"
  | datetime cause => cause.message

abbrev Decoded := Except DecodeError

/-- The key under which a date or time shows itself where a table could stand. -/
def datetimeKey : String := "$__toml_private_datetime"

def maxSigned64 : Int := 9223372036854775807

def maxUnsigned64 : Int := 18446744073709551615

def minSigned64 : Int := -9223372036854775808

def minSigned128 : Int := -170141183460469231731687303715884105728

def maxSigned128 : Int := 170141183460469231731687303715884105727

def maxUnsigned128 : Int := 340282366920938463463374607431768211455

def integerShape (n : Int) : Decoded Shape :=
  if n < minSigned128 ∨ maxUnsigned128 < n then .error .integerOverflow
  else if maxSigned128 < n then .ok (.widestInteger n)
  else if n < minSigned64 ∨ maxUnsigned64 < n then .ok (.wideInteger n)
  else .ok (.integer n)

/-- The shape of a value in a document, where a date is a table of one entry. -/
def Value.shape : Value → Decoded Shape
  | .string text => .ok (.string text)
  | .integer n => integerShape n
  | .unreadableInteger => .error .integerOverflow
  | .float x => .ok (.float x)
  | .hugeFloat => .error .floatOverflow
  | .boolean b => .ok (.boolean b)
  | .datetime _ => .ok .map
  | .array _ => .ok .sequence
  | .table _ => .ok .map

def Value.mismatch {α : Type} (v : Value) (expected : String) : Decoded α := do
  let found ← v.shape
  throw (.invalidType found expected)

/-- A whole number from 0 up to a bound. -/
def Value.natural (bound : Nat) (expected : String) (v : Value) : Decoded Nat :=
  match v with
  | .integer n =>
    match integerShape n with
    | .error e => .error e
    | .ok (.integer n) =>
      if n < 0 ∨ (bound : Int) < n then .error (.invalidValue n expected) else .ok n.toNat
    | .ok found => .error (.invalidType found expected)
  | v => v.mismatch expected

def Value.text (v : Value) : Decoded String :=
  match v with
  | .string text => .ok text
  | v => v.mismatch "a string"

def Value.texts (v : Value) : Decoded (List String) :=
  match v with
  | .array items => items.mapM Value.text
  | v => v.mismatch "a sequence"

mutual

/-- What one who skips a value still notices of it. -/
def Value.skip : Value → Decoded Unit
  | .integer n => (integerShape n).map fun _ => ()
  | .unreadableInteger => .error .integerOverflow
  | .hugeFloat => .error .floatOverflow
  | .array items => skipItems items
  | .table entries => skipEntries entries
  | _ => .ok ()

def skipItems : List Value → Decoded Unit
  | [] => .ok ()
  | v :: rest => do
    v.skip
    skipItems rest

def skipEntries : List (String × Value) → Decoded Unit
  | [] => .ok ()
  | (_, v) :: rest => do
    v.skip
    skipEntries rest

end

mutual

/-- What one who keeps a value for later notices of it at once: numbers of more than 64 bits. -/
def Value.keep : Value → Decoded Unit
  | .integer n =>
    match integerShape n with
    | .error e => .error e
    | .ok (.integer _) => .ok ()
    | .ok found => .error (.invalidType found "any value")
  | .unreadableInteger => .error .integerOverflow
  | .hugeFloat => .error .floatOverflow
  | .array items => keepItems items
  | .table entries => keepEntries entries
  | _ => .ok ()

def keepItems : List Value → Decoded Unit
  | [] => .ok ()
  | v :: rest => do
    v.keep
    keepItems rest

def keepEntries : List (String × Value) → Decoded Unit
  | [] => .ok ()
  | (_, v) :: rest => do
    v.keep
    keepEntries rest

end

/-- The date or time that a value kept for later stands for, when a table has the key of one. -/
def Value.asDatetime (v : Value) (size : Nat) : Decoded Value :=
  match v with
  | .string text =>
    match Datetime.parse text.toList with
    | .error e => .error (.datetime e)
    | .ok d =>
      if size = 1 then .ok (.datetime d.text)
      else .error (.invalidLength size "1 element in map")
  | v => v.mismatch "string containing a datetime"

mutual

/-- A value that was kept, when it is taken up again: a number must fit 64 bits with its sign, and
a table whose first key is that of a date or time is one. -/
def Value.settle : Value → Decoded Value
  | .integer n => if maxSigned64 < n then .error .unsignedTooLarge else .ok (.integer n)
  | .array items => (settleItems items).map .array
  | .table [] => .ok (.table [])
  | .table ((key, v) :: rest) =>
    if key = datetimeKey then v.asDatetime (rest.length + 1)
    else do
      let v ← v.settle
      let rest ← settleEntries rest
      return .table ((key, v) :: rest)
  | v => .ok v

def settleItems : List Value → Decoded (List Value)
  | [] => .ok []
  | v :: rest => do
    let v ← v.settle
    let rest ← settleItems rest
    return v :: rest

def settleEntries : List (String × Value) → Decoded (List (String × Value))
  | [] => .ok []
  | (key, v) :: rest => do
    let v ← v.settle
    let rest ← settleEntries rest
    return (key, v) :: rest

end

end LintChain.Toml
