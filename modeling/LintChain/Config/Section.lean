import LintChain.Linter
import LintChain.Toml.Decode

/-!
The `[tool.lint]` section of a manifest as it is written: the five settings of the whole run, and
every other key with its value, to be read later as the table of a linter. A list stands for a
table of fixed fields when it gives all of them in order.
-/

namespace LintChain.Config

open Toml (Value Table Decoded DecodeError)

/-- The `bootstrap` table. -/
structure RetrySection where
  retries : Option Nat
  backoffMillis : Option Nat
  maxBackoffMillis : Option Nat

namespace RetrySection

def empty : RetrySection := ⟨none, none, none⟩

def expected : String := "struct BootstrapSection"

def fields : List String := ["retries", "backoff_ms", "max_backoff_ms"]

def readRetries (v : Value) : Decoded Nat := v.natural 4294967295 "u32"

def readMillis (v : Value) : Decoded Nat := v.natural 18446744073709551615 "u64"

def setField (s : RetrySection) (entry : String × Value) : Decoded RetrySection :=
  match entry with
  | ("retries", v) => (readRetries v).map fun n => { s with retries := some n }
  | ("backoff_ms", v) => (readMillis v).map fun n => { s with backoffMillis := some n }
  | ("max_backoff_ms", v) => (readMillis v).map fun n => { s with maxBackoffMillis := some n }
  | (key, _) => .error (.unknownField key fields)

def ofTable (t : Table) : Decoded RetrySection := t.foldlM setField empty

def ofItems (items : List Value) : Decoded RetrySection := do
  let short {α : Type} (n : Nat) : Decoded α :=
    .error (.invalidLength n "struct BootstrapSection with 3 elements")
  match items with
  | [] => short 0
  | a :: rest =>
    let retries ← readRetries a
    match rest with
    | [] => short 1
    | b :: rest =>
      let backoff ← readMillis b
      match rest with
      | [] => short 2
      | c :: _ =>
        let most ← readMillis c
        return ⟨some retries, some backoff, some most⟩

def ofValue (v : Value) : Decoded RetrySection :=
  match v with
  | .table t => ofTable t
  | .array items => ofItems items
  | .datetime _ => .error (.unknownField Toml.datetimeKey fields)
  | v => v.mismatch expected

end RetrySection

structure Section where
  include? : Option String
  exclude? : Option (List String)
  jobs? : Option Nat
  timeout? : Option Nat
  retrySection? : Option RetrySection
  /-- The keys that name no setting, in ascending order. -/
  others : Table

namespace Section

def empty : Section := ⟨none, none, none, none, none, []⟩

def setEntry (s : Section) (entry : String × Value) : Decoded Section :=
  match entry with
  | ("include", v) => v.text.map fun text => { s with include? := some text }
  | ("exclude", v) => v.texts.map fun texts => { s with exclude? := some texts }
  | ("jobs", v) =>
    (v.natural 18446744073709551615 "usize").map fun n => { s with jobs? := some n }
  | ("timeout", v) =>
    (v.natural 18446744073709551615 "u64").map fun n => { s with timeout? := some n }
  | ("bootstrap", v) => (RetrySection.ofValue v).map fun r => { s with retrySection? := some r }
  | (key, v) => v.keep.map fun _ => { s with others := s.others ++ [(key, v)] }

/-- The values kept for later are taken up again only after all keys are read. -/
def ofTable (t : Table) : Decoded Section := do
  let s ← t.foldlM setEntry empty
  let others ← Toml.settleEntries s.others
  return { s with others := others }

def ofValue (v : Value) : Decoded Section :=
  match v with
  | .table t => ofTable t
  | .datetime text => ofTable [(Toml.datetimeKey, .string text)]
  | v => v.mismatch "struct LintSection"

/-- Of the `tool` table only the key `lint` matters. -/
def toolEntry (s : Section) (entry : String × Value) : Decoded Section :=
  match entry with
  | ("lint", v) => ofValue v
  | (_, v) => v.skip.map fun _ => s

def ofTool (v : Value) : Decoded Section :=
  match v with
  | .table t => t.foldlM toolEntry empty
  | .array [] => .error (.invalidLength 0 "struct ToolTable with 1 element")
  | .array (v :: _) => ofValue v
  | .datetime _ => .ok empty
  | v => v.mismatch "struct ToolTable"

def documentEntry (s : Section) (entry : String × Value) : Decoded Section :=
  match entry with
  | ("tool", v) => ofTool v
  | (_, v) => v.skip.map fun _ => s

def ofDocument (t : Table) : Decoded Section := t.foldlM documentEntry empty

end Section

/-! ### Linter tables -/

/-- The table of a linter: what the user sets differently from the catalog. -/
structure Override where
  enabled? : Option Bool
  /-- Another name of `enabled`, which wins over it. -/
  run? : Option Bool
  options? : Option (List String)
  include? : Option String
  executable? : Option String

/-- Why the table of a linter is refused, and under which of its keys. -/
structure OverrideError where
  cause : DecodeError
  key : Option String

/-- The message in the pieces that it is written in. -/
def OverrideError.pieces (e : OverrideError) : List String :=
  let place := match e.key with
    | some key => ["in `" ++ key ++ "`\n"]
    | none => []
  e.cause.message :: "\n" :: place

namespace Override

def empty : Override := ⟨none, none, none, none, none⟩

def fields : List String := ["enabled", "run", "options", "include", "executable"]

/-- The value of a linter's table where a date is text. -/
def plain (v : Value) : Value :=
  match v with
  | .datetime text => .string text
  | v => v

def readFlag (v : Value) : Decoded Bool :=
  match plain v with
  | .boolean b => .ok b
  | v => v.mismatch "a boolean"

def readText (v : Value) : Decoded String := (plain v).text

def readTexts (v : Value) : Decoded (List String) :=
  match plain v with
  | .array items => items.mapM readText
  | v => v.mismatch "a sequence"

/-- Sets one field; `none` when there is no field of that name. -/
def setField? (o : Override) (key : String) (v : Value) : Option (Decoded Override) :=
  match key with
  | "enabled" => some ((readFlag v).map fun b => { o with enabled? := some b })
  | "run" => some ((readFlag v).map fun b => { o with run? := some b })
  | "options" => some ((readTexts v).map fun ts => { o with options? := some ts })
  | "include" => some ((readText v).map fun t => { o with include? := some t })
  | "executable" => some ((readText v).map fun t => { o with executable? := some t })
  | _ => none

def setEntry (o : Override) (entry : String × Value) : Except OverrideError Override :=
  match setField? o entry.1 entry.2 with
  | none => .error ⟨.unknownField entry.1 fields, none⟩
  | some (.ok o) => .ok o
  | some (.error e) => .error ⟨e, some entry.1⟩

/-- Takes the fields in order from a list. -/
def setItems (o : Override) (length : Nat) :
    List String → List Value → Except OverrideError Override
  | [], [] => .ok o
  | [], _ :: _ => .error ⟨.invalidLength length "fewer elements in array", none⟩
  | _ :: _, [] => .error ⟨.invalidLength length "struct LinterOverride with 5 elements", none⟩
  | key :: keys, v :: rest =>
    match setField? o key v with
    | some (.ok o) => setItems o length keys rest
    | some (.error e) => .error ⟨e, none⟩
    | none => .error ⟨.unknownField key fields, none⟩

def ofValue (v : Value) : Except OverrideError Override :=
  match plain v with
  | .table t => t.foldlM setEntry empty
  | .array items => setItems empty items.length fields items
  | v =>
    match (v.mismatch "struct LinterOverride" : Decoded Override) with
    | .ok o => .ok o
    | .error e => .error ⟨e, none⟩

end Override

end LintChain.Config
