import LintChain.Unicode.Category

/-!
Text between double quotes, with escapes for what would not be seen on a page or would end the
quotation.
-/

namespace LintChain.Text.Quoted

def hex (n : Nat) : String := String.ofList (Nat.toDigits 16 n)

/-- A character as it stands in a quotation; a single quote is escaped on request. -/
def escape (single : Bool) (c : Char) : String :=
  if c = '\x00' then "\\0"
  else if c = '\t' then "\\t"
  else if c = '\n' then "\\n"
  else if c = '\r' then "\\r"
  else if c = '"' then "\\\""
  else if c = '\\' then "\\\\"
  else if single ∧ c = '\'' then "\\'"
  else if Unicode.isInvisible c then "\\u\x7b" ++ hex c.toNat ++ "\x7d"
  else String.singleton c

def encode (single : Bool) (text : String) : String :=
  "\"" ++ String.join (text.toList.map (escape single)) ++ "\""

/-- A list of quotations in square brackets. -/
def encodeList (single : Bool) (texts : List String) : String :=
  "[" ++ ", ".intercalate (texts.map (encode single)) ++ "]"

end LintChain.Text.Quoted
