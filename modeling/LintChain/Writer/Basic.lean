/-!
Where the text of a run goes. A writer may refuse a write or a flush; of a text that it refuses it
may still have taken a beginning. A line goes to the writer in pieces, the last of which is the line
feed, so that a writer may take only some of them.
-/

namespace LintChain

/-- A line in the pieces that it is written in, without the line feed that ends it. -/
structure Line where
  pieces : List String

namespace Line

def text (line : Line) : String := String.join line.pieces

/-- A line of one piece. -/
def ofText (text : String) : Line := ⟨[text]⟩

@[simp] theorem text_ofText (s : String) : (ofText s).text = s := by simp [text, ofText]

end Line

/-- Why a writer refused. -/
structure WriteError where
  message : String
  deriving DecidableEq, Repr

/-- A destination for text with states `ω`. -/
structure Writer (ω : Type) where
  write : String → ω → Except WriteError Unit × ω
  flush : ω → Except WriteError Unit × ω
  /-- All that has been taken so far. -/
  accepted : ω → String

namespace Writer

variable {ω : Type}

/-- Writes piece after piece up to the first that is refused. -/
def writePieces (writer : Writer ω) : List String → ω → Except WriteError Unit × ω
  | [], out => (.ok (), out)
  | piece :: rest, out =>
    match writer.write piece out with
    | (.ok (), out) => writer.writePieces rest out
    | (.error e, out) => (.error e, out)

def writeLine (writer : Writer ω) (line : Line) (out : ω) : Except WriteError Unit × ω :=
  writer.writePieces (line.pieces ++ ["\n"]) out

/-- Writes line after line up to the first that is refused. -/
def writeLines (writer : Writer ω) : List Line → ω → Except WriteError Unit × ω
  | [], out => (.ok (), out)
  | line :: rest, out =>
    match writer.writeLine line out with
    | (.ok (), out) => writer.writeLines rest out
    | (.error e, out) => (.error e, out)

@[simp] theorem writePieces_nil (writer : Writer ω) (out : ω) :
    writer.writePieces [] out = (.ok (), out) := rfl

@[simp] theorem writeLines_nil (writer : Writer ω) (out : ω) :
    writer.writeLines [] out = (.ok (), out) := rfl

/-- A writer keeps what it takes: all of a text that it accepts, and of any other a beginning. -/
structure Lawful (writer : Writer ω) : Prop where
  accepted_of_ok {text : String} {out after : ω} (h : writer.write text out = (.ok (), after)) :
    writer.accepted after = writer.accepted out ++ text
  accepted_of_error {text : String} {out after : ω} {e : WriteError}
      (h : writer.write text out = (.error e, after)) :
    ∃ taken left, text = taken ++ left ∧ writer.accepted after = writer.accepted out ++ taken
  accepted_flush (out : ω) : writer.accepted (writer.flush out).2 = writer.accepted out

/-- A writer that takes everything. -/
def collect : Writer String where
  write text out := (.ok (), out ++ text)
  flush out := (.ok (), out)
  accepted out := out

theorem lawful_collect : collect.Lawful where
  accepted_of_ok h := by
    simp only [collect, Prod.mk.injEq, true_and] at h
    exact h.symm
  accepted_of_error h := by simp [collect] at h
  accepted_flush _ := rfl

end Writer

end LintChain
