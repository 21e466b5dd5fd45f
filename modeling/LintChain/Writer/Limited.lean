import LintChain.Writer.Basic

/-!
A writer with room for a number of lines. It refuses a text whole once that many lines are
complete, for good or only the first time.
-/

namespace LintChain

structure LimitedText where
  text : String
  /-- How many lines there is room for, if there is a limit. -/
  limit? : Option Nat
  /-- Whether only the first write past the limit is refused. -/
  recovers : Bool
  flushFails : Bool

namespace LimitedText

/-- Room for everything. -/
def unlimited : LimitedText := ⟨"", none, false, false⟩

def lineCount (t : LimitedText) : Nat := t.text.toList.count '\n'

def isFull (t : LimitedText) : Bool := t.limit?.any (· ≤ t.lineCount)

/-- The state after a refusal. -/
def refuse (t : LimitedText) : LimitedText :=
  if t.recovers then { t with limit? := none } else t

def write (text : String) (t : LimitedText) : Except WriteError Unit × LimitedText :=
  if t.isFull then (.error ⟨"output limit reached"⟩, t.refuse)
  else (.ok (), { t with text := t.text ++ text })

def flush (t : LimitedText) : Except WriteError Unit × LimitedText :=
  if t.flushFails then (.error ⟨"flush failed"⟩, t) else (.ok (), t)

def writer : Writer LimitedText := ⟨write, flush, text⟩

@[simp] theorem text_refuse (t : LimitedText) : t.refuse.text = t.text := by
  simp only [refuse]
  split <;> rfl

theorem lawful_writer : writer.Lawful where
  accepted_of_ok {text out after} h := by
    simp only [writer, write] at h
    split at h
    · simp at h
    · simp only [Prod.mk.injEq, true_and] at h
      simp [writer, ← h]
  accepted_of_error {text out after e} h := by
    simp only [writer, write] at h
    refine ⟨"", text, by simp, ?_⟩
    split at h
    · simp only [Prod.mk.injEq] at h
      simp [writer, ← h.2]
    · simp at h
  accepted_flush out := by
    simp only [writer, flush]
    split <;> rfl

end LimitedText

end LintChain
