/-!
The supported linters and their canonical order: import sorting, formatting, syntax upgrades, then
the checkers.
-/

namespace LintChain

inductive Linter
  | isort
  | black
  | pyupgrade
  | flake8
  | prospector
  | pyright
  deriving DecidableEq, Repr

namespace Linter

/-- All linters, in the order in which they run on a file. -/
def all : List Linter := [isort, black, pyupgrade, flake8, prospector, pyright]

def position : Linter → Nat
  | isort => 0
  | black => 1
  | pyupgrade => 2
  | flake8 => 3
  | prospector => 4
  | pyright => 5

def name : Linter → String
  | isort => "isort"
  | black => "black"
  | pyupgrade => "pyupgrade"
  | flake8 => "flake8"
  | prospector => "prospector"
  | pyright => "pyright"

def ofName? (text : String) : Option Linter :=
  all.find? fun l => l.name == text

instance : Ord Linter := ⟨fun a b => compare a.position b.position⟩

instance : ToString Linter := ⟨name⟩

@[simp] theorem mem_all (l : Linter) : l ∈ all := by
  cases l <;> simp [all]

@[simp] theorem ofName?_name (l : Linter) : ofName? l.name = some l := by
  cases l <;> decide

theorem name_of_ofName? {text : String} {l : Linter} (h : ofName? text = some l) :
    l.name = text := by
  have := List.find?_some h
  simpa using this

theorem position_injective {a b : Linter} (h : a.position = b.position) : a = b := by
  cases a <;> cases b <;> simp_all [position]

end Linter

end LintChain
