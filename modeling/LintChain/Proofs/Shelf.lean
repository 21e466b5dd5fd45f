import LintChain.Proofs.Isolation
import LintChain.Run

/-!
A small machine: one directory of text files, and a directory of programs. Every program tells a
version and ends the last line of the file that its last argument names. On it an invocation reads
and writes its own file only.
-/

namespace LintChain

/-- The files of the directory, by their names. -/
abbrev Shelf := List (String × String)

namespace Shelf

def get? (shelf : Shelf) (name : String) : Option String :=
  (shelf.find? (·.1 = name)).map (·.2)

/-- Changes the text of one file. -/
def edit (f : String → String) (name : String) (shelf : Shelf) : Shelf :=
  shelf.map fun entry => (entry.1, if entry.1 = name then f entry.2 else entry.2)

lemma get?_edit (f : String → String) (name key : String) (shelf : Shelf) :
    (shelf.edit f name).get? key =
      if key = name then (shelf.get? key).map f else shelf.get? key := by
  simp only [get?, edit, List.find?_map, Function.comp_def]
  cases h : shelf.find? (·.1 = key) with
  | none => simp
  | some entry =>
    have hkey : entry.1 = key := by simpa using List.find?_some h
    by_cases hname : key = name <;> simp [hkey, hname]

def directory : Path := ⟨"/shelf"⟩

/-- The name of the file at a path, if the path is one of a file in the directory. -/
def nameOf? (path : Path) : Option String :=
  match path.components.filter (· ≠ .current) with
  | [.root, .name "shelf", .name name] => some name
  | _ => none

/-- What the machine is like at a path. -/
def textAt? (shelf : Shelf) (name? : Option String) : Option String := name?.bind shelf.get?

/-- The file that a process works on. -/
def fileOf? (command : Command) : Option String :=
  command.args.getLast?.bind fun argument => nameOf? (command.cwd.join ⟨argument⟩)

def endLine (text : String) : String := if text.endsWith "\n" then text else text ++ "\n"

/-- What a process leaves behind. -/
def after (command : Command) (shelf : Shelf) : Shelf :=
  match fileOf? command with
  | some name => shelf.edit endLine name
  | none => shelf

def output : Output := ⟨some 0, "99.0.0\n", ""⟩

def host : Host Shelf where
  kind? shelf path :=
    if path.components.filter (· ≠ .current) = directory.components then some .directory
    else (shelf.textAt? (nameOf? path)).map fun _ => .file
  list shelf _ := .directory (shelf.map fun (name, _) => (name, .file))
  canonical? _ path := some path
  read shelf path :=
    match shelf.textAt? (nameOf? path) with
    | some text => .ok text.toUTF8
    | none => .error .notFound
  isExecutable _ path := path.parent? = some ⟨"/bin"⟩
  run command shelf := (.ok output, after command shelf)
  runWithin _ command shelf := (.ok (some output), after command shelf)
  pause _ shelf := shelf

/-- A run on the machine whose text is collected. -/
def setting : Setting Shelf String := ⟨host, ⟨directory, [("PATH", "/bin")], none⟩, .collect⟩

lemma perform_eq (command : Command) (shelf : Shelf) :
    host.perform command shelf = (.ok output, after command shelf) := by
  unfold Host.perform
  cases command.timeout? <;> rfl

lemma textAt?_after (command : Command) (shelf : Shelf) (name? : Option String) :
    (after command shelf).textAt? name? =
      if name?.isSome ∧ name? = fileOf? command then (shelf.textAt? name?).map endLine
      else shelf.textAt? name? := by
  unfold after
  cases name? <;> cases fileOf? command <;> simp [textAt?, get?_edit]

/-- A shelf with one file, and with a manifest that keeps one tool. -/
def single : Shelf :=
  [("pyproject.toml", "[tool.lint]\nisort.run=false\n" ++
    "black.run=false\npyupgrade.run=false\nprospector.run=false\npyright.run=false"),
    ("a.py", "x = 1\n")]

/-- The file is named, and the probes are asked for too. -/
def singleInvocation : Invocation := ⟨directory, [⟨"a.py"⟩], true, none, none⟩

/-- An invocation reads and writes its own file only, if the working directory is where the
targets were found from. -/
lemma confined (env : Environment) (plan : Plan) {targets : List Target}
    (h : ∀ t ∈ targets, plan.cwd.join t.path = t.absolute) :
    Confined host env plan targets (fun t => nameOf? t.absolute) textAt? := by
  have hfile : ∀ planned : PlannedLinter, ∀ t ∈ targets,
      fileOf? (plan.toolCommand env planned t) = nameOf? t.absolute := by
    intro planned t ht
    simp [fileOf?, Plan.toolCommand, Plan.command, h t ht]
  refine ⟨fun ht _ _ hview => ?_, fun _ _ _ _ _ _ => ?_, fun {planned} _ {t} ht _ _ hview => ?_,
    fun {planned} _ {t} ht _ k hk => ?_⟩
  · simp only [host, hview]
  · rw [perform_eq, perform_eq]
  · simp only [perform_eq, textAt?_after, hview]
  · rw [perform_eq, textAt?_after, hfile planned t ht, if_neg fun h => hk h.2]

end Shelf

/-- What has been computed is there, and has what was checked of it. -/
lemma exists_ok_of_check {ε α : Type} {x : Except ε α} {check : α → Bool}
    (h : (match x with
      | .ok a => check a
      | .error _ => false) = true) : ∃ a, x = .ok a ∧ check a = true := by
  cases x with
  | error e => cases h
  | ok a => exact ⟨a, rfl, h⟩

end LintChain
