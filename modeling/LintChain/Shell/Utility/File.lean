import LintChain.Shell.Utility.Filter

/-!
The utilities that name, make, move and remove files.
-/

namespace LintChain.Shell.Utility

open Text (Octets)

def fileName (operand : Octets) : Octets :=
  let trimmed := (operand.reverse.dropWhile (· = '/')).reverse
  if trimmed = [] then (if operand = [] then [] else ['/'])
  else (Text.fields '/' trimmed).getLast?.getD []

/-- The last component of a path, without an ending. -/
def basename (job : Job) : Effect :=
  match (spanOptions job.args).2 with
  | [operand] => job.begin.writeLine (fileName operand)
  | [operand, ending] =>
    let name := fileName operand
    let cut := name.length - ending.length
    job.begin.writeLine (if name.drop cut = ending ∧ cut ≠ 0 then name.take cut else name)
  | _ => job.begin.fail 1 "basename: missing operand".toList

/-- All but the last component of a path. -/
def dirname (job : Job) : Effect :=
  (spanOptions job.args).2.foldl (fun e operand =>
    let trim (text : Octets) : Octets := (text.reverse.dropWhile (· = '/')).reverse
    let trimmed := trim operand
    let front := trimmed.take (trimmed.length - (fileName trimmed).length)
    e.writeLine (
      if front = [] then (if operand.head? = some '/' then ['/'] else ['.'])
      else if trim front = [] then ['/']
      else trim front)) job.begin

/-- Where a file goes when it is put to a path: below it, if that is a directory. -/
def destination (job : Job) (tree : FileTree) (source target : Octets) : Path :=
  let path := job.path target
  if tree.kind? path = some .directory then path.join ⟨(fileName source).toText⟩ else path

def copyFile (job : Job) (e : Effect) (source target : Octets) : Effect :=
  match e.tree.lookUp (job.path source) with
  | .error reason => e.refuse "cp" "cannot stat " source reason
  | .ok (_, .directory ..) =>
    e.fail 1 ("cp: -r not specified; omitting directory ".toList ++ Effect.quotedOperand source)
  | .ok (_, node) =>
    let mode := match node with
      | .file _ mode => mode
      | _ => 0o644
    match e.tree.read (job.path source) with
    | .error reason => e.refuse "cp" "cannot open " source reason
    | .ok bytes =>
      let path := destination job e.tree source target
      let isNew := (e.tree.kind? path).isNone
      e.attempt "cp" "cannot create regular file " target (do
        let tree ← e.tree.write false path bytes
        if isNew then tree.setMode mode path else return tree)

def moveFile (job : Job) (e : Effect) (source target : Octets) : Effect :=
  match e.tree.locate false (job.path source) with
  | .ok ⟨_, some _⟩ =>
    e.attempt "mv" "cannot move " source
      (e.tree.rename (job.path source) (destination job e.tree source target))
  | .ok ⟨_, none⟩ => e.refuse "mv" "cannot stat " source .notFound
  | .error reason => e.refuse "mv" "cannot stat " source reason

/-- Puts each of the first operands to the last one. -/
def eachToLast (job : Job) (utility : String) (f : Effect → Octets → Octets → Effect) : Effect :=
  let operands := (spanOptions job.args).2
  match operands.getLast? with
  | some target =>
    if operands.length < 2 then
      job.begin.fail 1 (utility.toList ++ ": missing destination file operand after ".toList ++
        Effect.quotedOperand target)
    else operands.dropLast.foldl (fun e source => f e source target) job.begin
  | none => job.begin.fail 1 (utility.toList ++ ": missing file operand".toList)

def rm (job : Job) : Effect :=
  let (options, operands) := spanOptions job.args
  let force := hasFlag options 'f'
  let recursive := hasFlag options 'r' || hasFlag options 'R'
  operands.foldl (fun e operand =>
    let path := job.path operand
    match if recursive then e.tree.removeAll path else e.tree.unlink path with
    | .ok tree => { e with tree }
    | .error reason =>
      if force && (reason = .notFound || reason = .notDirectory) then e
      else e.refuse "rm" "cannot remove " operand reason) job.begin

def rmdir (job : Job) : Effect :=
  (spanOptions job.args).2.foldl (fun e operand =>
    let path := job.path operand
    e.attempt "rmdir" "failed to remove " operand (
      match e.tree.lookUp path with
      | .ok (_, .directory _ []) => e.tree.removeAll path
      | .ok (_, .directory ..) => .error .notEmpty
      | .ok _ => .error .notDirectory
      | .error reason => .error reason)) job.begin

def mkdir (job : Job) : Effect :=
  let (options, operands) := spanOptions job.args
  operands.foldl (fun e operand =>
    let path := job.path operand
    if hasFlag options 'p' then
      let tree := e.tree.makeDirectories path
      if tree.kind? path = some .directory then { e with tree }
      else
        e.attempt "mkdir" "cannot create directory " operand (tree.makeDirectory path)
    else e.attempt "mkdir" "cannot create directory " operand (e.tree.makeDirectory path)) job.begin

def touch (job : Job) : Effect :=
  (spanOptions job.args).2.foldl (fun e operand =>
    let path := job.path operand
    if (e.tree.kind? path).isSome then e
    else e.attempt "touch" "cannot touch " operand (e.tree.write true path .empty)) job.begin

def ln (job : Job) : Effect :=
  let (options, operands) := spanOptions job.args
  match operands with
  | [target, name] =>
    let path := destination job job.tree target name
    let tree := if hasFlag options 'f' then
      match job.tree.unlink path with
        | .ok tree => tree
        | .error _ => job.tree
      else job.tree
    let e := { job.begin with tree }
    if hasFlag options 's' then
      e.attempt "ln" "failed to create symbolic link " name (tree.makeLink target.toText path)
    else
      match tree.read (job.path target) with
      | .ok bytes => e.attempt "ln" "failed to create hard link " name (tree.write false path bytes)
      | .error reason => e.refuse "ln" "failed to access " target reason
  | _ => job.begin.fail 1 "ln: missing file operand".toList

def octalMode? (text : Octets) : Option Nat :=
  if text ≠ [] ∧ text.all (fun c => '0' ≤ c && c ≤ '7') then
    some (text.foldl (fun n c => n * 8 + (c.toNat - '0'.toNat)) 0)
  else none

/-- The mode that a change such as `u+x` makes of another. -/
def changedMode (text : Octets) (mode : Nat) : Option Nat :=
  match octalMode? text with
  | some new => some new
  | none =>
    let who := text.takeWhile "ugoa".toList.contains
    let rest := text.drop who.length
    let bits := rest.tail.foldl (fun n c =>
      n ||| (if c = 'r' then 4 else if c = 'w' then 2 else if c = 'x' then 1 else 0)) 0
    let all := who = [] || who.contains 'a'
    let mask := (if all || who.contains 'u' then bits * 64 else 0) |||
      (if all || who.contains 'g' then bits * 8 else 0) |||
      (if all || who.contains 'o' then bits else 0)
    match rest.head? with
    | some '+' => some (mode ||| mask)
    | some '-' => some (mode ^^^ (mode &&& mask))
    | some '=' => some mask
    | _ => none

def chmod (job : Job) : Effect :=
  match job.args with
  | change :: operands =>
    operands.foldl (fun e operand =>
      let path := job.path operand
      match e.tree.lookUp path with
      | .ok (_, node) =>
        let mode := node.mode?.getD 0
        match changedMode change mode with
        | some new => e.attempt "chmod" "changing permissions of " operand (e.tree.setMode new path)
        | none => e.fail 1 ("chmod: invalid mode: ".toList ++ Effect.quotedOperand change)
      | .error reason => e.refuse "chmod" "cannot access " operand reason) job.begin
  | [] => job.begin.fail 1 "chmod: missing operand".toList

/-- The names in a directory, hidden ones left out. -/
def ls (job : Job) : Effect :=
  let operands := (spanOptions job.args).2
  let operands := if operands.isEmpty then [['.']] else operands
  operands.foldl (fun e operand =>
    match e.tree.lookUp (job.path operand) with
    | .ok (_, .directory mode entries) =>
      let names := (entries.map fun (name, _) => Octets.ofString name).filter (·.head? ≠ some '.')
      if FileTree.allows mode 4 then e.write (unlines (names.mergeSort Octets.isOrdered))
      else { e.refuse "ls" "cannot open directory " operand .denied with status := 2 }
    | .ok _ => e.writeLine operand
    | .error reason => { e.refuse "ls" "cannot access " operand reason with status := 2 }) job.begin

end LintChain.Shell.Utility
