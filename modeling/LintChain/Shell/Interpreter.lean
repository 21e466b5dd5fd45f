import LintChain.Shell.Lookup
import LintChain.Shell.Utility

/-!
Running scripts and other programs on a tree of files. Every step uses up fuel; a program that has
none left is taken to run on until its time is up.
-/

namespace LintChain.Shell

open Text (Octets)

/-- The interpreter that a script's first line names, with its argument. -/
def interpreter? (text : Octets) : Option (Octets × List Octets) :=
  match text with
  | '#' :: '!' :: rest =>
    let isBlank (c : Char) : Bool := c = ' ' || c = '\t'
    let line := (rest.takeWhile (· ≠ '\n')).dropWhile isBlank
    let program := line.takeWhile fun c => !isBlank c
    let after := (line.drop program.length).dropWhile isBlank
    let argument := (after.reverse.dropWhile isBlank).reverse
    some (program, if argument = [] then [] else [argument])
  | _ => none

/-- Without the line ends at its end. -/
def trimLines (text : Octets) : Octets := (text.reverse.dropWhile (· = '\n')).reverse

def hasOutput : List Part → Bool
  | [] => false
  | .output .. :: _ => true
  | _ :: rest => hasOutput rest

/-- What is said when a file cannot be opened. -/
def openMessage (creating : Bool) (operand : Octets) (reason : SystemError) : Octets :=
  let what := if creating then "cannot create " else "cannot open "
  let why :=
    match creating, reason with
    | true, .notFound => "Directory nonexistent"
    | false, .notFound => "No such file"
    | _, _ => reason.text
  what.toList ++ operand ++ ": ".toList ++ why.toList

mutual

/-- The elements of a word. -/
def expand (fuel : Nat) (splitting : Bool) (word : List Part) (s : State) : List Element × State :=
  match fuel with
  | 0 => ([], { s with flow := .late })
  | fuel + 1 =>
    match word with
    | [] => ([], s)
    | part :: rest =>
      let (first, s) := expandPart fuel splitting part s
      let (others, s) := expand fuel splitting rest s
      (first ++ others, s)

def expandPart (fuel : Nat) (splitting : Bool) (part : Part) (s : State) : List Element × State :=
  match fuel with
  | 0 => ([], { s with flow := .late })
  | fuel + 1 =>
    match part with
    | .text true octets => (Element.quote octets, s)
    | .text false octets => (octets.map fun c => .char c false, s)
    | .output quoted script =>
      let (_, inner) := s.copied.capture
      let (text, inner) := (finish fuel (run fuel script inner)).release
      let separators? := s.separators? splitting
      (Element.ofValue quoted separators? (trimLines (text.filter (· ≠ '\x00'))), s.rejoin inner)
    | .number quoted expression =>
      let (elements, s) := expand fuel false expression s
      let text := Element.octets elements
      match Arithmetic.evaluate (fun name => (s.parameter? name).getD []) text with
      | .ok (n, assigned) =>
        let after := assigned.foldl (fun (s : State) (name, n) =>
          s.assignFree s.line name (Octets.ofInt n)) s
        (Element.ofValue quoted (s.separators? splitting) (Octets.ofInt n), after)
      | .error failure => ([], s.abort s.line (failure.message text))
    | .parameter quoted name form =>
      let value? := s.parameter? name
      let separators? := s.separators? splitting
      let isSet (empty : Bool) : Bool := value?.any fun v => !empty || v ≠ []
      let all := name = ['@'] || (name = ['*'] && !quoted)
      let value :=
        if all then s.allArguments quoted splitting name
        else Element.ofValue quoted separators? (value?.getD [])
      if s.hasOption 'u' && value?.isNone && form.needsValue then
        ([], s.abort s.line (name ++ ": parameter not set".toList))
      else
      match form with
      | .value => (value, s)
      | .length => (Element.ofValue quoted separators? (Octets.ofNat (value?.getD []).length), s)
      | .orElse empty word =>
        if isSet empty then (value, s) else expand fuel splitting (s.expandTilde word) s
      | .instead empty word =>
        if isSet empty then expand fuel splitting (s.expandTilde word) s else ([], s)
      | .assign empty word =>
        if isSet empty then (value, s)
        else
          let (elements, s) := expand fuel splitting (s.expandTilde word) s
          (elements, s.assignFree s.line name (Element.octets elements))
      | .require empty word =>
        if isSet empty then (value, s)
        else
          let (elements, s) := expand fuel false word s
          let given := Element.octets elements
          let message :=
            if given ≠ [] then given
            else if empty then "parameter not set or null".toList
            else "parameter not set".toList
          ([], s.abort s.line (name ++ ": ".toList ++ message))
      | .trimEnd longest pattern =>
        let (elements, s) := expand fuel false pattern s
        let text := trimEnd longest (Element.glyphs elements) (value?.getD [])
        (Element.ofValue quoted separators? text, s)
      | .trimStart longest pattern =>
        let (elements, s) := expand fuel false pattern s
        let text := trimStart longest (Element.glyphs elements) (value?.getD [])
        (Element.ofValue quoted separators? text, s)

/-- The fields of a list of words. -/
def expandWords (fuel : Nat) (words : List (List Part)) (s : State) : List Octets × State :=
  match fuel with
  | 0 => ([], { s with flow := .late })
  | fuel + 1 =>
    match words with
    | [] => ([], s)
    | word :: rest =>
      let (elements, s) := expand fuel true (s.expandTilde word) s
      let (others, s) := expandWords fuel rest s
      ((Element.fields elements).flatMap s.paths ++ others, s)

/-- Assigns the values of words to variables. -/
def assignWords (fuel : Nat) (assignments : List (Octets × List Part)) (s : State) : State :=
  match fuel with
  | 0 => { s with flow := .late }
  | fuel + 1 =>
    match assignments with
    | [] => s
    | (name, word) :: rest =>
      let (elements, s) := expand fuel false (s.expandTilde word) s
      let s := s.assignFree s.line name (Element.octets elements)
      if s.isRunning then assignWords fuel rest s else s

/-- Opens what redirections name, up to the first that cannot be opened. -/
def redirectAll (fuel : Nat) (line : Nat) (redirections : List Redirection) (s : State) :
    Bool × State :=
  match fuel with
  | 0 => (false, { s with flow := .late })
  | fuel + 1 =>
    match redirections with
    | [] => (true, s)
    | .copy descriptor source :: rest =>
      if s.isOpen source then
        redirectAll fuel line rest (s.redirect descriptor (s.sink source))
      else
        (false, s.complainWith line 2 (Octets.ofNat source ++ ": Bad file descriptor".toList))
    | .close descriptor :: rest => redirectAll fuel line rest (s.redirect descriptor .nowhere)
    | .document text :: rest =>
      let (elements, s) := expand fuel false text s
      redirectAll fuel line rest { s with input := Element.octets elements }
    | .input word :: rest =>
      let (elements, s) := expand fuel false (s.expandTilde word) s
      let operand := Element.octets elements
      match s.tree.read (s.path operand) with
      | .ok bytes => redirectAll fuel line rest { s with input := Octets.ofBytes bytes }
      | .error .isDirectory => redirectAll fuel line rest { s with input := [] }
      | .error reason => (false, s.complainWith line 2 (openMessage false operand reason))
    | .output descriptor append word :: rest =>
      let (elements, s) := expand fuel false (s.expandTilde word) s
      let operand := Element.octets elements
      match operand.toText, s.tree.writable (s.path operand) with
      | "/dev/stdout", _ => redirectAll fuel line rest (s.redirect descriptor (s.sink 1))
      | "/dev/stderr", _ => redirectAll fuel line rest (s.redirect descriptor (s.sink 2))
      | _, .error reason => (false, s.complainWith line 2 (openMessage true operand reason))
      | _, .ok ⟨_, some (.device _)⟩ => redirectAll fuel line rest (s.redirect descriptor .nowhere)
      | _, .ok spot =>
        let s := { s with tree := s.tree.store append .empty spot.names }
        redirectAll fuel line rest (s.redirect descriptor (.file spot.names))

/-- Runs the command that a name stands for. -/
def call (fuel : Nat) (line : Nat) (name : Octets) (args : List Octets) (s : State) : State :=
  match fuel with
  | 0 => { s with flow := .late }
  | fuel + 1 =>
    match s.functions.find? (·.1 = name) with
    | some (_, body) =>
      let inner := { s with arguments := args, saved? := some [], loops := 0 }
      let after := s.leaveFunction (run fuel body inner)
      { after with
        arguments := s.arguments
        loops := s.loops
        flow := if after.flow = .returned then .next else after.flow }
    | none => callPlain fuel line name args s

/-- Runs the command that a name stands for where no function has that name. -/
def callPlain (fuel : Nat) (line : Nat) (name : Octets) (args : List Octets) (s : State) : State :=
  match fuel with
  | 0 => { s with flow := .late }
  | fuel + 1 =>
    match String.ofList name, args with
    | "eval", _ =>
      let text := Text.unfields ' ' args
      if text.all Element.isBlank then s.withStatus 0 else s.calling name (runText fuel text)
    | ".", operand :: _ =>
      match s.findScript? operand with
      | none => s.calling name (·.abort line (operand ++ ": not found".toList))
      | some path =>
        match s.tree.read (s.path path) with
        | .ok bytes =>
          let after := s.calling path (runText fuel (Octets.ofBytes bytes))
          if after.flow = .returned then { after with flow := .next } else after
        | .error reason => s.calling name (·.abort line (openMessage false operand reason))
    | "command", [] => s.withStatus 0
    | "command", ['-', 'p'] :: operand :: rest => callPlain fuel line operand rest s
    | "command", ['-', 'v'] :: operands =>
      match operands with
      | [] => s.withStatus 0
      | operand :: _ =>
        match s.commandWord? operand with
        | some word => (s.write 1 (word ++ ['\n'])).withStatus 0
        | none => s.withStatus 127
    | "command", ['-', 'V'] :: operands => s.describeAll (operands.take 1)
    | "command", operand :: rest => callPlain fuel line operand rest s
    | "type", _ => s.describeAll args
    | _, _ =>
      match Builtin.run? { s with caller := [] } line name args with
      | some after => { after with caller := s.caller }
      | none => s.resume (runNamed fuel line name args s)

/-- Runs the program that a name stands for, and leaves the state at its end. -/
def runNamed (fuel : Nat) (line : Nat) (name : Octets) (args : List Octets) (s : State) : State :=
  match fuel with
  | 0 => { s with flow := .late }
  | fuel + 1 =>
    match s.findProgram? name with
    | none => s.complainWith line 127 (name ++ ": not found".toList)
    | some path =>
      match runProgram fuel path name args s with
      | .ok after => after
      | .error .notFound => s.complainWith line 127 (name ++ ": not found".toList)
      | .error .badFormat =>
        match s.tree.read (s.path path) with
        | .ok bytes => finish fuel (runText fuel (Octets.ofBytes bytes) (s.child path args))
        | .error reason => s.complainWith line 126 (name ++ ": ".toList ++ reason.text.toList)
      | .error reason => s.complainWith line 126 (name ++ ": ".toList ++ reason.text.toList)

/-- Carries out the actions of the signals that came. -/
def runPending (fuel : Nat) (s : State) : State :=
  match fuel with
  | 0 => { s with flow := .late }
  | fuel + 1 =>
    match s.pending with
    | [] => s
    | signal :: rest =>
      let s := { s with pending := rest }
      if !s.isRunning then s
      else
        let after := runText fuel ((s.trap? signal).getD []) { s with held? := some s.status }
        let after := { after with held? := s.held? }
        if after.isRunning then runPending fuel (after.withStatus s.status) else after

/-- Carries out the action at the end of a shell. -/
def finish (fuel : Nat) (s : State) : State :=
  match fuel with
  | 0 => { s with flow := .late }
  | fuel + 1 =>
    match s.flow, s.trap? 0 with
    | .killed _, _ | .late, _ | _, none => s
    | _, some action =>
      let start := { s.setTrap 0 none with flow := .next, held? := some s.status }
      let after := runText fuel action start
      match after.flow with
      | .killed _ | .late => after
      | _ => { after with status := after.held?.getD s.status, held? := none }

/-- Runs what is left of a script, line by line. -/
def runFrom (fuel : Nat) (source : Reader.Source) (s : State) : State :=
  match fuel with
  | 0 => { s with flow := .late }
  | fuel + 1 =>
    match Reader.readNext source with
    | .ok none => s
    | .ok (some (command, source)) =>
      let s := run fuel command s
      if s.isRunning then runFrom fuel source s else s
    | .error e => { s.complainWith e.line 2 e.message.toList with flow := .exit }

/-- Runs a text as a script in a state. -/
def runText (fuel : Nat) (text : Octets) (s : State) : State :=
  match fuel with
  | 0 => { s with flow := .late }
  | fuel + 1 => runFrom fuel (.ofText text 1) s

/-- Runs a shell with its arguments. -/
def runShell (fuel : Nat) (program : Octets) (args : List Octets) (s : State) : State :=
  match fuel with
  | 0 => { s with flow := .late }
  | fuel + 1 =>
    match Builtin.setOptions (s.child program []) args with
    | .error message => (s.child program []).abort 0 message
    | .ok (shell, operands) =>
      let given := args.take (args.length - operands.length)
      match operands with
      | text :: rest =>
        if Utility.hasFlag given 'c' then
          let shell := { shell with name := rest.head?.getD program, arguments := rest.tail }
          finish fuel (runText fuel text shell)
        else
          match s.tree.read (s.path text) with
          | .ok bytes =>
            let shell := { shell with name := text, arguments := rest }
            finish fuel (runText fuel (Octets.ofBytes bytes) shell)
          | .error reason => shell.complainWith 0 2 (openMessage false text reason)
      | [] =>
        if Utility.hasFlag given 'c' then shell.abort 0 "-c requires an argument".toList
        else finish fuel (runText fuel s.input { shell with input := [] })

/-- Runs the program at a path, which was called by a name, and leaves the state at its end. -/
def runProgram (fuel : Nat) (path name : Octets) (args : List Octets) (s : State) :
    Except SystemError State :=
  match fuel with
  | 0 => .ok { s with flow := .late }
  | fuel + 1 =>
    match s.tree.lookUp (s.path path) with
    | .error reason => .error reason
    | .ok (names, .file bytes mode) =>
      if !FileTree.allows mode 1 then .error .denied
      else
        match names with
        | ["usr", "bin", "env"] =>
          match args with
          | [] =>
            let lines := s.environment.flatMap fun (name, value) => name ++ '=' :: value ++ ['\n']
            .ok ((s.write 1 lines).withStatus 0)
          | operand :: rest =>
            if (s.findProgram? operand).isSome then .ok (runNamed fuel 0 operand rest s)
            else
              let reason := "': No such file or directory\n".toList
              .ok ((s.write 2 (name ++ ": '".toList ++ operand ++ reason)).withStatus 127)
        | ["usr", "bin", "printenv"] =>
          let found := s.environment.filter fun v => args.isEmpty || args.contains v.1
          let line (v : Octets × Octets) : Octets :=
            (if args.isEmpty then v.1 ++ '=' :: v.2 else v.2) ++ ['\n']
          .ok ((s.write 1 (found.flatMap line)).succeedIf (args.length ≤ found.length))
        | ["usr", "bin", own] =>
          if own = "sh" ∨ own = "dash" then .ok (runShell fuel name args s)
          else
            match Utility.find? own with
            | some utility => .ok (s.apply (utility ⟨s.tree, s.cwd, args, s.input⟩))
            | none =>
              match Builtin.run? (s.child own.toList []) 0 own.toList args with
              | some after => .ok after
              | none => .error .badFormat
        | _ =>
          match interpreter? (Octets.ofBytes bytes) with
          | none => .error .badFormat
          | some (program, arguments) =>
            runProgram fuel program program (arguments ++ path :: args) s
    | .ok _ => .error .denied

/-- Runs a loop, `status` being that of its last round. -/
def runLoop (fuel : Nat) (negated : Bool) (test body : Command) (status : Nat) (s : State) :
    State :=
  match fuel with
  | 0 => { s with flow := .late }
  | fuel + 1 =>
    let s := s.leniently (run fuel test)
    if !s.isRunning then s.endRound.2
    else if decide (s.status = 0) == negated then s.withStatus status
    else
      let (goesOn, s) := (run fuel body s).endRound
      if goesOn then runLoop fuel negated test body s.status s else s

/-- Runs a body for each of some values. -/
def runEach (fuel : Nat) (name : Octets) (values : List Octets) (body : Command) (s : State) :
    State :=
  match fuel with
  | 0 => { s with flow := .late }
  | fuel + 1 =>
    match values with
    | [] => s
    | value :: rest =>
      let (goesOn, s) := (run fuel body (s.assignFree s.line name value)).endRound
      if goesOn then runEach fuel name rest body s else s

/-- The body of the first arm with a pattern that matches. -/
def chooseArm (fuel : Nat) (subject : Octets) (arms : List (List (List Part) × Command))
    (s : State) : Option Command × State :=
  match fuel with
  | 0 => (none, { s with flow := .late })
  | fuel + 1 =>
    match arms with
    | [] => (none, s)
    | ([], _) :: rest => chooseArm fuel subject rest s
    | (pattern :: patterns, body) :: rest =>
      let (elements, s) := expand fuel false pattern s
      if isMatch (Element.glyphs elements) subject then (some body, s)
      else chooseArm fuel subject ((patterns, body) :: rest) s

/-- Runs a command, unless the shell is to stop. -/
def run (fuel : Nat) (command : Command) (s : State) : State :=
  match fuel with
  | 0 => { s with flow := .late }
  | fuel + 1 =>
    if !s.isRunning then s
    else
      match command with
      | .nothing => s
      | .sequence first second => run fuel second (run fuel first s)
      | .both first second =>
        let s := s.leniently (run fuel first)
        if s.status = 0 then run fuel second s else s
      | .either first second =>
        let s := s.leniently (run fuel first)
        if s.status = 0 then s else run fuel second s
      | .negated body =>
        let s := s.leniently (run fuel body)
        if s.isRunning then s.succeedIf (s.status ≠ 0) else s
      | .subshell body =>
        runPending fuel (s.rejoin (finish fuel (run fuel body s.copied))).checked
      | .pipe first second =>
        let (_, inner) := s.copied.capture
        let (text, inner) := (finish fuel (run fuel first inner)).release
        let joined := s.rejoin inner
        let last := finish fuel (run fuel second { joined.copied with input := text })
        runPending fuel { joined.rejoin last with input := joined.input }.checked
      | .conditional test yes no =>
        let s := s.leniently (run fuel test)
        if !s.isRunning then s
        else if s.status = 0 then run fuel yes s
        else
          match no with
          | .nothing => s.withStatus 0
          | no => run fuel no s
      | .loop negated test body =>
        { runLoop fuel negated test body 0 { s with loops := s.loops + 1 } with loops := s.loops }
      | .each line name words? body =>
        let (values, s) :=
          match words? with
          | some words => expandWords fuel words { s with line }
          | none => (s.arguments, { s with line })
        if !s.isRunning then s
        else if values.isEmpty then s.withStatus 0
        else { runEach fuel name values body { s with loops := s.loops + 1 } with loops := s.loops }
      | .choice line subject arms =>
        let (elements, s) := expand fuel false (s.expandTilde subject) { s with line }
        let (body?, s) := chooseArm fuel (Element.octets elements) arms s
        match body? with
        | none | some .nothing => if s.isRunning then s.withStatus 0 else s
        | some body => run fuel body s
      | .define name body =>
        { s with functions := (name, body) :: s.functions.filter (·.1 ≠ name), status := 0 }
      | .redirected line body redirections =>
        let (opened, inner) := redirectAll fuel line redirections { s with line }
        let after := if opened then run fuel body inner else inner
        { after with sinks := s.sinks, input := s.input }
      | .simple line assignments words redirections =>
        let (fields, s) := expandWords fuel words { s with line }
        let own := assignments.map (·.1)
        if !s.isRunning then s
        else
          match fields with
          | [] =>
            let (opened, inner) := redirectAll fuel line redirections s
            let after := assignWords fuel assignments { inner with sinks := s.sinks }
            let status :=
              if !opened ∨ !after.isRunning then 2
              else if assignments.any fun a => hasOutput a.2 then after.status
              else 0
            ({ after with input := s.input, status }.trace own []).checked
          | name :: args =>
            let assigned := (assignWords fuel assignments s).trace own fields
            let published := own.foldl State.publish assigned
            let (opened, inner) := redirectAll fuel line redirections published
            let reading := redirections.any fun r =>
              match r with
              | .input _ | .document _ => true
              | _ => false
            let restore (after : State) : State :=
              let after := { after with
                sinks := s.sinks
                input := if reading then s.input else after.input }
              if Builtin.special.contains (String.ofList name) then after else s.withOld after own
            if !assigned.isRunning then assigned
            else if !opened then
              let after := restore inner
              if Builtin.special.contains (String.ofList name) then { after with flow := .exit }
              else after.checked
            else if name = "exec".toList then
              match args with
              | [] => inner.withStatus 0
              | program :: rest =>
                let after := s.rejoin (inner.calling name (runNamed fuel line program rest))
                if after.isRunning then { after with flow := .exit, traps := [] } else after
            else runPending fuel (restore (call fuel line name args inner)).checked

end

end LintChain.Shell
