import LintChain.Proofs.Components
import LintChain.Proofs.Transcript

/-!
The output of the tools within a report. Every line that a tool has printed is given as a line of
its own behind the name of the tool and a mark, and nothing that the report says by itself begins
like that. So the output can be told from the rest and read back, and the rest does not depend on
it.
-/

namespace LintChain

/-! ### Rows -/

namespace Text

variable {text line row : String}

/-- The pieces of a text between its line feeds. -/
def rows (text : String) : List String := (fields '\n' text.toList).map String.ofList

lemma rows_append_newline (s t : String) : rows (s ++ "\n" ++ t) = rows s ++ rows t := by
  simp [rows, fields_append_sep]

lemma rows_of_notMem (h : '\n' ∉ text.toList) : rows text = [text] := by
  simp [rows, fields_of_notMem h]

lemma rows_textOf (lines : List Line) :
    rows (Line.textOf lines) = (lines.map Line.text).flatMap rows ++ [""] := by
  induction lines with
  | nil => rfl
  | cons line lines ih => simp [rows_append_newline, ih]

lemma prefix_of_fields {sep : Char} {xs piece : List Char} {pieces : List (List Char)}
    (h : fields sep xs = piece :: pieces) : piece <+: xs := by
  induction xs generalizing piece pieces with
  | nil => simp_all
  | cons c xs ih =>
    by_cases hc : c = sep
    · rw [hc, fields_cons_sep] at h
      obtain ⟨rfl, -⟩ := List.cons.inj h
      exact List.nil_prefix
    · obtain ⟨first, rest, hxs⟩ := List.exists_cons_of_ne_nil (fields_ne_nil sep xs)
      rw [fields_cons_of_ne hc hxs] at h
      obtain ⟨rfl, -⟩ := List.cons.inj h
      exact (List.prefix_cons_inj c).mpr (ih hxs)

/-- A text begins with its first row. -/
lemma prefix_of_head?_rows (h : (rows text).head? = some row) : row.toList <+: text.toList := by
  obtain ⟨piece, pieces, hfields⟩ :=
    List.exists_cons_of_ne_nil (fields_ne_nil '\n' text.toList)
  obtain rfl : String.ofList piece = row := by simpa [rows, hfields] using h
  simpa using prefix_of_fields hfields

lemma notMem_dropReturn {c : Char} {piece : List Char} (h : c ∉ piece) : c ∉ dropReturn piece := by
  unfold dropReturn
  split
  next => exact fun hc => h (List.dropLast_subset _ hc)
  next => exact h

/-- There is no line feed in a line. -/
lemma notMem_of_mem_lines (h : line ∈ lines text) : '\n' ∉ line.toList := by
  obtain ⟨chars, hchars, rfl⟩ := List.mem_map.mp h
  rw [String.toList_ofList]
  have hended : ∀ piece ∈ (fields '\n' text.toList).dropLast.map dropReturn, '\n' ∉ piece := by
    rintro _ hpiece
    obtain ⟨piece, hmem, rfl⟩ := List.mem_map.mp hpiece
    exact notMem_dropReturn (notMem_of_mem_fields (List.dropLast_subset _ hmem))
  unfold lineChars at hchars
  simp only at hchars
  split at hchars
  next c rest hlast =>
    rcases List.mem_append.mp hchars with hchars | hchars
    · exact hended _ hchars
    · obtain rfl := List.mem_singleton.mp hchars
      exact notMem_of_mem_fields (List.mem_of_getLast? hlast)
  next => exact hended _ hchars

end Text

namespace Report

/-! ### What a report consists of -/

/-- The two outputs of a process. -/
inductive Channel
  | stdout
  | stderr
  deriving DecidableEq

namespace Channel

def all : List Channel := [stdout, stderr]

def mark : Channel → String
  | stdout => "¹: "
  | stderr => "²: "

@[simp] lemma mem_all (channel : Channel) : channel ∈ all := by cases channel <;> simp [all]

end Channel

/-- What may stand in front of the name of a tool. -/
def indents : List String := ["", "  "]

/-- What stands in front of a line that a tool has printed. -/
def front (indent : String) (linter : Linter) (channel : Channel) : String :=
  indent ++ linter.name ++ channel.mark

inductive Entry
  /-- What the report says by itself. -/
  | told (text : String)
  /-- A line that a tool has printed. -/
  | echoed (indent : String) (linter : Linter) (channel : Channel) (line : String)

namespace Entry

def text : Entry → String
  | told text => text
  | echoed indent linter channel line => front indent linter channel ++ line

def isTold : Entry → Bool
  | told _ => true
  | echoed .. => false

@[simp] lemma isTold_told (text : String) : (told text).isTold = true := rfl

@[simp] lemma isTold_echoed (indent : String) (linter : Linter) (channel : Channel)
    (line : String) : (echoed indent linter channel line).isTold = false := rfl

/-- What is between the line feeds when the entry is written. -/
def rows (entry : Entry) : List String := Text.rows entry.text

end Entry

def echoes (indent : String) (linter : Linter) (channel : Channel) (text : String) : List Entry :=
  (Text.lines text).map (.echoed indent linter channel)

def outputEntries (indent : String) (linter : Linter) (stdout stderr : String) : List Entry :=
  echoes indent linter .stdout stdout ++ echoes indent linter .stderr stderr

def probedEntries (probed : Probed) : List Entry :=
  .told (outcomeLine probed.linter probed.outcome) ::
    outputEntries "" probed.linter probed.stdout probed.stderr

def failureEntries (report : BootstrapReport) : List Entry :=
  report.failures.flatMap probedEntries ++ [.told bootstrapFailed]

def resultEntries (path : Path) (result : ToolResult) : List Entry :=
  (if result.changed then [.told ("  " ++ result.linter.name ++ " modified " ++ path.text)]
    else []) ++
  match statusLine? result with
  | none => []
  | some line =>
    .told ("  " ++ line) :: outputEntries "  " result.linter result.stdout result.stderr

def fileEntries (file : FileReport) : List Entry :=
  .told ("- " ++ file.path.text) :: file.results.flatMap (resultEntries file.path)

def runEntries (report : RunReport) : List Entry :=
  (if report.files.isEmpty then [] else [.told "Results:"]) ++ report.files.flatMap fileEntries ++
    [.told (verdict report.isSuccess)]

/-! ### Entries are what is written -/

section Lines

variable (path : Path) (result : ToolResult)

@[simp] lemma text_pathLine (before : String) :
    (pathLine before path).text = before ++ path.text := by
  simp [pathLine, Line.text]

lemma text_outputLines (indent : String) (linter : Linter) (stdout stderr : String) :
    (outputLines indent linter stdout stderr).map Line.text =
      (outputEntries indent linter stdout stderr).map Entry.text := by
  simp [outputLines, outputEntries, echoes, Function.comp_def, Entry.text, front, Channel.mark,
    String.append_assoc]

lemma text_resultLines :
    (resultLines path result).map Line.text = (resultEntries path result).map Entry.text := by
  rw [resultLines, resultEntries, List.map_append, List.map_append]
  congr 1
  · unfold changeLines
    split <;> simp [Entry.text]
  · unfold statusLines
    cases statusLine? result <;> simp [Entry.text, text_outputLines]

lemma text_fileLines (file : FileReport) :
    (fileLines file).map Line.text = (fileEntries file).map Entry.text := by
  simp [fileLines, fileEntries, List.map_flatMap, text_resultLines, Entry.text]

lemma text_runLines (report : RunReport) :
    (runLines report).map Line.text = (runEntries report).map Entry.text := by
  by_cases hempty : report.files = [] <;>
    simp [runLines, runEntries, List.map_flatMap, text_fileLines, Entry.text, hempty]

lemma text_failureLines (report : BootstrapReport) :
    (failureLines report).map Line.text = (failureEntries report).map Entry.text := by
  simp [failureLines, failureEntries, List.map_flatMap, probedLines, probedEntries,
    text_outputLines, Entry.text]

end Lines

lemma rows_written {lines : List Line} {entries : List Entry}
    (h : lines.map Line.text = entries.map Entry.text) :
    Text.rows (Writer.collect.writeLines lines "").2 = entries.flatMap Entry.rows ++ [""] := by
  rw [Writer.writeLines_collect, String.empty_append, Text.rows_textOf, h, List.flatMap_map]
  rfl

/-! ### Telling output from the rest -/

/-- Whether a row begins like a line that a tool has printed. -/
def isEcho (row : String) : Bool :=
  indents.any fun indent => Linter.all.any fun linter => Channel.all.any fun channel =>
    (front indent linter channel).toList.isPrefixOf row.toList

/-- A row without all that stands up to the end of the first mark. -/
def strip (row : String) : String := .ofList ((row.toList.dropWhile (· ≠ ':')).drop 2)

/-- A text without the rows that begin like lines that a tool has printed. -/
def withoutEchoes (text : String) : String :=
  "\n".intercalate ((Text.rows text).filter (!isEcho ·))

variable {row text indent line : String} {linter : Linter} {channel : Channel}

lemma isEcho_iff : isEcho row ↔
    ∃ indent ∈ indents, ∃ linter channel, (front indent linter channel).toList <+: row.toList := by
  simp [isEcho]

lemma isEcho_of_prefix (h : row.toList <+: text.toList) (hrow : isEcho row) : isEcho text := by
  obtain ⟨indent, hindent, linter, channel, hfront⟩ := isEcho_iff.mp hrow
  exact isEcho_iff.mpr ⟨indent, hindent, linter, channel, hfront.trans h⟩

lemma isEcho_front (h : indent ∈ indents) (linter : Linter) (channel : Channel) (line : String) :
    isEcho (front indent linter channel ++ line) :=
  isEcho_iff.mpr ⟨indent, h, linter, channel, by simp⟩

/-- No mark ends, and no line is broken, in what stands in front of a mark. -/
lemma forall_mem_front (h : indent ∈ indents) (linter : Linter) :
    ∀ c ∈ (indent ++ linter.name).toList, c ≠ ':' ∧ c ≠ '\n' := by
  simp only [indents, List.mem_cons, List.not_mem_nil, or_false] at h
  rcases h with rfl | rfl <;> cases linter <;> simp [Linter.name]

lemma strip_front (h : indent ∈ indents) (linter : Linter) (channel : Channel) (line : String) :
    strip (front indent linter channel ++ line) = line := by
  have hfront := forall_mem_front h linter
  rw [strip, front, String.append_assoc, String.toList_append, List.dropWhile_append_of_pos]
  · cases channel <;> simp [Channel.mark]
  · simpa using fun c hc => (hfront c hc).1

lemma rows_echoed (h : indent ∈ indents) (hline : '\n' ∉ line.toList) :
    (Entry.echoed indent linter channel line).rows = [front indent linter channel ++ line] := by
  refine Text.rows_of_notMem ?_
  have hfront : '\n' ∉ (indent ++ linter.name).toList := fun hmem =>
    (forall_mem_front h linter '\n' hmem).2 rfl
  have hmark : '\n' ∉ channel.mark.toList := by cases channel <;> decide
  simp only [Entry.text, front, String.toList_append, List.mem_append, not_or] at hfront ⊢
  exact ⟨⟨hfront, hmark⟩, hline⟩

lemma rows_echoes (h : indent ∈ indents) (linter : Linter) (channel : Channel) (text : String) :
    (echoes indent linter channel text).flatMap Entry.rows =
      (Text.lines text).map (front indent linter channel ++ ·) := by
  rw [echoes, List.flatMap_map, List.map_eq_flatMap]
  exact List.flatMap_congr fun line hline => rows_echoed h (Text.notMem_of_mem_lines hline)

/-! ### What a report says by itself -/

/-- What comes behind the spaces and the word that a text begins with. -/
def behindWord (text : String) : List Char :=
  (text.toList.dropWhile (· = ' ')).dropWhile Char.isAlphanum

lemma behindWord_named (h : indent ∈ indents) (linter : Linter) (rest : String) :
    behindWord (indent ++ linter.name ++ rest) = rest.toList.dropWhile Char.isAlphanum := by
  simp only [indents, List.mem_cons, List.not_mem_nil, or_false] at h
  rcases h with rfl | rfl <;> cases linter <;> simp [behindWord, Linter.name]

lemma exists_append_of_prefix {s t : String} (h : s.toList <+: t.toList) :
    ∃ rest, t = s ++ rest := by
  obtain ⟨rest, hrest⟩ := h
  exact ⟨.ofList rest, String.toList_inj.mp (by simp [hrest])⟩

/-- Behind the name of a tool stands a mark. -/
lemma head?_behindWord_of_isEcho (h : isEcho text) :
    (behindWord text).head? = some '¹' ∨ (behindWord text).head? = some '²' := by
  obtain ⟨indent, hindent, linter, channel, hfront⟩ := isEcho_iff.mp h
  obtain ⟨rest, rfl⟩ := exists_append_of_prefix hfront
  rw [front, String.append_assoc, behindWord_named hindent]
  cases channel <;> simp [Channel.mark]

/-- What a report says by itself: a line about a file, one about a tool, or one that is always the
same. -/
inductive Told : String → Prop
  | file (rest : String) : Told ("- " ++ rest)
  | tool {text : String} (indent : String) (linter : Linter) (hindent : indent ∈ indents)
      (h : (indent ++ linter.name ++ " ").toList <+: text.toList) : Told text
  | results : Told "Results:"
  | bootstrapFailed : Told bootstrapFailed
  | verdict (success : Bool) : Told (verdict success)

lemma Told.not_isEcho (h : Told text) : isEcho text = false := by
  refine Bool.eq_false_iff.mpr fun hecho => ?_
  have hmark := head?_behindWord_of_isEcho hecho
  cases h with
  | file rest => simp [behindWord] at hmark
  | tool indent linter hindent hprefix =>
    obtain ⟨rest, rfl⟩ := exists_append_of_prefix hprefix
    rw [String.append_assoc, behindWord_named hindent] at hmark
    simp at hmark
  | results => simp [behindWord] at hmark
  | bootstrapFailed => simp [behindWord, Report.bootstrapFailed] at hmark
  | verdict success =>
    cases success <;> simp [behindWord, Report.verdict, lintFailed, lintSucceeded] at hmark

/-- Nor does the first row begin like a line that a tool has printed. -/
lemma Told.not_isEcho_row (h : Told text) (hrow : (Text.rows text).head? = some row) :
    isEcho row = false := by
  refine Bool.eq_false_iff.mpr fun hecho => ?_
  have htext := isEcho_of_prefix (Text.prefix_of_head?_rows hrow) hecho
  rw [h.not_isEcho] at htext
  exact Bool.false_ne_true htext

lemma told_outcomeLine (linter : Linter) (outcome : Outcome) :
    Told (outcomeLine linter outcome) := by
  refine .tool "" linter (by decide) ?_
  unfold outcomeLine
  split <;> simp

lemma told_statusLine {result : ToolResult} {line : String} (h : statusLine? result = some line) :
    Told ("  " ++ line) := by
  refine .tool "  " result.linter (by decide) ?_
  unfold statusLine? at h
  dsimp only at h
  split at h
  · cases h
  · split at h <;> obtain rfl := Option.some.inj h <;> simp
  · obtain rfl := Option.some.inj h
    simp
  · obtain rfl := Option.some.inj h
    simp

/-! ### Reports -/

/-- An entry as a report has them. -/
inductive Entry.Fits : Entry → Prop
  | told {text : String} (h : Told text) : Fits (.told text)
  | echoed {indent : String} (linter : Linter) (channel : Channel) {line : String}
      (hindent : indent ∈ indents) (hline : '\n' ∉ line.toList) :
      Fits (.echoed indent linter channel line)

lemma fits_outputEntries (h : indent ∈ indents) (linter : Linter) (stdout stderr : String) :
    ∀ entry ∈ outputEntries indent linter stdout stderr, entry.Fits := by
  have hechoes (channel : Channel) (text : String) :
      ∀ entry ∈ echoes indent linter channel text, entry.Fits := by
    intro entry hentry
    obtain ⟨line, hline, rfl⟩ := List.mem_map.mp hentry
    exact .echoed linter channel h (Text.notMem_of_mem_lines hline)
  exact List.forall_mem_append.mpr ⟨hechoes _ _, hechoes _ _⟩

lemma fits_failureEntries (report : BootstrapReport) :
    ∀ entry ∈ failureEntries report, entry.Fits := by
  refine List.forall_mem_append.mpr ⟨?_, by simpa using .told .bootstrapFailed⟩
  intro entry hentry
  obtain ⟨probed, -, hentry⟩ := List.mem_flatMap.mp hentry
  exact List.forall_mem_cons.mpr ⟨.told (told_outcomeLine _ _),
    fits_outputEntries (by decide) _ _ _⟩ entry hentry

lemma fits_resultEntries (path : Path) (result : ToolResult) :
    ∀ entry ∈ resultEntries path result, entry.Fits := by
  refine List.forall_mem_append.mpr ⟨?_, ?_⟩
  · split
    next =>
      exact List.forall_mem_singleton.mpr (.told (.tool "  " result.linter (by decide) (by simp)))
    next => simp
  · cases hline : statusLine? result with
    | none => simp
    | some line =>
      exact List.forall_mem_cons.mpr ⟨.told (told_statusLine hline),
        fits_outputEntries (by decide) _ _ _⟩

lemma fits_runEntries (report : RunReport) : ∀ entry ∈ runEntries report, entry.Fits := by
  refine List.forall_mem_append.mpr ⟨List.forall_mem_append.mpr ⟨?_, ?_⟩,
    by simpa using .told (.verdict _)⟩
  · split
    next => simp
    next => simpa using .told .results
  · intro entry hentry
    obtain ⟨file, -, hentry⟩ := List.mem_flatMap.mp hentry
    refine List.forall_mem_cons.mpr ⟨.told (.file _), fun entry hentry => ?_⟩ entry hentry
    obtain ⟨result, -, hentry⟩ := List.mem_flatMap.mp hentry
    exact fits_resultEntries _ _ _ hentry

/-- Of the rows only those stay that a report says by itself. -/
lemma filter_rows {entries : List Entry} (h : ∀ entry ∈ entries, entry.Fits) :
    (entries.flatMap Entry.rows).filter (!isEcho ·) =
      ((entries.filter Entry.isTold).flatMap Entry.rows).filter (!isEcho ·) := by
  induction entries with
  | nil => rfl
  | cons entry entries ih =>
    obtain ⟨hentry, hentries⟩ := List.forall_mem_cons.mp h
    rw [List.flatMap_cons, List.filter_append, ih hentries]
    cases hentry with
    | told => simp [List.filter_cons]
    | echoed linter channel hindent hline =>
      simp [rows_echoed hindent hline, isEcho_front hindent]

end Report

/-! ### Reports without output -/

def Probed.silenced (probed : Probed) : Probed := { probed with stdout := "", stderr := "" }

def ToolResult.silenced (result : ToolResult) : ToolResult :=
  { result with stdout := "", stderr := "" }

def FileReport.silenced (report : FileReport) : FileReport :=
  { report with results := report.results.map ToolResult.silenced }

def BootstrapReport.silenced (report : BootstrapReport) : BootstrapReport :=
  ⟨report.results.map Probed.silenced⟩

def RunReport.silenced (report : RunReport) : RunReport :=
  ⟨report.bootstrap.silenced, report.files.map FileReport.silenced⟩

namespace Report

lemma isSuccess_silenced (report : RunReport) : report.silenced.isSuccess = report.isSuccess := by
  simp [RunReport.isSuccess, RunReport.silenced, FileReport.status, FileReport.silenced,
    Function.comp_def, ToolResult.silenced]

lemma failures_silenced (report : BootstrapReport) :
    report.silenced.failures = report.failures.map Probed.silenced := by
  rw [BootstrapReport.failures, BootstrapReport.silenced, List.filter_map]
  rfl

lemma filter_outputEntries (indent : String) (linter : Linter) (stdout stderr : String) :
    (outputEntries indent linter stdout stderr).filter Entry.isTold = [] := by
  simp [outputEntries, echoes]

lemma probedEntries_silenced (probed : Probed) :
    probedEntries probed.silenced = (probedEntries probed).filter Entry.isTold := by
  rw [probedEntries, probedEntries, List.filter_cons_of_pos rfl, filter_outputEntries]
  rfl

lemma resultEntries_silenced (path : Path) (result : ToolResult) :
    resultEntries path result.silenced = (resultEntries path result).filter Entry.isTold := by
  have hline : statusLine? result.silenced = statusLine? result := rfl
  rw [resultEntries, resultEntries, List.filter_append, hline]
  congr 1
  · show (if result.changed then _ else _) = _
    cases result.changed <;> rfl
  · cases statusLine? result with
    | none => rfl
    | some line => rw [List.filter_cons_of_pos rfl, filter_outputEntries]; rfl

lemma fileEntries_silenced (file : FileReport) :
    fileEntries file.silenced = (fileEntries file).filter Entry.isTold := by
  simp [fileEntries, FileReport.silenced, List.flatMap_map, resultEntries_silenced,
    List.filter_flatMap, List.filter_cons]

lemma runEntries_silenced (report : RunReport) :
    runEntries report.silenced = (runEntries report).filter Entry.isTold := by
  rw [runEntries, isSuccess_silenced]
  by_cases hempty : report.files = [] <;>
    simp [runEntries, RunReport.silenced, List.flatMap_map, fileEntries_silenced,
      List.filter_flatMap, List.filter_cons, hempty]

lemma failureEntries_silenced (report : BootstrapReport) :
    failureEntries report.silenced = (failureEntries report).filter Entry.isTold := by
  simp [failureEntries, failures_silenced, List.flatMap_map, probedEntries_silenced,
    List.filter_flatMap, List.filter_cons]

lemma withoutEchoes_eq {lines : List Line} {entries : List Entry}
    (h : lines.map Line.text = entries.map Entry.text) (hfits : ∀ entry ∈ entries, entry.Fits) :
    withoutEchoes (Writer.collect.writeLines lines "").2 = "\n".intercalate
      (((entries.filter Entry.isTold).flatMap Entry.rows ++ [""]).filter (!isEcho ·)) := by
  rw [withoutEchoes, rows_written h, List.filter_append, filter_rows hfits, ← List.filter_append]

lemma statusLine?_eq_none_iff {result : ToolResult} :
    statusLine? result = none ↔ result.status = .pass := by
  unfold statusLine?
  dsimp only
  split
  · simp_all
  · split <;> simp_all
  · simp_all
  · simp_all

/-- A result that passes shows no output, and any other shows it behind what is said of it. -/
lemma exists_told_resultEntries (path : Path) (result : ToolResult) : ∃ told : List String,
    resultEntries path result = told.map .told ++
      if result.status = .pass then []
      else outputEntries "  " result.linter result.stdout result.stderr := by
  have hchange : ∃ told : List String, (if result.changed then
      [Entry.told ("  " ++ result.linter.name ++ " modified " ++ path.text)] else []) =
        told.map .told := by
    cases result.changed with
    | true => exact ⟨[_], rfl⟩
    | false => exact ⟨[], rfl⟩
  obtain ⟨told, htold⟩ := hchange
  rw [resultEntries, htold]
  cases hline : statusLine? result with
  | none =>
    rw [if_pos (statusLine?_eq_none_iff.mp hline)]
    exact ⟨told, rfl⟩
  | some line =>
    have hstatus : result.status ≠ .pass := fun hpass => by
      simp [statusLine?_eq_none_iff.mpr hpass] at hline
    rw [if_neg hstatus]
    exact ⟨told ++ ["  " ++ line], by simp⟩

/-- **The output of the tools in a report**, in the text of a run and in that of a failed bootstrap.
Of what a tool has printed each line is a row of the text, behind the name of the tool and the mark
of the output, which can be taken off again. First come all lines of the output and then all lines
of the error output, behind what is said of the result, and a result that passes has none of them.
What a report says by itself does not begin like that. So of two reports that differ in the outputs
alone, what is left without such rows is the same. -/
theorem output_confined (run : RunReport) (bootstrap : BootstrapReport) :
    let written (lines : List Line) : String := (Writer.collect.writeLines lines "").2
    let runText := written (runLines run)
    let bootstrapText := written (failureLines bootstrap)
    (Text.rows runText = (runEntries run).flatMap Entry.rows ++ [""] ∧
      Text.rows bootstrapText = (failureEntries bootstrap).flatMap Entry.rows ++ [""]) ∧
    (∀ path result, ∃ told : List String, resultEntries path result = told.map .told ++
      if result.status = .pass then []
      else outputEntries "  " result.linter result.stdout result.stderr) ∧
    (∀ probed, probedEntries probed = .told (outcomeLine probed.linter probed.outcome) ::
      outputEntries "" probed.linter probed.stdout probed.stderr) ∧
    (∀ indent ∈ indents, ∀ linter channel text,
      let rows := (echoes indent linter channel text).flatMap Entry.rows
      rows = (Text.lines text).map (front indent linter channel ++ ·) ∧
        rows.map strip = Text.lines text ∧ ∀ row ∈ rows, isEcho row) ∧
    (∀ text, .told text ∈ runEntries run ++ failureEntries bootstrap →
      ∀ row, (Text.rows text).head? = some row → isEcho row = false) ∧
    (∀ run' : RunReport, run'.silenced = run.silenced →
      withoutEchoes (written (runLines run')) = withoutEchoes runText) ∧
    ∀ bootstrap' : BootstrapReport, bootstrap'.silenced = bootstrap.silenced →
      withoutEchoes (written (failureLines bootstrap')) = withoutEchoes bootstrapText := by
  intro written runText bootstrapText
  refine ⟨⟨rows_written (text_runLines run), rows_written (text_failureLines bootstrap)⟩,
    exists_told_resultEntries, fun probed => rfl, fun indent hindent linter channel text => ?echoes,
    fun text htext row hrow => ?told, fun run' hsame => ?run, fun bootstrap' hsame => ?bootstrap⟩
  case echoes =>
    intro rows
    have hrows : rows = _ := rows_echoes hindent linter channel text
    refine ⟨hrows, ?_, ?_⟩
    · simp [hrows, Function.comp_def, strip_front hindent]
    · rw [hrows]
      intro row hrow
      obtain ⟨line, -, rfl⟩ := List.mem_map.mp hrow
      exact isEcho_front hindent linter channel line
  case told =>
    have hfits : (Entry.told text).Fits := List.forall_mem_append.mpr
      ⟨fits_runEntries run, fits_failureEntries bootstrap⟩ _ htext
    cases hfits with
    | told htold => exact htold.not_isEcho_row hrow
  case run =>
    rw [withoutEchoes_eq (text_runLines run') (fits_runEntries run'), ← runEntries_silenced, hsame,
      runEntries_silenced, ← withoutEchoes_eq (text_runLines run) (fits_runEntries run)]
  case bootstrap =>
    rw [withoutEchoes_eq (text_failureLines bootstrap') (fits_failureEntries bootstrap'),
      ← failureEntries_silenced, hsame, failureEntries_silenced,
      ← withoutEchoes_eq (text_failureLines bootstrap) (fits_failureEntries bootstrap)]

/-- A tool that pretends to be available. -/
example : Text.rows (Writer.collect.writeLines (failureLines
      ⟨[⟨.black, .missing, "black is available\r\n\nx\r", "Linting ran successfully\n"⟩]⟩) "").2 =
    ["black is missing", "black¹: black is available", "black¹: ", "black¹: x\r",
      "black²: Linting ran successfully", "Linting bootstrap failed.", ""] := by decide +kernel

end Report

end LintChain
