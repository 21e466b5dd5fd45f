import LintChain.Environment
import LintChain.Proofs.Absolute

/-!
The variables that pyright gets. Its directory is named by the first of three sources that there is,
and is told as an absolute path, whatever the source says it relative to.
-/

namespace LintChain

/-! ### Paths that mean a directory seen from another one -/

namespace Path

variable {cwd p q : Path}

/-- `value` is what `p` means to a process that works in `cwd`, spelled from the root. -/
structure Resolves (cwd p value : Path) : Prop where
  isAbsolute : value.isAbsolute
  normalize_eq : value.normalize = (cwd.join p).normalize
  found_eq : ∀ (t : FileTree) {found found' : List String × FileTree},
    t.lookUp (cwd.join p) = .ok found → t.lookUp value = .ok found' → found' = found

/-- Paths with the same steps lead to one place, if they lead anywhere. -/
lemma found_eq_of_steps (h : p.steps = q.steps) {t : FileTree}
    {found found' : List String × FileTree} (hp : t.lookUp p = .ok found)
    (hq : t.lookUp q = .ok found') : found' = found := by
  obtain ⟨⟨_, hleads⟩, hnode⟩ := FileTree.leads_steps hp
  obtain ⟨⟨_, hleads'⟩, hnode'⟩ := FileTree.leads_steps hq
  rw [← h] at hleads'
  have hnames := hleads'.names_eq hleads
  rw [hnames, hnode] at hnode'
  exact Prod.ext hnames (Option.some.inj hnode').symm

lemma resolves_absolute (hcwd : cwd.isAbsolute) (h : p.text ≠ "") :
    Resolves cwd p (cwd.absolute p) where
  isAbsolute := isAbsolute_absolute hcwd h
  normalize_eq := normalize_congr (steps_absolute cwd h)
  found_eq _ _ _ := found_eq_of_steps (steps_absolute cwd h).symm

end Path

namespace Environment

variable {env : Environment} {name text : String} {home chosen : Path}

/-! ### Sources -/

/-- A variable is set, and not to nothing. -/
def Gives (env : Environment) (name text : String) : Prop := env.get? name = some text ∧ text ≠ ""

/-- A variable is unset or empty. -/
def Lacks (env : Environment) (name : String) : Prop := ∀ text, ¬ env.Gives name text

/-- The home directory: the one that the user names, or else the one of the account. -/
inductive HasHome (env : Environment) : Path → Prop
  | user {text : String} (h : env.Gives "HOME" text) : HasHome env ⟨text⟩
  | account {text : String} (h : env.Lacks "HOME") (haccount : env.accountHome? = some text) :
      HasHome env ⟨text⟩

/-- The directory for pyright, by the first source that there is. -/
inductive Chooses (env : Environment) : Path → Prop
  | own {text : String} (h : env.Gives "PYRIGHT_PYTHON_ENV_DIR" text) : Chooses env ⟨text⟩
  | data {text : String} (hown : env.Lacks "PYRIGHT_PYTHON_ENV_DIR")
      (h : env.Gives "XDG_DATA_HOME" text) : Chooses env ((Path.mk text).join ⟨"pyright"⟩)
  | home {home : Path} (hown : env.Lacks "PYRIGHT_PYTHON_ENV_DIR")
      (hdata : env.Lacks "XDG_DATA_HOME") (h : env.HasHome home) :
      Chooses env (home.join ⟨".local/share/pyright"⟩)

lemma nonempty?_eq_some_iff : env.nonempty? name = some text ↔ env.Gives name text := by
  simp [nonempty?, Gives, Option.filter_eq_some_iff]

lemma nonempty?_eq_none_iff : env.nonempty? name = none ↔ env.Lacks name := by
  simp only [Lacks, ← nonempty?_eq_some_iff, Option.eq_none_iff_forall_ne_some, ne_eq]

lemma home?_eq_some_iff : env.home? = some home ↔ env.HasHome home := by
  unfold home?
  constructor
  · intro h
    cases hown : env.nonempty? "HOME" with
    | some text =>
      obtain rfl : ⟨text⟩ = home := by simpa [hown] using h
      exact .user (nonempty?_eq_some_iff.mp hown)
    | none =>
      obtain ⟨text, haccount, rfl⟩ : ∃ text, env.accountHome? = some text ∧ ⟨text⟩ = home := by
        simpa [hown] using h
      exact .account (nonempty?_eq_none_iff.mp hown) haccount
  · rintro (h | ⟨h, haccount⟩)
    · simp [nonempty?_eq_some_iff.mpr h]
    · simp [nonempty?_eq_none_iff.mpr h, haccount]

/-- **The sources are asked in turn.** -/
lemma pyrightDirectory?_eq_some_iff :
    env.pyrightDirectory? = some chosen ↔ env.Chooses chosen := by
  have hbelow (home : Path) : ((home.join ⟨".local"⟩).join ⟨"share"⟩).join ⟨"pyright"⟩ =
      home.join ⟨".local/share/pyright"⟩ := by
    rw [Path.join_assoc, Path.join_assoc]
    rfl
  unfold pyrightDirectory? dataHome?
  constructor
  · intro h
    cases hown : env.nonempty? "PYRIGHT_PYTHON_ENV_DIR" with
    | some text =>
      obtain rfl : ⟨text⟩ = chosen := by simpa [hown] using h
      exact .own (nonempty?_eq_some_iff.mp hown)
    | none =>
      have hlacks := nonempty?_eq_none_iff.mp hown
      cases hdata : env.nonempty? "XDG_DATA_HOME" with
      | some text =>
        obtain rfl : (Path.mk text).join ⟨"pyright"⟩ = chosen := by simpa [hown, hdata] using h
        exact .data hlacks (nonempty?_eq_some_iff.mp hdata)
      | none =>
        obtain ⟨home, hhome, hchosen⟩ : ∃ home, env.home? = some home ∧
            ((home.join ⟨".local"⟩).join ⟨"share"⟩).join ⟨"pyright"⟩ = chosen := by
          simpa [hown, hdata] using h
        rw [← hchosen, hbelow]
        exact .home hlacks (nonempty?_eq_none_iff.mp hdata) (home?_eq_some_iff.mp hhome)
  · rintro (h | ⟨hown, h⟩ | ⟨hown, hdata, h⟩)
    · simp [nonempty?_eq_some_iff.mpr h]
    · simp [nonempty?_eq_none_iff.mpr hown, nonempty?_eq_some_iff.mpr h]
    · simp [nonempty?_eq_none_iff.mpr hown, nonempty?_eq_none_iff.mpr hdata,
        home?_eq_some_iff.mpr h, hbelow]

lemma pyrightDirectory?_eq_none_iff :
    env.pyrightDirectory? = none ↔ ∀ chosen, ¬ env.Chooses chosen := by
  simp only [Option.eq_none_iff_forall_ne_some, ne_eq, pyrightDirectory?_eq_some_iff]

/-- No source names a directory. -/
lemma not_chooses_iff : (∀ chosen, ¬ env.Chooses chosen) ↔
    env.Lacks "PYRIGHT_PYTHON_ENV_DIR" ∧ env.Lacks "XDG_DATA_HOME" ∧
      ∀ home, ¬ env.HasHome home := by
  constructor
  · intro h
    have hown : env.Lacks "PYRIGHT_PYTHON_ENV_DIR" := fun text htext => h _ (.own htext)
    have hdata : env.Lacks "XDG_DATA_HOME" := fun text htext => h _ (.data hown htext)
    exact ⟨hown, hdata, fun home hhome => h _ (.home hown hdata hhome)⟩
  · rintro ⟨hown, hdata, hhome⟩ chosen (h | ⟨-, h⟩ | ⟨-, -, h⟩)
    · exact hown _ h
    · exact hdata _ h
    · exact hhome _ h

lemma text_ne_of_chooses (h : env.Chooses chosen) : chosen.text ≠ "" := by
  have hjoin {p q : Path} (hq : q.isAbsolute = false) (hne : q.text ≠ "") :
      (p.join q).text ≠ "" := by
    rw [Path.text_join hq, ne_eq, String.append_eq_empty_iff]
    exact fun hempty => hne hempty.2
  rcases h with h | h | h
  · exact h.2
  · exact hjoin (by decide) (by decide)
  · exact hjoin (by decide) (by decide)

/-- **The variables of pyright.** It is kept from a node that is installed for all, told that once,
and told one directory: the one that its own variable names, or else `pyright` below the directory
for data, or else `.local/share/pyright` below the home directory. Where none of these is named it
is told no directory, and a warning says so. The directory is told as an absolute path, which is
what the one that was named means in the working directory. -/
theorem toolVariables_pyright (env : Environment) (hcwd : env.directory.isAbsolute) :
    (∀ chosen, env.Chooses chosen → ∃ value : Path, env.toolVariables .pyright =
        ([("PYRIGHT_PYTHON_GLOBAL_NODE", "off"), ("PYRIGHT_PYTHON_ENV_DIR", value.text)], []) ∧
      Path.Resolves env.directory chosen value) ∧
    (env.toolVariables .pyright =
        ([("PYRIGHT_PYTHON_GLOBAL_NODE", "off")], [.noDataDirectory]) ↔
      ∀ chosen, ¬ env.Chooses chosen) ∧
    ((∀ chosen, ¬ env.Chooses chosen) ↔
      env.Lacks "PYRIGHT_PYTHON_ENV_DIR" ∧ env.Lacks "XDG_DATA_HOME" ∧
        ∀ home, ¬ env.HasHome home) := by
  refine ⟨?_, ?_, not_chooses_iff⟩
  · intro chosen hchosen
    refine ⟨env.directory.absolute chosen, ?_,
      Path.resolves_absolute hcwd (text_ne_of_chooses hchosen)⟩
    simp [toolVariables, pyrightDirectory?_eq_some_iff.mpr hchosen]
  · rw [← pyrightDirectory?_eq_none_iff]
    cases h : env.pyrightDirectory? <;> simp [toolVariables, h]

/-- A variable that is empty does not count, and a directory for data that is relative, with blank
pieces in it, is told as it is seen from the root. -/
theorem toolVariables_pyright_relative :
    let env : Environment :=
      ⟨⟨"/w"⟩, [("PYRIGHT_PYTHON_ENV_DIR", ""), ("XDG_DATA_HOME", "./cache//x/")], some "/home/u"⟩
    env.directory.isAbsolute ∧ env.Chooses ⟨"./cache//x/pyright"⟩ ∧
      env.toolVariables .pyright = ([("PYRIGHT_PYTHON_GLOBAL_NODE", "off"),
        ("PYRIGHT_PYTHON_ENV_DIR", "/w/cache/x/pyright")], []) ∧
      Path.Resolves ⟨"/w"⟩ ⟨"./cache//x/pyright"⟩ ⟨"/w/cache/x/pyright"⟩ := by
  intro env
  have hcwd : env.directory.isAbsolute := by decide
  have hchooses : env.Chooses ⟨"./cache//x/pyright"⟩ :=
    pyrightDirectory?_eq_some_iff.mp (by decide +kernel)
  have htold : env.toolVariables .pyright = ([("PYRIGHT_PYTHON_GLOBAL_NODE", "off"),
      ("PYRIGHT_PYTHON_ENV_DIR", "/w/cache/x/pyright")], []) := by
    decide +kernel
  obtain ⟨value, hvalue, hresolves⟩ := (toolVariables_pyright env hcwd).1 _ hchooses
  obtain rfl : value = ⟨"/w/cache/x/pyright"⟩ := by
    rw [htold] at hvalue
    exact Path.ext_text (by simpa using hvalue.symm)
  exact ⟨hcwd, hchooses, htold, hresolves⟩

end Environment

end LintChain
