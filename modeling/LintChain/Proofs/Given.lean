import LintChain.Config.Basic
import LintChain.Proofs.Tables

/-!
What a manifest gives. A table is read entry by entry, but each field of the outcome hangs on the
entry of one key only, if there is one; what a table gives can thus be told key by key, whatever the
order of its entries. Of the section this leaves the keys that name no setting, in their order.
-/

namespace LintChain

/-! ### Successful readings -/

section Readings

variable {α β ε : Type}

lemma bind_eq_ok_iff {x : Except ε α} {f : α → Except ε β} {b : β} :
    x >>= f = .ok b ↔ ∃ a, x = .ok a ∧ f a = .ok b := by
  cases x <;> simp [bind, Except.bind]

lemma map_eq_ok_iff {x : Except ε α} {f : α → β} {b : β} :
    x.map f = .ok b ↔ ∃ a, x = .ok a ∧ f a = b := by
  cases x <;> simp [Except.map]

lemma exists_of_map_eq_ok {σ : Type} {x : Except ε α} {f : α → σ} {get : σ → Option α} {s : σ}
    (h : x.map f = .ok s) (hf : ∀ a, get (f a) = some a) :
    ∃ a, x = .ok a ∧ get s = some a := by
  obtain ⟨a, ha, rfl⟩ := map_eq_ok_iff.mp h
  exact ⟨a, ha, hf a⟩

lemma toOption_eq_some_iff {x : Except ε α} {a : α} : x.toOption = some a ↔ x = .ok a := by
  cases x <;> simp [Except.toOption]

lemma mapError_eq_ok_iff {ε' : Type} {x : Except ε α} {f : ε → ε'} {a : α} :
    x.mapError f = .ok a ↔ x = .ok a := by
  cases x <;> simp [Except.mapError]

end Readings

namespace Toml

lemma lookup_eq_none_of_notMem {t : Table} {key : String} (h : key ∉ t.map (·.1)) :
    t.lookup key = none := by
  rw [List.lookup_eq_none_iff]
  intro e he
  have hmem : e.1 ∈ t.map (·.1) := List.mem_map_of_mem he
  have hne : key ≠ e.1 := fun heq => h (heq ▸ hmem)
  simpa using hne

section Fields

variable {σ γ ε : Type} {step : σ → String × Value → Except ε σ} {key : String} {t : Table}
  {s s' : σ}

/-- A part of the outcome that the entry of one key decides alone. -/
lemma lookup_of_foldlM (get : σ → γ) {P : Value → γ → Prop}
    (hkey : ∀ s v s', step s (key, v) = .ok s' → P v (get s'))
    (hother : ∀ s e s', e.1 ≠ key → step s e = .ok s' → get s' = get s)
    (hkeys : (t.map (·.1)).Nodup) (h : t.foldlM step s = .ok s') :
    (t.lookup key = none → get s' = get s) ∧ ∀ v, t.lookup key = some v → P v (get s') := by
  induction t generalizing s with
  | nil =>
    obtain rfl : s = s' := Except.ok.inj h
    simp
  | cons e rest ih =>
    obtain ⟨k, u⟩ := e
    rw [List.map_cons, List.nodup_cons] at hkeys
    rw [List.foldlM_cons] at h
    obtain ⟨s₁, hstep, hrest⟩ := bind_eq_ok_iff.mp h
    obtain ⟨hnone, hsome⟩ := ih hkeys.2 hrest
    rw [List.lookup_cons]
    by_cases hk : key = k
    · -- the key does not come again
      subst hk
      have hlookup : rest.lookup key = none := lookup_eq_none_of_notMem hkeys.1
      have hget : get s' = get s₁ := hnone hlookup
      rw [beq_self_eq_true]
      refine ⟨fun h => (Option.some_ne_none u h).elim, fun v hv => ?_⟩
      obtain rfl := Option.some.inj hv
      rw [hget]
      exact hkey s u s₁ hstep
    · have hget : get s₁ = get s := hother s (k, u) s₁ (Ne.symm hk) hstep
      rw [beq_eq_false_iff_ne.mpr hk, ← hget]
      exact ⟨hnone, hsome⟩

/-- A field of the outcome that holds what is read of the value of one key. -/
lemma mapM_lookup_of_foldlM {get : σ → Option γ} {read : Value → Decoded γ}
    (hkey : ∀ s v s', step s (key, v) = .ok s' → ∃ b, read v = .ok b ∧ get s' = some b)
    (hother : ∀ s e s', e.1 ≠ key → step s e = .ok s' → get s' = get s)
    (hkeys : (t.map (·.1)).Nodup) (hstart : get s = none) (h : t.foldlM step s = .ok s') :
    (t.lookup key).mapM read = .ok (get s') := by
  obtain ⟨hnone, hsome⟩ :=
    lookup_of_foldlM get (P := fun v b? => ∃ b, read v = .ok b ∧ b? = some b) hkey hother hkeys h
  cases hlookup : t.lookup key with
  | none =>
    rw [hnone hlookup, hstart]
    rfl
  | some v =>
    obtain ⟨b, hread, hget⟩ := hsome v hlookup
    rw [hget, Option.mapM_some, hread]
    rfl

end Fields

end Toml

namespace Config

open Toml (Value Table Decoded Ascending)

/-! ### The section -/

/-- The value of `lint` in that of `tool`, which may be a list that starts with it. -/
def lintOf? (tool : Value) : Option Value :=
  match tool with
  | .table t => t.lookup "lint"
  | .array items => items.head?
  | _ => none

/-- The entries of the section that a value stands for; a date has one. -/
def entriesOf (v : Value) : Table :=
  match v with
  | .table t => t
  | .datetime text => [(Toml.datetimeKey, .string text)]
  | _ => []

/-- The entries at `tool.lint`. -/
def lintTable (doc : Table) : Table :=
  match (doc.lookup "tool").bind lintOf? with
  | some v => entriesOf v
  | none => []

namespace Section

/-- The keys that name settings of the whole run. -/
def settings : List String := ["include", "exclude", "jobs", "timeout", "bootstrap"]

/-- What the section holds of a table: for each setting what is read of its value, if it is given,
and the values of all other keys as they are taken up again. -/
structure Reads (s : Section) (t : Table) : Prop where
  include? : (t.lookup "include").mapM Value.text = .ok s.include?
  exclude? : (t.lookup "exclude").mapM Value.texts = .ok s.exclude?
  jobs? : (t.lookup "jobs").mapM (Value.natural 18446744073709551615 "usize") = .ok s.jobs?
  timeout? : (t.lookup "timeout").mapM (Value.natural 18446744073709551615 "u64") = .ok s.timeout?
  retrySection? : (t.lookup "bootstrap").mapM RetrySection.ofValue = .ok s.retrySection?
  others : Toml.settleEntries (t.filter fun e => e.1 ∉ settings) = .ok s.others

variable {s s' : Section} {t : Table}

lemma setEntry_of_notMem {e : String × Value} (h : e.1 ∉ settings) :
    setEntry s e = e.2.keep.map fun _ => { s with others := s.others ++ [e] } := by
  obtain ⟨key, v⟩ := e
  unfold setEntry
  split
  all_goals simp_all [settings]

/-- The entry of a setting sets one field. -/
lemma setEntry_cases {e : String × Value} (h : setEntry s e = .ok s') :
    (e.1 = "include" ∧ ∃ text, e.2.text = .ok text ∧ s' = { s with include? := some text }) ∨
    (e.1 = "exclude" ∧ ∃ texts, e.2.texts = .ok texts ∧ s' = { s with exclude? := some texts }) ∨
    (e.1 = "jobs" ∧ ∃ n, e.2.natural 18446744073709551615 "usize" = .ok n ∧
      s' = { s with jobs? := some n }) ∨
    (e.1 = "timeout" ∧ ∃ n, e.2.natural 18446744073709551615 "u64" = .ok n ∧
      s' = { s with timeout? := some n }) ∨
    (e.1 = "bootstrap" ∧ ∃ r, RetrySection.ofValue e.2 = .ok r ∧
      s' = { s with retrySection? := some r }) ∨
    (e.1 ∉ settings ∧ s' = { s with others := s.others ++ [e] }) := by
  by_cases he : e.1 ∈ settings
  · obtain ⟨key, v⟩ := e
    simp only [settings, List.mem_cons, List.not_mem_nil, or_false] at he
    rcases he with rfl | rfl | rfl | rfl | rfl
    all_goals
      obtain ⟨x, hx, rfl⟩ := map_eq_ok_iff.mp h
      simp [hx]
  · rw [setEntry_of_notMem he] at h
    obtain ⟨-, -, rfl⟩ := map_eq_ok_iff.mp h
    simp [he]

/-- A field changes only by the entry of its key. -/
lemma setEntry_frame {e : String × Value} (h : setEntry s e = .ok s') :
    (e.1 ≠ "include" → s'.include? = s.include?) ∧
    (e.1 ≠ "exclude" → s'.exclude? = s.exclude?) ∧
    (e.1 ≠ "jobs" → s'.jobs? = s.jobs?) ∧
    (e.1 ≠ "timeout" → s'.timeout? = s.timeout?) ∧
    (e.1 ≠ "bootstrap" → s'.retrySection? = s.retrySection?) ∧
    (e.1 ∈ settings → s'.others = s.others) := by
  rcases setEntry_cases h with ⟨he, _, -, rfl⟩ | ⟨he, _, -, rfl⟩ | ⟨he, _, -, rfl⟩ |
    ⟨he, _, -, rfl⟩ | ⟨he, _, -, rfl⟩ | ⟨he, rfl⟩
  all_goals simp [he]

lemma others_of_foldlM (h : t.foldlM setEntry s = .ok s') :
    s'.others = s.others ++ t.filter fun e => e.1 ∉ settings := by
  induction t generalizing s with
  | nil =>
    obtain rfl : s = s' := Except.ok.inj h
    simp
  | cons e rest ih =>
    rw [List.foldlM_cons] at h
    obtain ⟨s₁, hstep, hrest⟩ := bind_eq_ok_iff.mp h
    rw [ih hrest]
    by_cases he : e.1 ∈ settings
    · have hothers : s₁.others = s.others := (setEntry_frame hstep).2.2.2.2.2 he
      rw [hothers, List.filter_cons_of_neg (by simpa using he)]
    · rw [setEntry_of_notMem he] at hstep
      obtain ⟨-, -, rfl⟩ := map_eq_ok_iff.mp hstep
      rw [List.filter_cons_of_pos (by simpa using he), List.append_assoc, List.singleton_append]

/-- **What the section holds** of a table whose keys stand in order. -/
theorem reads_of_ofTable (hkeys : (t.map (·.1)).Nodup) (h : ofTable t = .ok s) : Reads s t := by
  obtain ⟨read, hread, h⟩ := bind_eq_ok_iff.mp h
  obtain ⟨others, hothers, h⟩ := bind_eq_ok_iff.mp h
  obtain rfl := Except.ok.inj h
  rw [others_of_foldlM hread] at hothers
  have hinclude : (t.lookup "include").mapM Value.text = .ok read.include? :=
    Toml.mapM_lookup_of_foldlM (fun _ _ _ h => exists_of_map_eq_ok h fun _ => rfl)
      (fun _ _ _ hne h => (setEntry_frame h).1 hne) hkeys rfl hread
  have hexclude : (t.lookup "exclude").mapM Value.texts = .ok read.exclude? :=
    Toml.mapM_lookup_of_foldlM (fun _ _ _ h => exists_of_map_eq_ok h fun _ => rfl)
      (fun _ _ _ hne h => (setEntry_frame h).2.1 hne) hkeys rfl hread
  have hjobs : (t.lookup "jobs").mapM (Value.natural 18446744073709551615 "usize") =
      .ok read.jobs? :=
    Toml.mapM_lookup_of_foldlM (fun _ _ _ h => exists_of_map_eq_ok h fun _ => rfl)
      (fun _ _ _ hne h => (setEntry_frame h).2.2.1 hne) hkeys rfl hread
  have htimeout : (t.lookup "timeout").mapM (Value.natural 18446744073709551615 "u64") =
      .ok read.timeout? :=
    Toml.mapM_lookup_of_foldlM (fun _ _ _ h => exists_of_map_eq_ok h fun _ => rfl)
      (fun _ _ _ hne h => (setEntry_frame h).2.2.2.1 hne) hkeys rfl hread
  have hretry : (t.lookup "bootstrap").mapM RetrySection.ofValue = .ok read.retrySection? :=
    Toml.mapM_lookup_of_foldlM (fun _ _ _ h => exists_of_map_eq_ok h fun _ => rfl)
      (fun _ _ _ hne h => (setEntry_frame h).2.2.2.2.1 hne) hkeys rfl hread
  exact ⟨hinclude, hexclude, hjobs, htimeout, hretry, hothers⟩

lemma reads_nil : Reads empty [] := ⟨rfl, rfl, rfl, rfl, rfl, rfl⟩

end Section

/-! ### The document -/

section Document

variable {doc t : Table} {s : Section} {v : Value}

lemma not_mismatch_ok {α : Type} {expected : String} {a : α} : v.mismatch expected ≠ .ok a := by
  intro h
  obtain ⟨_, -, h⟩ := bind_eq_ok_iff.mp h
  cases h

lemma ordered_entriesOf (h : v.Ordered) : (Value.table (entriesOf v)).Ordered := by
  cases v with
  | table t => exact h
  | datetime text =>
    refine Value.ordered_table.mpr ⟨List.pairwise_singleton _ _, List.forall_mem_singleton.mpr ?_⟩
    exact Value.IsAtom.ordered trivial
  | _ => exact Value.ordered_table.mpr ⟨.nil, by simp [entriesOf]⟩

lemma reads_of_ofValue (hordered : v.Ordered) (h : Section.ofValue v = .ok s) :
    s.Reads (entriesOf v) := by
  have hkeys := (ordered_entriesOf hordered (.refl _)).nodup
  cases v with
  | table t => exact Section.reads_of_ofTable hkeys h
  | datetime text => exact Section.reads_of_ofTable hkeys h
  | _ => exact absurd h not_mismatch_ok

lemma mem_of_lookup {key : String} (h : t.lookup key = some v) : (key, v) ∈ t := by
  obtain ⟨before, after, rfl, -⟩ := List.lookup_eq_some_iff.mp h
  simp

/-- A section that is read from the value of one key, if it is given. -/
lemma of_foldlM_pick {step : Section → String × Value → Decoded Section} {key : String}
    {read : Value → Decoded Section} (hkey : ∀ s v, step s (key, v) = read v)
    (hother : ∀ s e s', e.1 ≠ key → step s e = .ok s' → s' = s) (hkeys : (t.map (·.1)).Nodup)
    (h : t.foldlM step .empty = .ok s) :
    (t.lookup key = none ∧ s = .empty) ∨ ∃ v, t.lookup key = some v ∧ read v = .ok s := by
  obtain ⟨hnone, hsome⟩ := Toml.lookup_of_foldlM id (P := fun v s => read v = .ok s)
    (fun s v s' h => (hkey s v).symm.trans h) hother hkeys h
  cases hlookup : t.lookup key with
  | none => exact .inl ⟨rfl, hnone hlookup⟩
  | some v => exact .inr ⟨v, rfl, hsome v hlookup⟩

lemma of_ofTool (hordered : v.Ordered) (h : Section.ofTool v = .ok s) :
    (lintOf? v = none ∧ s = .empty) ∨ ∃ u, lintOf? v = some u ∧ Section.ofValue u = .ok s := by
  cases v with
  | table t =>
    refine of_foldlM_pick (fun _ _ => rfl) (fun s e s' hne h => ?_) (hordered (.refl _)).nodup h
    unfold Section.toolEntry at h
    split at h
    · exact absurd rfl hne
    · obtain ⟨-, -, rfl⟩ := map_eq_ok_iff.mp h
      rfl
  | array items =>
    cases items with
    | nil => cases h
    | cons u rest => exact .inr ⟨u, rfl, h⟩
  | datetime text => exact .inl ⟨rfl, (Except.ok.inj h).symm⟩
  | _ => exact absurd h not_mismatch_ok

lemma of_ofDocument (hordered : (Value.table doc).Ordered) (h : Section.ofDocument doc = .ok s) :
    ((doc.lookup "tool").bind lintOf? = none ∧ s = .empty) ∨
      ∃ u, (doc.lookup "tool").bind lintOf? = some u ∧ Section.ofValue u = .ok s := by
  obtain ⟨hdoc, hentries⟩ := Value.ordered_table.mp hordered
  have hpick : (doc.lookup "tool" = none ∧ s = .empty) ∨
      ∃ v, doc.lookup "tool" = some v ∧ Section.ofTool v = .ok s := by
    refine of_foldlM_pick (fun _ _ => rfl) (fun s e s' hne h => ?_) hdoc.nodup h
    unfold Section.documentEntry at h
    split at h
    · exact absurd rfl hne
    · obtain ⟨-, -, rfl⟩ := map_eq_ok_iff.mp h
      rfl
  rcases hpick with ⟨hnone, rfl⟩ | ⟨tool, hsome, htool⟩
  · rw [hnone]
    exact .inl ⟨rfl, rfl⟩
  · rw [hsome]
    exact of_ofTool (hentries _ (mem_of_lookup hsome)) htool

lemma ordered_of_lintOf? {u : Value} (hordered : v.Ordered) (h : lintOf? v = some u) :
    u.Ordered := by
  cases v with
  | table t => exact (Value.ordered_table.mp hordered).2 _ (mem_of_lookup h)
  | array items => exact Value.ordered_array.mp hordered u (List.mem_of_mem_head? h)
  | _ => cases h

lemma ordered_of_lint {u : Value} (hordered : (Value.table doc).Ordered)
    (h : (doc.lookup "tool").bind lintOf? = some u) : u.Ordered := by
  obtain ⟨tool, htool, hu⟩ := Option.bind_eq_some_iff.mp h
  have htable : tool.Ordered := (Value.ordered_table.mp hordered).2 _ (mem_of_lookup htool)
  exact ordered_of_lintOf? htable hu

lemma ordered_lintTable (h : (Value.table doc).Ordered) :
    (Value.table (lintTable doc)).Ordered := by
  unfold lintTable
  split
  next u hu => exact ordered_entriesOf (ordered_of_lint h hu)
  · exact Value.ordered_table.mpr ⟨.nil, by simp⟩

/-- **The section of a document** holds what the entries at `tool.lint` give. -/
theorem reads_of_ofDocument (hordered : (Value.table doc).Ordered)
    (h : Section.ofDocument doc = .ok s) : s.Reads (lintTable doc) := by
  unfold lintTable
  rcases of_ofDocument hordered h with ⟨hnone, rfl⟩ | ⟨u, hu, hs⟩
  · rw [hnone]
    exact Section.reads_nil
  · rw [hu]
    exact reads_of_ofValue (ordered_of_lint hordered hu) hs

/-- A section that is read from a text is that of a document in order. -/
lemma exists_of_readSection {manifest : Path} {contents : String}
    (h : readSection manifest contents = .ok s) :
    ∃ doc, Toml.parse? contents = some doc ∧ (Value.table (lintTable doc)).Ordered ∧
      s.Reads (lintTable doc) := by
  unfold readSection at h
  split at h
  · cases h
  next doc hdoc =>
    have hordered := Toml.ordered_of_parse? hdoc
    exact ⟨doc, hdoc, ordered_lintTable hordered,
      reads_of_ofDocument hordered (mapError_eq_ok_iff.mp h)⟩

end Document

/-! ### Keys that name no setting -/

section Others

variable {t u : Table} {s : Section}

lemma map_key_of_settleEntries (h : Toml.settleEntries t = .ok u) :
    u.map (·.1) = t.map (·.1) := by
  induction t generalizing u with
  | nil =>
    obtain rfl := Except.ok.inj h
    rfl
  | cons e rest ih =>
    obtain ⟨v, -, h⟩ := bind_eq_ok_iff.mp h
    obtain ⟨settled, hsettled, h⟩ := bind_eq_ok_iff.mp h
    obtain rfl := Except.ok.inj h
    rw [List.map_cons, List.map_cons, ih hsettled]

lemma lookup_of_settleEntries (h : Toml.settleEntries t = .ok u) (key : String) :
    (t.lookup key).mapM Value.settle = .ok (u.lookup key) := by
  induction t generalizing u with
  | nil =>
    obtain rfl := Except.ok.inj h
    rfl
  | cons e rest ih =>
    obtain ⟨v, hv, h⟩ := bind_eq_ok_iff.mp h
    obtain ⟨settled, hsettled, h⟩ := bind_eq_ok_iff.mp h
    obtain rfl := Except.ok.inj h
    rw [List.lookup_cons, List.lookup_cons]
    cases key == e.1 with
    | true =>
      rw [Option.mapM_some, hv]
      rfl
    | false => exact ih hsettled

lemma lookup_filter {p : String → Bool} {key : String} (hp : p key) :
    (t.filter fun e => p e.1).lookup key = t.lookup key := by
  induction t with
  | nil => rfl
  | cons e rest ih =>
    rw [List.lookup_cons, List.filter_cons]
    split
    · rw [List.lookup_cons, ih]
    next he =>
      have hne : key ≠ e.1 := by
        rintro rfl
        exact he hp
      rw [ih, beq_eq_false_iff_ne.mpr hne]

/-- The other keys of a section are those that name no setting, in ascending order. -/
lemma Section.Reads.map_key_others (h : s.Reads t) :
    s.others.map (·.1) = (t.map (·.1)).filter (· ∉ Section.settings) := by
  rw [map_key_of_settleEntries h.others, List.filter_map]
  rfl

lemma Section.Reads.ascending_others (h : s.Reads t) (ht : Ascending t) : Ascending s.others :=
  Toml.ascending_of_map_eq (ht.sublist List.filter_sublist) (map_key_of_settleEntries h.others)

/-- The value that a section holds for a key that names no setting. -/
lemma Section.Reads.lookup_others (h : s.Reads t) {key : String} (hkey : key ∉ Section.settings) :
    (t.lookup key).mapM Value.settle = .ok (s.others.lookup key) := by
  rw [← lookup_filter (p := fun key => key ∉ Section.settings) (by simpa using hkey)]
  exact lookup_of_settleEntries h.others key

end Others

end Config

end LintChain
