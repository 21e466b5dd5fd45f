import LintChain.Proofs.Given

/-!
Keys that nobody reads. A new key at `tool.lint` that names neither a setting nor a linter is worth
one warning, and a new key at `tool` nothing at all: what becomes of the manifest stays as it is,
whether it is accepted or not.
-/

namespace LintChain

namespace Toml

/-! ### Values that anybody can read -/

/-- A value that no reader of the document stumbles over, whether it is skipped or kept. -/
structure Value.Harmless (v : Value) : Prop where
  /-- It can at least be skipped, unlike a number that is too large for any reader. -/
  readable : v.skip = .ok ()
  /-- Its whole numbers have 64 bits with their signs. -/
  narrow : ∀ n, (Value.integer n).Within v → minSigned64 ≤ n ∧ n ≤ maxSigned64
  /-- No table in it has the key of a date. -/
  undated : ∀ t, (Value.table t).Within v → datetimeKey ∉ t.map (·.1)

namespace Value.Harmless

variable {v : Value} {items : List Value} {t : Table}

lemma skip_of_mem_items (h : skipItems items = .ok ()) (hv : v ∈ items) : v.skip = .ok () := by
  induction items with
  | nil => cases hv
  | cons u rest ih =>
    obtain ⟨_, hu, hrest⟩ := bind_eq_ok_iff.mp h
    rcases List.mem_cons.mp hv with rfl | hv
    · exact hu
    · exact ih hrest hv

lemma skip_of_mem_entries {e : String × Value} (h : skipEntries t = .ok ()) (he : e ∈ t) :
    e.2.skip = .ok () := by
  induction t with
  | nil => cases he
  | cons f rest ih =>
    obtain ⟨_, hf, hrest⟩ := bind_eq_ok_iff.mp h
    rcases List.mem_cons.mp he with rfl | he
    · exact hf
    · exact ih hrest he

lemma item (h : (array items).Harmless) (hv : v ∈ items) : v.Harmless where
  readable := skip_of_mem_items h.readable hv
  narrow n hn := h.narrow n (.item hv hn)
  undated t ht := h.undated t (.item hv ht)

lemma entry (h : (table t).Harmless) {e : String × Value} (he : e ∈ t) : e.2.Harmless where
  readable := skip_of_mem_entries h.readable he
  narrow n hn := h.narrow n (.entry he hn)
  undated t ht := h.undated t (.entry he ht)

lemma integerShape_eq {n : Int} (h : (integer n).Harmless) : integerShape n = .ok (.integer n) := by
  obtain ⟨hmin, hmax⟩ := h.narrow n (.refl _)
  simp only [minSigned64, maxSigned64] at hmin hmax
  have hreadable : ¬ (n < minSigned128 ∨ maxUnsigned128 < n) := by
    simp only [minSigned128, maxUnsigned128]
    omega
  have hsigned : ¬ maxSigned128 < n := by
    simp only [maxSigned128]
    omega
  have hnarrow : ¬ (n < minSigned64 ∨ maxUnsigned64 < n) := by
    simp only [minSigned64, maxUnsigned64]
    omega
  rw [integerShape, if_neg hreadable, if_neg hsigned, if_neg hnarrow]

mutual

/-- It may be kept for later. -/
lemma keep_eq : (v : Value) → v.Harmless → v.keep = .ok ()
  | .integer n, h => by rw [keep, h.integerShape_eq]
  | .array items, h => keepItems_eq items fun _ hu => h.item hu
  | .table t, h => keepEntries_eq t fun _ he => h.entry he
  | .unreadableInteger, h => h.readable
  | .hugeFloat, h => h.readable
  | .string _, _ => rfl
  | .float _, _ => rfl
  | .boolean _, _ => rfl
  | .datetime _, _ => rfl

lemma keepItems_eq : (items : List Value) → (∀ v ∈ items, v.Harmless) → keepItems items = .ok ()
  | [], _ => rfl
  | v :: rest, h => by
    obtain ⟨hv, hrest⟩ := List.forall_mem_cons.mp h
    rw [keepItems, keep_eq v hv]
    exact keepItems_eq rest hrest

lemma keepEntries_eq : (t : Table) → (∀ e ∈ t, e.2.Harmless) → keepEntries t = .ok ()
  | [], _ => rfl
  | (_, v) :: rest, h => by
    obtain ⟨hv, hrest⟩ := List.forall_mem_cons.mp h
    rw [keepEntries, keep_eq v hv]
    exact keepEntries_eq rest hrest

end

mutual

/-- What has been kept may be taken up again. -/
lemma exists_settle_eq : (v : Value) → v.Harmless → ∃ u, v.settle = .ok u
  | .integer n, h => by
    have hmax : ¬ maxSigned64 < n := not_lt.mpr (h.narrow n (.refl _)).2
    exact ⟨.integer n, by rw [settle, if_neg hmax]⟩
  | .array items, h => by
    obtain ⟨us, hus⟩ := exists_settleItems_eq items fun _ hu => h.item hu
    exact ⟨.array us, by rw [settle, hus]; rfl⟩
  | .table [], _ => ⟨_, rfl⟩
  | .table ((key, v) :: rest), h => by
    have hkey : key ≠ datetimeKey := by
      rintro rfl
      exact h.undated _ (.refl _) List.mem_cons_self
    obtain ⟨u, hu⟩ := exists_settle_eq v (h.entry List.mem_cons_self)
    obtain ⟨us, hus⟩ := exists_settleEntries_eq rest fun _ he => h.entry (List.mem_cons_of_mem _ he)
    exact ⟨.table ((key, u) :: us), by rw [settle, if_neg hkey, hu, hus]; rfl⟩
  | .unreadableInteger, _ => ⟨_, rfl⟩
  | .hugeFloat, _ => ⟨_, rfl⟩
  | .string _, _ => ⟨_, rfl⟩
  | .float _, _ => ⟨_, rfl⟩
  | .boolean _, _ => ⟨_, rfl⟩
  | .datetime _, _ => ⟨_, rfl⟩

lemma exists_settleItems_eq : (items : List Value) → (∀ v ∈ items, v.Harmless) →
    ∃ us, settleItems items = .ok us
  | [], _ => ⟨_, rfl⟩
  | v :: rest, h => by
    obtain ⟨hv, hrest⟩ := List.forall_mem_cons.mp h
    obtain ⟨u, hu⟩ := exists_settle_eq v hv
    obtain ⟨us, hus⟩ := exists_settleItems_eq rest hrest
    exact ⟨u :: us, by rw [settleItems, hu, hus]; rfl⟩

lemma exists_settleEntries_eq : (t : Table) → (∀ e ∈ t, e.2.Harmless) →
    ∃ us, settleEntries t = .ok us
  | [], _ => ⟨_, rfl⟩
  | (key, v) :: rest, h => by
    obtain ⟨hv, hrest⟩ := List.forall_mem_cons.mp h
    obtain ⟨u, hu⟩ := exists_settle_eq v hv
    obtain ⟨us, hus⟩ := exists_settleEntries_eq rest hrest
    exact ⟨(key, u) :: us, by rw [settleEntries, hu, hus]; rfl⟩

end

end Value.Harmless

/-! ### New keys -/

/-- A table gains an entry at the end of a path; a table that is missing on the way is made. -/
inductive Gains (key : String) (v : Value) : List String → Table → Table → Prop
  | here {before after : Table} :
      Gains key v [] (before ++ after) (before ++ (key, v) :: after)
  | inside {name : String} {path : List String} {inner inner' before after : Table} :
      Gains key v path inner inner' →
      Gains key v (name :: path) (before ++ (name, .table inner) :: after)
        (before ++ (name, .table inner') :: after)
  | made {name : String} {path : List String} {inner before after : Table} :
      Gains key v path [] inner →
      Gains key v (name :: path) (before ++ after) (before ++ (name, .table inner) :: after)

lemma Gains.of_nil {key : String} {v : Value} {t t' : Table} (h : Gains key v [] t t') :
    ∃ before after, t = before ++ after ∧ t' = before ++ (key, v) :: after := by
  cases h with
  | here => exact ⟨_, _, rfl, rfl⟩

lemma Gains.of_cons {key name : String} {path : List String} {v : Value} {t t' : Table}
    (h : Gains key v (name :: path) t t') : ∃ inner' before after,
      t' = before ++ (name, .table inner') :: after ∧
      ((∃ inner, Gains key v path inner inner' ∧ t = before ++ (name, .table inner) :: after) ∨
        (Gains key v path [] inner' ∧ t = before ++ after)) := by
  cases h with
  | inside h => exact ⟨_, _, _, rfl, .inl ⟨_, h, rfl⟩⟩
  | made h => exact ⟨_, _, _, rfl, .inr ⟨h, rfl⟩⟩

lemma settleEntries_append (t u : Table) : settleEntries (t ++ u) =
    (settleEntries t >>= fun t => (settleEntries u).map fun u => t ++ u) := by
  induction t with
  | nil =>
    change settleEntries u = (settleEntries u).map fun u => u
    cases settleEntries u <;> rfl
  | cons e rest ih =>
    rw [List.cons_append, settleEntries, settleEntries, ih]
    cases e.2.settle with
    | error e => rfl
    | ok v =>
      cases settleEntries rest with
      | error e => rfl
      | ok rest => cases settleEntries u <;> rfl

end Toml

namespace Config

open Toml (Value Table Decoded Ascending Gains)

namespace Section

variable {key : String} {v : Value} {s : Section}

/-- A reading whose section has one more key than that of another reading, unless both report the
same. -/
inductive Grows (key : String) : Decoded Section → Decoded Section → Prop
  | error (e : Toml.DecodeError) : Grows key (.error e) (.error e)
  | ok {s : Section} {before after : Table} (v : Value) : s.others = before ++ after →
      Grows key (.ok s) (.ok { s with others := before ++ (key, v) :: after })

/-- A relation of readings that is kept when more entries are skipped. -/
structure Steady (R : Decoded Section → Decoded Section → Prop) : Prop where
  error : ∀ e, R (.error e) (.error e)
  skip : ∀ {x y}, R x y → ∀ skip : Decoded Unit,
    R (x >>= fun s => skip.map fun _ => s) (y >>= fun s => skip.map fun _ => s)

lemma steady_grows : Steady (Grows key) where
  error := .error
  skip h skip := by
    cases h with
    | error e => exact .error e
    | ok v hothers =>
      cases skip with
      | error e => exact .error e
      | ok _ => exact .ok v hothers

lemma steady_eq : Steady Eq := ⟨fun _ => rfl, fun h _ => by rw [h]⟩

/-- What an entry does to a section does not depend on the other keys met so far. -/
lemma setEntry_others (s : Section) (others : Table) (e : String × Value) :
    setEntry { s with others := others } e =
      (setEntry { s with others := [] } e).map fun r =>
        { r with others := others ++ r.others } := by
  by_cases he : e.1 ∈ settings
  · obtain ⟨key, v⟩ := e
    simp only [settings, List.mem_cons, List.not_mem_nil, or_false] at he
    rcases he with rfl | rfl | rfl | rfl | rfl
    all_goals
      simp only [setEntry, Except.map]
      split <;> simp
  · rw [setEntry_of_notMem he, setEntry_of_notMem he]
    cases e.2.keep <;> rfl

lemma foldlM_others (t : Table) (s : Section) (others : Table) :
    t.foldlM setEntry { s with others := others } =
      (t.foldlM setEntry { s with others := [] }).map fun r =>
        { r with others := others ++ r.others } := by
  induction t generalizing s others with
  | nil =>
    change Except.ok _ = Except.ok _
    simp
  | cons e rest ih =>
    rw [List.foldlM_cons, List.foldlM_cons, setEntry_others s others]
    cases setEntry { s with others := [] } e with
    | error e => rfl
    | ok r =>
      change rest.foldlM setEntry { r with others := others ++ r.others } =
        (rest.foldlM setEntry { r with others := r.others }).map _
      rw [ih r (others ++ r.others), ih r r.others]
      cases rest.foldlM setEntry { r with others := [] } with
      | error e => rfl
      | ok last => simp [Except.map]

/-- The values kept for later are taken up again. -/
def settled (s : Section) : Decoded Section :=
  (Toml.settleEntries s.others).map fun others => { s with others := others }

lemma ofTable_eq (t : Table) : ofTable t = t.foldlM setEntry empty >>= settled := by
  unfold ofTable
  cases t.foldlM setEntry empty with
  | error e => rfl
  | ok s =>
    change (Toml.settleEntries s.others >>= _) = settled s
    unfold settled
    cases Toml.settleEntries s.others <;> rfl

lemma grows_settled {u : Value} (hu : v.settle = .ok u) {before after : Table}
    (h : s.others = before ++ after) :
    Grows key (settled s) (settled { s with others := before ++ (key, v) :: after }) := by
  have hentry : Toml.settleEntries ((key, v) :: after) =
      (Toml.settleEntries after).map fun rest => (key, u) :: rest := by
    rw [Toml.settleEntries, hu]
    cases Toml.settleEntries after <;> rfl
  unfold settled
  rw [h, Toml.settleEntries_append, Toml.settleEntries_append, hentry]
  cases Toml.settleEntries before with
  | error e => exact .error e
  | ok first =>
    cases Toml.settleEntries after with
    | error e => exact .error e
    | ok last => exact .ok u rfl

/-- **A new key of the section** that names no setting grows what is read of it. -/
lemma grows_ofTable (hkey : key ∉ settings) (hv : v.Harmless) (before after : Table) :
    Grows key (ofTable (before ++ after)) (ofTable (before ++ (key, v) :: after)) := by
  obtain ⟨u, hu⟩ := hv.exists_settle_eq
  rw [ofTable_eq, ofTable_eq, List.foldlM_append, List.foldlM_append]
  cases before.foldlM setEntry empty with
  | error e => exact .error e
  | ok s =>
    have hstep : setEntry s (key, v) = .ok { s with others := s.others ++ [(key, v)] } := by
      rw [setEntry_of_notMem hkey, hv.keep_eq]
      rfl
    have hplain := foldlM_others after s s.others
    have hmore := foldlM_others after s (s.others ++ [(key, v)])
    change Grows key (after.foldlM setEntry s >>= settled)
      (((key, v) :: after).foldlM setEntry s >>= settled)
    rw [List.foldlM_cons, hstep]
    change Grows key (after.foldlM setEntry { s with others := s.others } >>= settled)
      (after.foldlM setEntry { s with others := s.others ++ [(key, v)] } >>= settled)
    rw [hplain, hmore]
    cases after.foldlM setEntry { s with others := [] } with
    | error e => exact .error e
    | ok r =>
      have hgrows : Grows key (settled { r with others := s.others ++ r.others })
          (settled { r with others := s.others ++ (key, v) :: r.others }) :=
        grows_settled hu rfl
      rw [List.append_cons] at hgrows
      exact hgrows

end Section

/-! ### The section of a document that gains a key -/

section Documents

variable {step : Section → String × Value → Decoded Section} {read : Value → Decoded Section}
  {R : Decoded Section → Decoded Section → Prop} {name key : String} {v : Value}
  {doc doc' t t' : Table}

/-- Entries that are skipped. -/
lemma foldlM_skip (hother : ∀ s e, e.1 ≠ name → step s e = e.2.skip.map fun _ => s)
    (ht : ∀ e ∈ t, e.1 ≠ name) (s : Section) :
    t.foldlM step s = (Toml.skipEntries t).map fun _ => s := by
  induction t with
  | nil => rfl
  | cons e rest ih =>
    obtain ⟨he, hrest⟩ := List.forall_mem_cons.mp ht
    rw [List.foldlM_cons, hother s e he, Toml.skipEntries]
    cases e.2.skip with
    | error e => rfl
    | ok _ => exact ih hrest

/-- One entry that is read among others that are skipped. -/
lemma foldlM_single (hname : ∀ s v, step s (name, v) = read v)
    (hother : ∀ s e, e.1 ≠ name → step s e = e.2.skip.map fun _ => s) {before after : Table}
    (hbefore : ∀ e ∈ before, e.1 ≠ name) (hafter : ∀ e ∈ after, e.1 ≠ name) (s : Section) :
    (before ++ (name, v) :: after).foldlM step s =
      (Toml.skipEntries before >>= fun _ => read v >>= fun s =>
        (Toml.skipEntries after).map fun _ => s) := by
  rw [List.foldlM_append, foldlM_skip hother hbefore]
  cases Toml.skipEntries before with
  | error e => rfl
  | ok _ =>
    change ((name, v) :: after).foldlM step s = (read v >>= fun s => _)
    rw [List.foldlM_cons, hname]
    exact congrArg _ (funext fun s => foldlM_skip hother hafter s)

/-- Readings of one value that are related make readings of the table that are related. -/
lemma foldlM_inside (hR : Section.Steady R) (hname : ∀ s v, step s (name, v) = read v)
    (hother : ∀ s e, e.1 ≠ name → step s e = e.2.skip.map fun _ => s) {u : Value}
    {before after : Table} (hasc : Ascending (before ++ (name, u) :: after))
    (h : R (read v) (read u)) :
    R ((before ++ (name, v) :: after).foldlM step .empty)
      ((before ++ (name, u) :: after).foldlM step .empty) := by
  obtain ⟨hbefore, hafter⟩ := hasc.ne_of_mem
  rw [foldlM_single hname hother hbefore hafter, foldlM_single hname hother hbefore hafter]
  cases Toml.skipEntries before with
  | error e => exact hR.error e
  | ok _ => exact hR.skip h _

/-- So do readings of a table with a new key, if its value is to nothing what it is to the table. -/
lemma foldlM_made (hR : Section.Steady R) (hname : ∀ s v, step s (name, v) = read v)
    (hother : ∀ s e, e.1 ≠ name → step s e = e.2.skip.map fun _ => s)
    {before after : Table} (hasc : Ascending (before ++ (name, v) :: after))
    (h : R (.ok .empty) (read v)) :
    R ((before ++ after).foldlM step .empty)
      ((before ++ (name, v) :: after).foldlM step .empty) := by
  obtain ⟨hbefore, hafter⟩ := hasc.ne_of_mem
  rw [foldlM_single hname hother hbefore hafter, List.foldlM_append, foldlM_skip hother hbefore]
  cases Toml.skipEntries before with
  | error e => exact hR.error e
  | ok _ =>
    change R (after.foldlM step .empty) _
    rw [foldlM_skip hother hafter]
    exact hR.skip h _

lemma toolEntry_of_ne (s : Section) (e : String × Value) (h : e.1 ≠ "lint") :
    Section.toolEntry s e = e.2.skip.map fun _ => s := by
  unfold Section.toolEntry
  split
  · exact absurd rfl h
  · rfl

lemma documentEntry_of_ne (s : Section) (e : String × Value) (h : e.1 ≠ "tool") :
    Section.documentEntry s e = e.2.skip.map fun _ => s := by
  unfold Section.documentEntry
  split
  · exact absurd rfl h
  · rfl

/-- What becomes of the table `tool` becomes of the document. -/
lemma ofDocument_of_gains (hR : Section.Steady R) {path : List String}
    (hdoc' : (Value.table doc').Ordered) (h : Gains key v ("tool" :: path) doc doc')
    (htool : ∀ t t', (Value.table t').Ordered → Gains key v path t t' →
      R (Section.ofTool (.table t)) (Section.ofTool (.table t'))) :
    R (Section.ofDocument doc) (Section.ofDocument doc') := by
  obtain ⟨inner', before, after, rfl, hgains⟩ := h.of_cons
  obtain ⟨hascending, hentries⟩ := Value.ordered_table.mp hdoc'
  have hinner' : (Value.table inner').Ordered := hentries ("tool", .table inner') (by simp)
  rcases hgains with ⟨inner, hinner, rfl⟩ | ⟨hinner, rfl⟩
  · exact foldlM_inside hR (fun _ _ => rfl) documentEntry_of_ne hascending
      (htool _ _ hinner' hinner)
  · exact foldlM_made hR (fun _ _ => rfl) documentEntry_of_ne hascending
      (htool _ _ hinner' hinner)

/-- A new key of the section grows it. -/
lemma grows_ofValue (hv : v.Harmless) (hkey : key ∉ Section.settings) (h : Gains key v [] t t') :
    Section.Grows key (Section.ofValue (.table t)) (Section.ofValue (.table t')) := by
  obtain ⟨before, after, rfl, rfl⟩ := h.of_nil
  exact Section.grows_ofTable hkey hv before after

lemma grows_ofTool (ht' : (Value.table t').Ordered) (hv : v.Harmless)
    (hkey : key ∉ Section.settings) (h : Gains key v ["lint"] t t') :
    Section.Grows key (Section.ofTool (.table t)) (Section.ofTool (.table t')) := by
  obtain ⟨inner', before, after, rfl, ⟨inner, hinner, rfl⟩ | ⟨hinner, rfl⟩⟩ := h.of_cons
  · exact foldlM_inside Section.steady_grows (fun _ _ => rfl) toolEntry_of_ne (ht' (.refl _))
      (grows_ofValue hv hkey hinner)
  · exact foldlM_made Section.steady_grows (fun _ _ => rfl) toolEntry_of_ne (ht' (.refl _))
      (grows_ofValue hv hkey hinner)

/-- **A new key at `tool.lint`** grows the section. -/
lemma grows_ofDocument (hdoc' : (Value.table doc').Ordered) (hv : v.Harmless)
    (hkey : key ∉ Section.settings) (h : Gains key v ["tool", "lint"] doc doc') :
    Section.Grows key (Section.ofDocument doc) (Section.ofDocument doc') :=
  ofDocument_of_gains Section.steady_grows hdoc' h fun _ _ ht' hgains =>
    grows_ofTool ht' hv hkey hgains

lemma ofTool_of_gains (hv : v.Harmless) (hkey : key ≠ "lint") (h : Gains key v [] t t') :
    Section.ofTool (.table t) = Section.ofTool (.table t') := by
  obtain ⟨before, after, rfl, rfl⟩ := h.of_nil
  change (before ++ after).foldlM Section.toolEntry .empty =
    (before ++ (key, v) :: after).foldlM Section.toolEntry .empty
  rw [List.foldlM_append, List.foldlM_append]
  refine congrArg _ (funext fun s => ?_)
  rw [List.foldlM_cons, toolEntry_of_ne s (key, v) hkey, hv.readable]
  rfl

/-- **A new key at `tool`** leaves the section as it is. -/
lemma ofDocument_eq (hdoc' : (Value.table doc').Ordered) (hv : v.Harmless) (hkey : key ≠ "lint")
    (h : Gains key v ["tool"] doc doc') : Section.ofDocument doc = Section.ofDocument doc' :=
  ofDocument_of_gains Section.steady_eq hdoc' h fun _ _ _ hgains => ofTool_of_gains hv hkey hgains

end Documents

/-! ### The outcome -/

/-- One outcome is another one with at most one warning more, about a key, which stands between the
warnings about smaller keys and those about larger ones. -/
structure Remarked {α : Type} (key : String) (plain more : List Warning × α) : Prop where
  result : more.2 = plain.2
  warnings : more.1 = plain.1 ∨ ∃ before after, plain.1 = before ++ after ∧
    more.1 = before ++ .unknownKey key :: after ∧
    (∀ w ∈ before, ∃ k, k < key ∧ w = .unknownKey k) ∧
    ∀ w ∈ after, ∃ k, key < k ∧ w = .unknownKey k

section Outcome

variable {α : Type} {key : String} {v : Value} {plain more : List Warning × α}

lemma Remarked.refl (x : List Warning × α) : Remarked key x x := ⟨rfl, .inl rfl⟩

lemma Remarked.cons (h : Remarked key plain more) {k : String} (hk : k < key) :
    Remarked key (.unknownKey k :: plain.1, plain.2) (.unknownKey k :: more.1, more.2) := by
  refine ⟨h.result, ?_⟩
  rcases h.warnings with heq | ⟨before, after, hplain, hmore, hbefore, hafter⟩
  · exact .inl (congrArg (List.cons _) heq)
  · refine .inr ⟨.unknownKey k :: before, after, congrArg _ hplain, congrArg _ hmore, ?_, hafter⟩
    exact List.forall_mem_cons.mpr ⟨⟨k, hk, rfl⟩, hbefore⟩

lemma exists_of_mem_applyOthers {others : Table} {linters : List ResolvedLinter} {w : Warning}
    (h : w ∈ (applyOthers others linters).1) : ∃ e ∈ others, w = .unknownKey e.1 := by
  induction others generalizing linters with
  | nil => cases h
  | cons entry rest ih =>
    obtain ⟨k, u⟩ := entry
    unfold applyOthers at h
    split at h
    · rcases List.mem_cons.mp h with rfl | h
      · exact ⟨(k, u), List.mem_cons_self, rfl⟩
      · obtain ⟨e, he, hw⟩ := ih h
        exact ⟨e, List.mem_cons_of_mem _ he, hw⟩
    · split at h
      · cases h
      · obtain ⟨e, he, hw⟩ := ih h
        exact ⟨e, List.mem_cons_of_mem _ he, hw⟩

/-- **An unknown key** among the others adds at most its warning. -/
lemma remarked_applyOthers (hname : Linter.ofName? key = none) {before after : Table}
    (hascending : Ascending (before ++ (key, v) :: after)) (linters : List ResolvedLinter) :
    Remarked key (applyOthers (before ++ after) linters)
      (applyOthers (before ++ (key, v) :: after) linters) := by
  induction before generalizing linters with
  | nil =>
    have hstep : applyOthers ((key, v) :: after) linters =
        (.unknownKey key :: (applyOthers after linters).1, (applyOthers after linters).2) := by
      rw [applyOthers, hname]
    rw [List.nil_append, List.nil_append, hstep]
    refine ⟨rfl, .inr ⟨[], _, rfl, rfl, by simp, fun w hw => ?_⟩⟩
    obtain ⟨e, he, rfl⟩ := exists_of_mem_applyOthers hw
    exact ⟨e.1, hascending.lt_of_mem.2 e he, rfl⟩
  | cons entry rest ih =>
    obtain ⟨k, u⟩ := entry
    have hrest : Ascending (rest ++ (key, v) :: after) := (List.pairwise_cons.mp hascending).2
    have hk : k < key := hascending.lt_of_mem.1 (k, u) List.mem_cons_self
    rw [List.cons_append, List.cons_append]
    cases hentry : Linter.ofName? k with
    | none =>
      simp only [applyOthers, hentry]
      exact (ih hrest linters).cons hk
    | some linter =>
      cases hread : readOverride linter u with
      | error e =>
        simp only [applyOthers, hentry, hread]
        exact .refl _
      | ok o =>
        simp only [applyOthers, hentry, hread]
        exact ih hrest _

/-- A section with one more unknown key has the same outcome but for a warning. -/
lemma remarked_ofSection {manifest : Path} {s : Section} {before after : Table}
    (hothers : s.others = before ++ after) (hname : Linter.ofName? key = none)
    (hascending : Ascending (before ++ (key, v) :: after)) :
    Remarked key (ofSection manifest s)
      (ofSection manifest { s with others := before ++ (key, v) :: after }) := by
  unfold ofSection
  cases compileInclude (s.include?.getD defaultInclude) with
  | error e => exact .refl _
  | ok includePattern =>
    cases compileExclude (s.exclude?.getD []) with
    | error e => exact .refl _
    | ok exclude =>
      have hremarked := remarked_applyOthers hname hascending (catalog.map ResolvedLinter.ofSpec)
      rw [← hothers] at hremarked
      refine ⟨?_, hremarked.warnings⟩
      simp only [merge, hremarked.result]

variable {manifest : Path} {contents contents' : String} {doc doc' : Table}

lemma parse_eq (hdoc : Toml.parse? contents = some doc) : parse manifest contents =
    match Section.ofDocument doc with
    | .error cause => ([], .error (.malformed manifest cause))
    | .ok s => ofSection manifest s := by
  unfold parse readSection
  cases hs : Section.ofDocument doc <;> simp [hdoc, hs, Except.mapError]

/-- **Unknown keys are inert.** Let the documents of two texts differ by one entry, whose value
nobody stumbles over. If it is new at `tool.lint` and names neither a setting nor a linter, both
texts have the same outcome but for a warning in its place; and if it is new at `tool`, they have
the same outcome. -/
theorem parse_with_unknown_key (manifest : Path) (key : String)
    (hdoc : Toml.parse? contents = some doc)
    (hdoc' : Toml.parse? contents' = some doc') (hv : v.Harmless) :
    (Gains key v ["tool", "lint"] doc doc' → key ∉ Section.settings →
      Linter.ofName? key = none →
      Remarked key (parse manifest contents) (parse manifest contents')) ∧
    (Gains key v ["tool"] doc doc' → key ≠ "lint" →
      parse manifest contents' = parse manifest contents) := by
  have hordered' := Toml.ordered_of_parse? hdoc'
  rw [parse_eq hdoc, parse_eq hdoc']
  constructor
  · intro hgains hkey hname
    have hgrows := grows_ofDocument hordered' hv hkey hgains
    have hothers (s : Section) (h : Section.ofDocument doc' = .ok s) : Ascending s.others :=
      (reads_of_ofDocument hordered' h).ascending_others (ordered_lintTable hordered' (.refl _))
    generalize Section.ofDocument doc = read at hgrows ⊢
    generalize Section.ofDocument doc' = read' at hgrows hothers ⊢
    cases hgrows with
    | error e => exact .refl _
    | ok v heq => exact remarked_ofSection heq hname (hothers _ rfl)
  · intro hgains hkey
    rw [ofDocument_eq hordered' hv hkey hgains]

/-- A manifest that is refused for its jobs. -/
def idleManifest : String := "[tool.lint]\njobs = 0\n"

/-- With a list under a key that names nothing, and with a table beside the section, it is refused
for its jobs all the same. -/
theorem parse_with_unknown_key_idleManifest :
    (parse ⟨manifestName⟩ (idleManifest ++ "odd = [true]\n")).2 =
        (parse ⟨manifestName⟩ idleManifest).2 ∧
      (parse ⟨manifestName⟩ (idleManifest ++ "odd = [true]\n")).1 = [.unknownKey "odd"] ∧
      parse ⟨manifestName⟩ (idleManifest ++ "[tool.other]\n") =
        parse ⟨manifestName⟩ idleManifest := by
  have hdoc : Toml.parse? idleManifest =
      some [("tool", .table [("lint", .table [("jobs", .integer 0)])])] := by decide +kernel
  have hodd : Toml.parse? (idleManifest ++ "odd = [true]\n") =
      some [("tool", .table [("lint",
        .table [("jobs", .integer 0), ("odd", .array [.boolean true])])])] := by decide +kernel
  have hother : Toml.parse? (idleManifest ++ "[tool.other]\n") =
      some [("tool", .table [("lint", .table [("jobs", .integer 0)]), ("other", .table [])])] := by
    decide +kernel
  have hwarnings : (parse ⟨manifestName⟩ (idleManifest ++ "odd = [true]\n")).1 =
      [.unknownKey "odd"] := by decide +kernel
  have hlist : (Value.array [.boolean true]).Harmless := by
    refine ⟨rfl, fun n hn => ?_, fun t ht => ?_⟩
    · rcases hn with _ | ⟨hmem, hn⟩
      obtain rfl := List.mem_singleton.mp hmem
      cases hn
    · rcases ht with _ | ⟨hmem, ht⟩
      obtain rfl := List.mem_singleton.mp hmem
      cases ht
  have hempty : (Value.table []).Harmless := by
    refine ⟨rfl, fun n hn => ?_, fun t ht => ?_⟩
    · rcases hn with _ | _ | ⟨hmem, _⟩
      cases hmem
    · rcases ht with _ | _ | ⟨hmem, _⟩
      · simp
      · cases hmem
  obtain ⟨hinert, -⟩ := parse_with_unknown_key ⟨manifestName⟩ "odd" hdoc hodd hlist
  obtain ⟨-, hsame⟩ := parse_with_unknown_key ⟨manifestName⟩ "other" hdoc hother hempty
  have hremarked := hinert (@Gains.inside _ _ _ _ _ _ [] []
    (@Gains.inside _ _ _ _ _ _ [] [] (@Gains.here _ _ [_] []))) (by decide) (by decide)
  exact ⟨hremarked.result, hwarnings,
    hsame (@Gains.inside _ _ _ _ _ _ [] [] (@Gains.here _ _ [_] [])) (by decide)⟩

end Outcome

end Config

end LintChain
