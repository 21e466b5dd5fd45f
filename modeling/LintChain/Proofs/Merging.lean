import LintChain.Proofs.Given
import LintChain.Proofs.Roster
import Mathlib.Data.List.Forall2
import Mathlib.Data.List.Zip

/-!
How settings are laid over the defaults. Each linter's entry hangs on the table of that linter
alone, and in it each field on its own value; so do the fields of the retry schedule. The tables of
other linters, the keys that name nothing and the order of all these leave it as it is.
-/

namespace LintChain.Config

open Toml (Value Table Decoded)

/-! ### Fields by name -/

/-- The values of fixed fields, which a table gives by their keys and a list by their positions. -/
def fieldsOf (fields : List String) (v : Value) : Table :=
  match v with
  | .table t => t
  | .array items => fields.zip items
  | _ => []

/-- What a value, if it is given, gives for a field. -/
def given? (fields : List String) (v? : Option Value) (field : String) : Option Value :=
  v?.bind fun v => (fieldsOf fields v).lookup field

lemma nodup_zip {fields : List String} (h : fields.Nodup) (items : List Value) :
    ((fields.zip items).map (·.1)).Nodup := by
  induction fields generalizing items with
  | nil => simp
  | cons field rest ih =>
    obtain ⟨hnot, hrest⟩ := List.nodup_cons.mp h
    cases items with
    | nil => simp
    | cons v items =>
      rw [List.zip_cons_cons, List.map_cons, List.nodup_cons]
      refine ⟨fun hmem => hnot ?_, ih hrest items⟩
      obtain ⟨e, he, rfl⟩ := List.mem_map.mp hmem
      exact (List.of_mem_zip he).1

namespace Override

/-- What the table of a linter holds of the values given for its fields. -/
structure Reads (o : Override) (given : String → Option Value) : Prop where
  enabled? : (given "enabled").mapM readFlag = .ok o.enabled?
  run? : (given "run").mapM readFlag = .ok o.run?
  options? : (given "options").mapM readTexts = .ok o.options?
  include? : (given "include").mapM readText = .ok o.include?
  executable? : (given "executable").mapM readText = .ok o.executable?

variable {o o' : Override}

lemma setEntry_cases {e : String × Value} (h : setEntry o e = .ok o') :
    (e.1 = "enabled" ∧ ∃ b, readFlag e.2 = .ok b ∧ o' = { o with enabled? := some b }) ∨
    (e.1 = "run" ∧ ∃ b, readFlag e.2 = .ok b ∧ o' = { o with run? := some b }) ∨
    (e.1 = "options" ∧ ∃ ts, readTexts e.2 = .ok ts ∧ o' = { o with options? := some ts }) ∨
    (e.1 = "include" ∧ ∃ t, readText e.2 = .ok t ∧ o' = { o with include? := some t }) ∨
    (e.1 = "executable" ∧ ∃ t, readText e.2 = .ok t ∧ o' = { o with executable? := some t }) := by
  obtain ⟨key, v⟩ := e
  unfold setEntry at h
  split at h
  · cases h
  next found hset =>
    obtain rfl := Except.ok.inj h
    unfold setField? at hset
    split at hset
    all_goals simp only [Option.some.injEq, reduceCtorEq, map_eq_ok_iff] at hset
    all_goals
      rename_i hkey
      obtain rfl : key = _ := hkey
      obtain ⟨x, hx, rfl⟩ := hset
      simp [hx]
  · cases h

/-- A field changes only by the entry of its key. -/
lemma setEntry_frame {e : String × Value} (h : setEntry o e = .ok o') :
    (e.1 ≠ "enabled" → o'.enabled? = o.enabled?) ∧
    (e.1 ≠ "run" → o'.run? = o.run?) ∧
    (e.1 ≠ "options" → o'.options? = o.options?) ∧
    (e.1 ≠ "include" → o'.include? = o.include?) ∧
    (e.1 ≠ "executable" → o'.executable? = o.executable?) := by
  rcases setEntry_cases h with ⟨he, _, -, rfl⟩ | ⟨he, _, -, rfl⟩ | ⟨he, _, -, rfl⟩ |
    ⟨he, _, -, rfl⟩ | ⟨he, _, -, rfl⟩
  all_goals simp [he]

/-- A list is read like the table of the fields that it stands for. -/
lemma foldlM_of_setItems {length : Nat} {keys : List String} {items : List Value}
    (h : setItems o length keys items = .ok o') : (keys.zip items).foldlM setEntry o = .ok o' := by
  induction keys generalizing o items with
  | nil =>
    cases items with
    | nil => exact h
    | cons v items => cases h
  | cons key keys ih =>
    cases items with
    | nil => cases h
    | cons v items =>
      rw [setItems] at h
      rw [List.zip_cons_cons, List.foldlM_cons]
      cases hset : setField? o key v with
      | none => simp [hset] at h
      | some result =>
        cases result with
        | error cause => simp [hset] at h
        | ok next =>
          have hentry : setEntry o (key, v) = .ok next := by simp [setEntry, hset]
          rw [hset] at h
          rw [hentry]
          exact ih h

lemma exists_of_setEntry {β : Type} {field : String} {v : Value} {read : Value → Decoded β}
    {set : Override → β → Override} {get : Override → Option β}
    (hset : ∀ o v, setField? o field v = some ((read v).map (set o)))
    (hget : ∀ o b, get (set o b) = some b) (h : setEntry o (field, v) = .ok o') :
    ∃ b, read v = .ok b ∧ get o' = some b := by
  rw [setEntry, hset] at h
  cases hread : read v with
  | error cause => simp [hread, Except.map] at h
  | ok b =>
    simp only [hread, Except.map, Except.ok.injEq] at h
    exact ⟨b, rfl, h ▸ hget o b⟩

/-- **The fields of a linter's table** hold what is given for them. -/
lemma reads_of_foldlM {t : Table} (hkeys : (t.map (·.1)).Nodup)
    (h : t.foldlM setEntry empty = .ok o) : o.Reads fun field => t.lookup field := by
  have henabled : (t.lookup "enabled").mapM readFlag = .ok o.enabled? := by
    refine Toml.mapM_lookup_of_foldlM (fun _ _ _ h => ?_)
      (fun _ _ _ hne h => (setEntry_frame h).1 hne) hkeys rfl h
    exact exists_of_setEntry (fun _ _ => rfl) (fun _ _ => rfl) h
  have hrun : (t.lookup "run").mapM readFlag = .ok o.run? := by
    refine Toml.mapM_lookup_of_foldlM (fun _ _ _ h => ?_)
      (fun _ _ _ hne h => (setEntry_frame h).2.1 hne) hkeys rfl h
    exact exists_of_setEntry (fun _ _ => rfl) (fun _ _ => rfl) h
  have hoptions : (t.lookup "options").mapM readTexts = .ok o.options? := by
    refine Toml.mapM_lookup_of_foldlM (fun _ _ _ h => ?_)
      (fun _ _ _ hne h => (setEntry_frame h).2.2.1 hne) hkeys rfl h
    exact exists_of_setEntry (fun _ _ => rfl) (fun _ _ => rfl) h
  have hinclude : (t.lookup "include").mapM readText = .ok o.include? := by
    refine Toml.mapM_lookup_of_foldlM (fun _ _ _ h => ?_)
      (fun _ _ _ hne h => (setEntry_frame h).2.2.2.1 hne) hkeys rfl h
    exact exists_of_setEntry (fun _ _ => rfl) (fun _ _ => rfl) h
  have hexecutable : (t.lookup "executable").mapM readText = .ok o.executable? := by
    refine Toml.mapM_lookup_of_foldlM (fun _ _ _ h => ?_)
      (fun _ _ _ hne h => (setEntry_frame h).2.2.2.2 hne) hkeys rfl h
    exact exists_of_setEntry (fun _ _ => rfl) (fun _ _ => rfl) h
  exact ⟨henabled, hrun, hoptions, hinclude, hexecutable⟩

lemma foldlM_of_ofValue {v : Value} (h : ofValue v = .ok o) :
    (fieldsOf fields v).foldlM setEntry empty = .ok o := by
  unfold ofValue at h
  cases v with
  | table t => exact h
  | array items => exact foldlM_of_setItems h
  | _ =>
    simp only [plain] at h
    split at h
    next hmismatch => exact absurd hmismatch not_mismatch_ok
    · cases h

end Override

namespace RetrySection

/-- What the retry settings hold of the values given for their fields. -/
structure Reads (r : RetrySection) (given : String → Option Value) : Prop where
  retries : (given "retries").mapM readRetries = .ok r.retries
  backoffMillis : (given "backoff_ms").mapM readMillis = .ok r.backoffMillis
  maxBackoffMillis : (given "max_backoff_ms").mapM readMillis = .ok r.maxBackoffMillis

lemma reads_empty : empty.Reads fun _ => none := ⟨rfl, rfl, rfl⟩

variable {r r' : RetrySection}

lemma setField_cases {e : String × Value} (h : setField r e = .ok r') :
    (e.1 = "retries" ∧ ∃ n, readRetries e.2 = .ok n ∧ r' = { r with retries := some n }) ∨
    (e.1 = "backoff_ms" ∧ ∃ n, readMillis e.2 = .ok n ∧ r' = { r with backoffMillis := some n }) ∨
    (e.1 = "max_backoff_ms" ∧ ∃ n, readMillis e.2 = .ok n ∧
      r' = { r with maxBackoffMillis := some n }) := by
  unfold setField at h
  split at h
  · obtain ⟨n, hn, rfl⟩ := map_eq_ok_iff.mp h
    simp [hn]
  · obtain ⟨n, hn, rfl⟩ := map_eq_ok_iff.mp h
    simp [hn]
  · obtain ⟨n, hn, rfl⟩ := map_eq_ok_iff.mp h
    simp [hn]
  · cases h

/-- A field changes only by the entry of its key. -/
lemma setField_frame {e : String × Value} (h : setField r e = .ok r') :
    (e.1 ≠ "retries" → r'.retries = r.retries) ∧
    (e.1 ≠ "backoff_ms" → r'.backoffMillis = r.backoffMillis) ∧
    (e.1 ≠ "max_backoff_ms" → r'.maxBackoffMillis = r.maxBackoffMillis) := by
  rcases setField_cases h with ⟨he, _, -, rfl⟩ | ⟨he, _, -, rfl⟩ | ⟨he, _, -, rfl⟩
  all_goals simp [he]

/-- **The retry settings** hold what is given for their fields. -/
lemma reads_of_foldlM {t : Table} (hkeys : (t.map (·.1)).Nodup)
    (h : t.foldlM setField empty = .ok r) : r.Reads fun field => t.lookup field := by
  have hretries : (t.lookup "retries").mapM readRetries = .ok r.retries :=
    Toml.mapM_lookup_of_foldlM (fun _ _ _ h => exists_of_map_eq_ok h fun _ => rfl)
      (fun _ _ _ hne h => (setField_frame h).1 hne) hkeys rfl h
  have hbackoff : (t.lookup "backoff_ms").mapM readMillis = .ok r.backoffMillis :=
    Toml.mapM_lookup_of_foldlM (fun _ _ _ h => exists_of_map_eq_ok h fun _ => rfl)
      (fun _ _ _ hne h => (setField_frame h).2.1 hne) hkeys rfl h
  have hmost : (t.lookup "max_backoff_ms").mapM readMillis = .ok r.maxBackoffMillis :=
    Toml.mapM_lookup_of_foldlM (fun _ _ _ h => exists_of_map_eq_ok h fun _ => rfl)
      (fun _ _ _ hne h => (setField_frame h).2.2 hne) hkeys rfl h
  exact ⟨hretries, hbackoff, hmost⟩

/-- A list gives all three fields, and what follows them does not count. -/
lemma foldlM_of_ofItems {items : List Value} (h : ofItems items = .ok r) :
    (fields.zip items).foldlM setField empty = .ok r := by
  match items with
  | [] => cases h
  | [a] =>
    obtain ⟨_, -, h⟩ := bind_eq_ok_iff.mp h
    cases h
  | [a, b] =>
    obtain ⟨_, -, h⟩ := bind_eq_ok_iff.mp h
    obtain ⟨_, -, h⟩ := bind_eq_ok_iff.mp h
    cases h
  | a :: b :: c :: rest =>
    obtain ⟨retries, hretries, h⟩ := bind_eq_ok_iff.mp h
    obtain ⟨backoff, hbackoff, h⟩ := bind_eq_ok_iff.mp h
    obtain ⟨most, hmost, h⟩ := bind_eq_ok_iff.mp h
    obtain rfl := Except.ok.inj h
    simp [fields, setField, hretries, hbackoff, hmost, Except.map, bind, Except.bind, pure,
      Except.pure, empty]

lemma foldlM_of_ofValue {v : Value} (h : ofValue v = .ok r) :
    (fieldsOf fields v).foldlM setField empty = .ok r := by
  cases v with
  | table t => exact h
  | array items => exact foldlM_of_ofItems h
  | datetime text => cases h
  | _ => exact absurd h not_mismatch_ok

end RetrySection

lemma nodup_fieldsOf {fields : List String} {v : Value} (hfields : fields.Nodup)
    (hv : ∀ t, v = .table t → (t.map (·.1)).Nodup) : ((fieldsOf fields v).map (·.1)).Nodup := by
  cases v with
  | table t => exact hv t rfl
  | array items => exact nodup_zip hfields items
  | _ => exact List.nodup_nil

/-! ### Entries -/

/-- The table of a linter, as it is taken up again. -/
def own? (doc : Table) (linter : Linter) : Option Value :=
  ((lintTable doc).lookup linter.name).bind fun v => v.settle.toOption

/-- Two documents give the same for every field of a linter. -/
def GiveAlike (linter : Linter) (doc doc' : Table) : Prop :=
  ∀ field ∈ Override.fields, given? Override.fields (own? doc' linter) field =
    given? Override.fields (own? doc linter) field

/-- The entry of a linter is that of the catalog with what is given for its fields on top. -/
structure Merged (spec : Spec) (given : String → Option Value) (r : ResolvedLinter) : Prop where
  spec_eq : r.spec = spec
  enabled : ∃ run? enabled?, (given "run").mapM Override.readFlag = .ok run? ∧
    (given "enabled").mapM Override.readFlag = .ok enabled? ∧
    r.enabled = (run?.orElse fun _ => enabled?).getD spec.enabledByDefault
  options : ∃ options?, (given "options").mapM Override.readTexts = .ok options? ∧
    r.options = options?.getD []
  include? : ∃ pattern?, (given "include").mapM Override.readText = .ok pattern? ∧
    pattern?.mapM Regex.compile = .ok r.include?
  executable : ∃ executable?, (given "executable").mapM Override.readText = .ok executable? ∧
    r.executable = executable?.getD spec.executable
  args : r.args = spec.args ++ r.options

/-- The retry schedule is the default one with what is given for its fields on top. -/
structure MergedRetry (given : String → Option Value) (policy : RetryPolicy) : Prop where
  retries : ∃ n?, (given "retries").mapM RetrySection.readRetries = .ok n? ∧
    policy.retries = (n?.map UInt32.ofNat).getD RetryPolicy.default.retries
  backoff : ∃ n?, (given "backoff_ms").mapM RetrySection.readMillis = .ok n? ∧
    policy.backoff = (n?.map Duration.ofMillis).getD RetryPolicy.default.backoff
  maxBackoff : ∃ n?, (given "max_backoff_ms").mapM RetrySection.readMillis = .ok n? ∧
    policy.maxBackoff = (n?.map Duration.ofMillis).getD RetryPolicy.default.maxBackoff

lemma mergedRetry_readRetry {settings? : Option RetrySection} {given : String → Option Value}
    (h : (settings?.getD .empty).Reads given) : MergedRetry given (readRetry settings?) := by
  cases settings? with
  | none => exact ⟨⟨_, h.retries, rfl⟩, ⟨_, h.backoffMillis, rfl⟩, ⟨_, h.maxBackoffMillis, rfl⟩⟩
  | some r => exact ⟨⟨_, h.retries, rfl⟩, ⟨_, h.backoffMillis, rfl⟩, ⟨_, h.maxBackoffMillis, rfl⟩⟩

section Merged

variable {spec : Spec} {given given' : String → Option Value} {r r' : ResolvedLinter}

/-- Fields that are given alike make entries alike. -/
lemma Merged.unique (h : Merged spec given r) (h' : Merged spec given' r')
    (hgiven : ∀ field ∈ Override.fields, given' field = given field) : r' = r := by
  have hlinter : r'.linter = r.linter := by
    have hspec : r'.spec.linter = r.spec.linter := by rw [h.spec_eq, h'.spec_eq]
    simpa [ResolvedLinter.spec] using hspec
  have henabled : r'.enabled = r.enabled := by
    obtain ⟨run?, enabled?, hrun, henabled, heq⟩ := h.enabled
    obtain ⟨run?', enabled?', hrun', henabled', heq'⟩ := h'.enabled
    rw [hgiven "run" (by decide), hrun] at hrun'
    rw [hgiven "enabled" (by decide), henabled] at henabled'
    rw [heq, heq', Except.ok.inj hrun', Except.ok.inj henabled']
  have hoptions : r'.options = r.options := by
    obtain ⟨options?, hread, heq⟩ := h.options
    obtain ⟨options?', hread', heq'⟩ := h'.options
    rw [hgiven "options" (by decide), hread] at hread'
    rw [heq, heq', Except.ok.inj hread']
  have hinclude : r'.include? = r.include? := by
    obtain ⟨pattern?, hread, heq⟩ := h.include?
    obtain ⟨pattern?', hread', heq'⟩ := h'.include?
    rw [hgiven "include" (by decide), hread] at hread'
    rw [← Except.ok.inj hread', heq] at heq'
    exact (Except.ok.inj heq').symm
  have hexecutable : r'.executable = r.executable := by
    obtain ⟨executable?, hread, heq⟩ := h.executable
    obtain ⟨executable?', hread', heq'⟩ := h'.executable
    rw [hgiven "executable" (by decide), hread] at hread'
    rw [heq, heq', Except.ok.inj hread']
  cases r
  cases r'
  simp_all

end Merged

section Overlaid

variable {others : Table} {linters linters' : List ResolvedLinter}

/-- An entry with the table of its linter on top, if there is one. -/
def Overlaid (others : Table) (r r' : ResolvedLinter) : Prop :=
  (others.lookup r.linter.name = none ∧ r' = r) ∨
    ∃ v o include?, others.lookup r.linter.name = some v ∧
      readOverride r.linter v = .ok (o, include?) ∧ r' = r.override o include?

/-- **Each table changes the entry of its linter alone.** -/
lemma forall₂_applyOthers (hkeys : (others.map (·.1)).Nodup)
    (h : (applyOthers others linters).2 = .ok linters') :
    List.Forall₂ (Overlaid others) linters linters' := by
  induction others generalizing linters with
  | nil =>
    obtain rfl : linters = linters' := Except.ok.inj h
    exact List.forall₂_same.mpr fun r _ => .inl ⟨rfl, rfl⟩
  | cons entry rest ih =>
    obtain ⟨key, v⟩ := entry
    rw [List.map_cons, List.nodup_cons] at hkeys
    cases hname : Linter.ofName? key with
    | none =>
      have hrest : (applyOthers rest linters).2 = .ok linters' := by
        simpa [applyOthers, hname] using h
      have hlookup (l : Linter) : ((key, v) :: rest).lookup l.name = rest.lookup l.name := by
        have hne : l.name ≠ key := by
          rintro rfl
          simp at hname
        rw [List.lookup_cons, beq_eq_false_iff_ne.mpr hne]
      refine (ih hkeys.2 hrest).imp fun r r' hr => ?_
      unfold Overlaid
      rw [hlookup]
      exact hr
    | some linter =>
      obtain rfl := Linter.name_of_ofName? hname
      cases hread : readOverride linter v with
      | error e => simp [applyOthers, hread] at h
      | ok read =>
        obtain ⟨o, include?⟩ := read
        have hrest : (applyOthers rest (applyOverride linter o include? linters)).2 =
            .ok linters' := by
          simpa [applyOthers, hread] using h
        have hoverlaid := ih hkeys.2 hrest
        rw [applyOverride, List.forall₂_map_left_iff] at hoverlaid
        refine hoverlaid.imp fun r r' hr => ?_
        unfold Overlaid
        rw [List.lookup_cons]
        split_ifs at hr with hlinter
        · -- the name does not come again
          have hnone : rest.lookup r.linter.name = none :=
            Toml.lookup_eq_none_of_notMem (hlinter ▸ hkeys.1)
          obtain ⟨-, rfl⟩ | ⟨_, _, _, hsome, -⟩ := hr
          · rw [hlinter, beq_self_eq_true]
            exact .inr ⟨v, o, include?, rfl, hread, rfl⟩
          · exact absurd (hnone.symm.trans hsome) (by simp)
        · have hne : r.linter.name ≠ linter.name := by
            intro heq
            have hsame : Linter.ofName? r.linter.name = Linter.ofName? linter.name := by rw [heq]
            simp [hlinter] at hsame
          rw [beq_eq_false_iff_ne.mpr hne]
          exact hr

end Overlaid

/-! ### Accepted manifests -/

section Accepted

variable {doc t u : Table} {s : Section} {v : Value} {spec : Spec} {r : ResolvedLinter}

/-- A table that is taken up again stays a table of the same keys, or is a date. -/
lemma of_settle_table {w : Value} (h : (Value.table t).settle = .ok w) :
    (∃ text, w = .datetime text) ∨ ∃ u, Toml.settleEntries t = .ok u ∧ w = .table u := by
  cases t with
  | nil => exact .inr ⟨[], rfl, (Except.ok.inj h).symm⟩
  | cons entry rest =>
    obtain ⟨key, v⟩ := entry
    rw [Value.settle] at h
    split at h
    · left
      unfold Value.asDatetime at h
      split at h
      · split at h
        · cases h
        · split at h
          · exact ⟨_, (Except.ok.inj h).symm⟩
          · cases h
      · exact absurd h not_mismatch_ok
    · obtain ⟨settled, hsettled, h⟩ := bind_eq_ok_iff.mp h
      obtain ⟨others, hothers, h⟩ := bind_eq_ok_iff.mp h
      refine .inr ⟨(key, settled) :: others, ?_, (Except.ok.inj h).symm⟩
      rw [Toml.settleEntries, hsettled, hothers]
      rfl

lemma nodup_of_settle {w : Value} (hw : w.Ordered) (h : w.settle = .ok (.table t)) :
    (t.map (·.1)).Nodup := by
  cases w with
  | table u =>
    obtain ⟨_, htext⟩ | ⟨_, hsettled, heq⟩ := of_settle_table h
    · cases htext
    · cases heq
      rw [map_key_of_settleEntries hsettled]
      exact (hw (.refl _)).nodup
  | array items =>
    obtain ⟨_, -, heq⟩ := map_eq_ok_iff.mp h
    cases heq
  | integer n =>
    rw [Value.settle] at h
    split_ifs at h
    cases h
  | _ => cases h

lemma own?_eq (h : s.Reads (lintTable doc)) (linter : Linter) :
    own? doc linter = s.others.lookup linter.name := by
  have hkey : linter.name ∉ Section.settings := by cases linter <;> decide
  have hlookup := h.lookup_others hkey
  unfold own?
  cases hvalue : (lintTable doc).lookup linter.name with
  | none =>
    rw [hvalue] at hlookup
    exact Except.ok.inj hlookup
  | some v =>
    rw [hvalue, Option.mapM_some] at hlookup
    obtain ⟨settled, hsettled, heq⟩ := map_eq_ok_iff.mp hlookup
    rw [← heq]
    simp [hsettled, Except.toOption]

lemma nodup_own? (hordered : (Value.table (lintTable doc)).Ordered) {linter : Linter}
    (h : own? doc linter = some (.table t)) : (t.map (·.1)).Nodup := by
  obtain ⟨w, hw, hsettle⟩ := Option.bind_eq_some_iff.mp h
  have hsettled : w.settle = .ok (.table t) := toOption_eq_some_iff.mp hsettle
  exact nodup_of_settle ((Value.ordered_table.mp hordered).2 _ (mem_of_lookup hw)) hsettled

lemma of_readOverride_eq_ok {linter : Linter} {o : Override} {include? : Option Regex}
    (h : readOverride linter v = .ok (o, include?)) :
    Override.ofValue v = .ok o ∧ o.include?.mapM Regex.compile = .ok include? := by
  obtain ⟨read, hread, h⟩ := bind_eq_ok_iff.mp h
  have ho := mapError_eq_ok_iff.mp hread
  split at h
  next hinclude =>
    cases h
    exact ⟨ho, by rw [hinclude]; rfl⟩
  next pattern hinclude =>
    obtain ⟨regex, hregex, h⟩ := bind_eq_ok_iff.mp h
    cases h
    have hcompile : Regex.compile pattern = .ok regex := mapError_eq_ok_iff.mp hregex
    refine ⟨ho, ?_⟩
    rw [hinclude, Option.mapM_some, hcompile]
    rfl

lemma exists_rel_of_mem_right {α β : Type} {R : α → β → Prop} {xs : List α} {ys : List β}
    (h : List.Forall₂ R xs ys) {y : β} (hy : y ∈ ys) : ∃ x, R x y := by
  induction h with
  | nil => cases hy
  | cons hrel _ ih =>
    rcases List.mem_cons.mp hy with rfl | hy
    · exact ⟨_, hrel⟩
    · exact ih hy

/-- An entry that the tables of a document leave is the one that they give. -/
lemma merged_of_overlaid (hordered : (Value.table (lintTable doc)).Ordered)
    (hreads : s.Reads (lintTable doc)) {linter : Linter}
    (h : Overlaid s.others (.ofSpec linter.spec) r) :
    Merged linter.spec (given? Override.fields (own? doc linter)) r := by
  have hown := own?_eq hreads linter
  unfold Overlaid at h
  rw [ResolvedLinter.ofSpec, Linter.linter_spec] at h
  obtain ⟨hnone, rfl⟩ | ⟨v, o, include?, hsome, hread, rfl⟩ := h
  · have hown : own? doc linter = none := hown.trans hnone
    rw [hown]
    exact ⟨rfl, ⟨none, none, rfl, rfl, rfl⟩, ⟨none, rfl, rfl⟩, ⟨none, rfl, rfl⟩,
      ⟨none, rfl, rfl⟩, rfl⟩
  · have hown : own? doc linter = some v := hown.trans hsome
    obtain ⟨ho, hinclude⟩ := of_readOverride_eq_ok hread
    have hkeys : ((fieldsOf Override.fields v).map (·.1)).Nodup := by
      refine nodup_fieldsOf (by decide) fun t ht => ?_
      exact nodup_own? hordered (hown.trans (congrArg some ht))
    have hfields := Override.reads_of_foldlM hkeys (Override.foldlM_of_ofValue ho)
    rw [hown]
    refine ⟨rfl, ⟨o.run?, o.enabled?, hfields.run?, hfields.enabled?, rfl⟩,
      ⟨o.options?, hfields.options?, rfl⟩, ⟨o.include?, hfields.include?, ?_⟩,
      ⟨o.executable?, hfields.executable?, rfl⟩, rfl⟩
    rw [hinclude]
    cases include? <;> rfl

/-- A section's retry settings are what the document gives. -/
lemma reads_retry (hordered : (Value.table (lintTable doc)).Ordered)
    (hreads : s.Reads (lintTable doc)) : (s.retrySection?.getD .empty).Reads
      (given? RetrySection.fields ((lintTable doc).lookup "bootstrap")) := by
  have hretry := hreads.retrySection?
  cases hvalue : (lintTable doc).lookup "bootstrap" with
  | none =>
    rw [hvalue] at hretry
    rw [← Except.ok.inj hretry]
    exact RetrySection.reads_empty
  | some v =>
    rw [hvalue, Option.mapM_some] at hretry
    obtain ⟨r, hr, heq⟩ := map_eq_ok_iff.mp hretry
    have hv : v.Ordered := (Value.ordered_table.mp hordered).2 _ (mem_of_lookup hvalue)
    have hkeys : ((fieldsOf RetrySection.fields v).map (·.1)).Nodup := by
      refine nodup_fieldsOf (by decide) fun t ht => ?_
      subst ht
      exact (hv (.refl _)).nodup
    rw [← heq]
    exact RetrySection.reads_of_foldlM hkeys (RetrySection.foldlM_of_ofValue hr)

variable {manifest : Path} {contents : String} {config : Config}

lemma exists_merged (h : (parse manifest contents).2 = .ok config) :
    ∃ doc, Toml.parse? contents = some doc ∧
      List.Forall₂ (fun spec r => Merged spec (given? Override.fields (own? doc spec.linter)) r)
        catalog config.linters ∧
      MergedRetry (given? RetrySection.fields ((lintTable doc).lookup "bootstrap"))
        config.retry := by
  unfold parse at h
  split at h
  · cases h
  next s hsection =>
    obtain ⟨doc, hdoc, hordered, hreads⟩ := exists_of_readSection hsection
    have hmade := made_of_ofSection h
    have hkeys : (s.others.map (·.1)).Nodup :=
      (hreads.ascending_others (hordered (.refl _))).nodup
    have hoverlaid := forall₂_applyOthers hkeys hmade.others_eq
    rw [catalog, List.forall₂_map_left_iff, List.forall₂_map_left_iff] at hoverlaid
    refine ⟨doc, hdoc, ?_, ?_⟩
    · rw [catalog, List.forall₂_map_left_iff]
      refine hoverlaid.imp fun linter r hr => ?_
      rw [Linter.linter_spec]
      exact merged_of_overlaid hordered hreads hr
    · rw [hmade.retry_eq]
      exact mergedRetry_readRetry (reads_retry hordered hreads)

/-- **Each entry is merged by itself.** The entries of an accepted manifest are those of the catalog
in order, each with what is given for the fields of its linter on top; so is the retry schedule. In
two accepted manifests a linter for whose fields both give the same has the same entry, whatever
they say besides. -/
theorem merged_of_parse (h : (parse manifest contents).2 = .ok config) :
    ∃ doc, Toml.parse? contents = some doc ∧
      List.Forall₂ (fun spec r => Merged spec (given? Override.fields (own? doc spec.linter)) r)
        catalog config.linters ∧
      MergedRetry (given? RetrySection.fields ((lintTable doc).lookup "bootstrap"))
        config.retry ∧
      ∀ manifest' contents' doc' config', Toml.parse? contents' = some doc' →
        (parse manifest' contents').2 = .ok config' →
        ∀ r ∈ config.linters, ∀ r' ∈ config'.linters, r'.linter = r.linter →
          GiveAlike r.linter doc doc' → r' = r := by
  obtain ⟨doc, hdoc, hmerged, hretry⟩ := exists_merged h
  refine ⟨doc, hdoc, hmerged, hretry, fun manifest' contents' doc' config' hdoc' h' => ?_⟩
  intro r hr r' hr' hlinter hgiven
  obtain ⟨_, hdoc'', hmerged', -⟩ := exists_merged h'
  obtain rfl := Option.some.inj (hdoc''.symm.trans hdoc')
  obtain ⟨spec, hspec⟩ := exists_rel_of_mem_right hmerged hr
  obtain ⟨spec', hspec'⟩ := exists_rel_of_mem_right hmerged' hr'
  obtain rfl : spec' = spec := by
    rw [← hspec.spec_eq, ← hspec'.spec_eq, ResolvedLinter.spec, hlinter, ResolvedLinter.spec]
  have hspec_linter : spec'.linter = r.linter := by
    rw [← hspec.spec_eq, ResolvedLinter.spec, Linter.linter_spec]
  rw [hspec_linter] at hspec hspec'
  exact hspec.unique hspec' hgiven

/-- A manifest that disables a linter by one key and enables it by the other. -/
def blackManifest : String :=
  "[tool.lint]\njobs = 2\nodd = 1\n[tool.lint.black]\nrun = false\nenabled = true\n" ++
    "options = ['-S']\n"

/-- The one key wins, and the entries of all other linters are as without the manifest's text. -/
theorem merged_of_parse_blackManifest :
    ∃ config config', (parse ⟨manifestName⟩ "").2 = .ok config ∧
      (parse ⟨manifestName⟩ blackManifest).2 = .ok config' ∧
      (config'.linters.map fun r => (r.enabled, r.args)) =
        [(true, ["--py", "37"]), (false, ["-t", "py37", "-S"]), (true, ["--py37-plus"]),
          (true, []), (true, []), (true, [])] ∧
      ∀ r ∈ config.linters, ∀ r' ∈ config'.linters, r'.linter = r.linter → r.linter ≠ .black →
        r' = r := by
  have hempty : ((parse ⟨manifestName⟩ "").2.toOption.map fun config => config.linters.length) =
      some 6 := by decide +kernel
  have hblack : ((parse ⟨manifestName⟩ blackManifest).2.toOption.map fun config =>
      config.linters.map fun r => (r.enabled, r.args)) =
        some [(true, ["--py", "37"]), (false, ["-t", "py37", "-S"]), (true, ["--py37-plus"]),
          (true, []), (true, []), (true, [])] := by decide +kernel
  have hown : ((Toml.parse? "").map fun doc => Linter.all.filter fun l => (own? doc l).isSome) =
      some [] := by decide +kernel
  have hown' : ((Toml.parse? blackManifest).map fun doc =>
      Linter.all.filter fun l => (own? doc l).isSome) = some [.black] := by decide +kernel
  obtain ⟨config, hconfig, -⟩ := Option.map_eq_some_iff.mp hempty
  obtain ⟨config', hconfig', hentries⟩ := Option.map_eq_some_iff.mp hblack
  have h := toOption_eq_some_iff.mp hconfig
  have h' := toOption_eq_some_iff.mp hconfig'
  obtain ⟨doc, hdoc, -, -, hagree⟩ := merged_of_parse h
  obtain ⟨doc', hdoc', hdoc'own⟩ := Option.map_eq_some_iff.mp hown'
  rw [hdoc, Option.map_some, Option.some.injEq] at hown
  refine ⟨config, config', h, h', hentries, fun r hr r' hr' hlinter hblack => ?_⟩
  have hnone (l : Linter) : own? doc l = none := by
    have hnot := List.filter_eq_nil_iff.mp hown l (Linter.mem_all l)
    simpa using hnot
  have hnone' : own? doc' r.linter = none := by
    have hnot : r.linter ∉ Linter.all.filter fun l => (own? doc' l).isSome := by
      rw [hdoc'own]
      simpa using hblack
    simpa using hnot
  refine hagree _ _ doc' config' hdoc' h' r hr r' hr' hlinter fun field _ => ?_
  rw [hnone, hnone']

end Accepted

end LintChain.Config
