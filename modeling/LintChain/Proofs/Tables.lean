import LintChain.Toml.Parser
import Mathlib.Data.List.Nodup
import Mathlib.Data.String.Basic
import Mathlib.Tactic.Common

/-!
The tables of a document. Whatever the order in which a text gives the keys of a table, and whether
it does so by headers, by dotted keys or between braces: in the document the keys of every table
stand in ascending order, each once.
-/

namespace LintChain.Toml

/-! ### Keys in order -/

section Ascending

variable {α : Type} {key : String} {a : α} {es : List (String × α)}

/-- Keys stand in ascending order, each once. -/
def Ascending (es : List (String × α)) : Prop := es.Pairwise fun a b => a.1 < b.1

lemma Ascending.nodup (h : Ascending es) : (es.map (·.1)).Nodup :=
  List.pairwise_map.mpr (h.imp ne_of_lt)

lemma Ascending.sublist {fs : List (String × α)} (h : Ascending es) (hsub : fs.Sublist es) :
    Ascending fs :=
  List.Pairwise.sublist hsub h

lemma ascending_of_map_eq {β : Type} {fs : List (String × β)} (h : Ascending es)
    (hkeys : fs.map (·.1) = es.map (·.1)) : Ascending fs := by
  have hes : (es.map (·.1)).Pairwise (· < ·) := List.pairwise_map.mpr h
  rw [← hkeys] at hes
  exact List.pairwise_map.mp hes

/-- The keys before an entry are smaller, and those after it larger. -/
lemma Ascending.lt_of_mem {e : String × α} {before after : List (String × α)}
    (h : Ascending (before ++ e :: after)) :
    (∀ f ∈ before, f.1 < e.1) ∧ ∀ f ∈ after, e.1 < f.1 := by
  obtain ⟨-, hafter, hbefore⟩ := List.pairwise_append.mp h
  exact ⟨fun f hf => hbefore f hf e List.mem_cons_self, (List.pairwise_cons.mp hafter).1⟩

lemma Ascending.ne_of_mem {e : String × α} {before after : List (String × α)}
    (h : Ascending (before ++ e :: after)) :
    (∀ f ∈ before, f.1 ≠ e.1) ∧ ∀ f ∈ after, f.1 ≠ e.1 := by
  obtain ⟨hbefore, hafter⟩ := h.lt_of_mem
  exact ⟨fun f hf => (hbefore f hf).ne, fun f hf => (hafter f hf).ne'⟩

lemma mem_insertSorted {e : String × α} : e ∈ insertSorted key a es ↔ e = (key, a) ∨ e ∈ es := by
  induction es with
  | nil => simp [insertSorted]
  | cons f rest ih =>
    unfold insertSorted
    split
    · rw [List.mem_cons]
    · rw [List.mem_cons, ih, List.mem_cons, or_left_comm]

lemma ascending_insertSorted (h : Ascending es) (hkey : ∀ e ∈ es, e.1 ≠ key) :
    Ascending (insertSorted key a es) := by
  induction es with
  | nil => exact List.pairwise_singleton _ _
  | cons f rest ih =>
    obtain ⟨hf, hrest⟩ := List.pairwise_cons.mp h
    obtain ⟨hfkey, hkey⟩ := List.forall_mem_cons.mp hkey
    unfold insertSorted
    split
    next hlt =>
      refine List.pairwise_cons.mpr ⟨fun e he => ?_, h⟩
      rcases List.mem_cons.mp he with rfl | he
      · exact hlt
      · exact lt_trans hlt (hf e he)
    next hnot =>
      have hlt : f.1 < key := lt_of_le_of_ne (not_lt.mp hnot) hfkey
      refine List.pairwise_cons.mpr ⟨fun e he => ?_, ih hrest hkey⟩
      rcases mem_insertSorted.mp he with rfl | he
      · exact hlt
      · exact hf e he

end Ascending

/-! ### Equal values -/

mutual

/-- Whether two values are the same, item by item and entry by entry. -/
def Value.same : Value → Value → Bool
  | .string a, .string b => a == b
  | .integer m, .integer n => m == n
  | .unreadableInteger, .unreadableInteger => true
  | .float x, .float y => x == y
  | .hugeFloat, .hugeFloat => true
  | .boolean a, .boolean b => a == b
  | .datetime a, .datetime b => a == b
  | .array us, .array vs => sameItems us vs
  | .table t, .table u => sameEntries t u
  | _, _ => false

def sameItems : List Value → List Value → Bool
  | [], [] => true
  | u :: us, v :: vs => u.same v && sameItems us vs
  | _, _ => false

def sameEntries : Table → Table → Bool
  | [], [] => true
  | (key, u) :: us, (key', v) :: vs => key == key' && u.same v && sameEntries us vs
  | _, _ => false

end

mutual

lemma Value.same_iff : (u v : Value) → (u.same v ↔ u = v)
  | .array us, v => by cases v <;> simp [Value.same, sameItems_iff us]
  | .table t, v => by cases v <;> simp [Value.same, sameEntries_iff t]
  | .string _, v => by cases v <;> simp [Value.same]
  | .integer _, v => by cases v <;> simp [Value.same]
  | .unreadableInteger, v => by cases v <;> simp [Value.same]
  | .float _, v => by cases v <;> simp [Value.same]
  | .hugeFloat, v => by cases v <;> simp [Value.same]
  | .boolean _, v => by cases v <;> simp [Value.same]
  | .datetime _, v => by cases v <;> simp [Value.same]

lemma sameItems_iff : (us vs : List Value) → (sameItems us vs ↔ us = vs)
  | [], vs => by cases vs <;> simp [sameItems]
  | u :: us, vs => by cases vs <;> simp [sameItems, u.same_iff, sameItems_iff us]

lemma sameEntries_iff : (t u : Table) → (sameEntries t u ↔ t = u)
  | [], u => by cases u <;> simp [sameEntries]
  | (key, v) :: rest, u => by
    rcases u with _ | ⟨⟨key', w⟩, more⟩ <;>
      simp [sameEntries, v.same_iff, sameEntries_iff rest, and_assoc]

end

instance : DecidableEq Value := fun u v => decidable_of_iff _ (u.same_iff v)

/-! ### Values within values -/

/-- A value inside another one, or that value itself. -/
inductive Value.Within : Value → Value → Prop
  | refl (v : Value) : Within v v
  | item {u v : Value} {items : List Value} : v ∈ items → Within u v → Within u (.array items)
  | entry {u v : Value} {key : String} {t : Table} :
      (key, v) ∈ t → Within u v → Within u (.table t)

/-- The keys of all tables of a value stand in order. -/
def Value.Ordered (v : Value) : Prop := ∀ ⦃t : Table⦄, (Value.table t).Within v → Ascending t

namespace Value

lemma ordered_array {items : List Value} : (array items).Ordered ↔ ∀ v ∈ items, v.Ordered := by
  constructor
  · intro h v hv t ht
    exact h (.item hv ht)
  · intro h t ht
    cases ht with
    | item hmem hwithin => exact h _ hmem hwithin

lemma ordered_table {t : Table} :
    (table t).Ordered ↔ Ascending t ∧ ∀ e ∈ t, e.2.Ordered := by
  constructor
  · intro h
    exact ⟨h (.refl _), fun e he u hu => h (.entry he hu)⟩
  · rintro ⟨ht, hentries⟩ u hu
    cases hu with
    | refl => exact ht
    | entry hmem hwithin => exact hentries _ hmem hwithin

end Value

/-! ### Tables under construction -/

namespace Node

/-- The keys stand in order, and so do those of all tables in the values. -/
def OrderedEntries (es : Entries) : Prop := Ascending es ∧ ∀ e ∈ es, e.2.toValue.Ordered

lemma entriesToValues_eq (es : Entries) :
    entriesToValues es = es.map fun e => (e.1, e.2.toValue) := by
  induction es with
  | nil => rfl
  | cons e rest ih => rw [entriesToValues, ih, List.map_cons]

lemma elementsToValues_eq (nodes : List Node) : elementsToValues nodes = nodes.map toValue := by
  induction nodes with
  | nil => rfl
  | cons node rest ih => rw [elementsToValues, ih, List.map_cons]

@[simp] lemma orderedEntries_nil : OrderedEntries [] := ⟨.nil, by simp⟩

lemma ordered_toValue_table {origin : Origin} {es : Entries} :
    (table origin es).toValue.Ordered ↔ OrderedEntries es := by
  rw [toValue, entriesToValues_eq, Value.ordered_table, OrderedEntries, Ascending, Ascending,
    List.pairwise_map, List.forall_mem_map]

lemma ordered_toValue_tables {elements : List Node} :
    (tables elements).toValue.Ordered ↔ ∀ node ∈ elements, node.toValue.Ordered := by
  rw [toValue, elementsToValues_eq, Value.ordered_array]
  simp only [List.mem_reverse, List.forall_mem_map]

variable {es es' : Entries} {key : String} {node : Node}

lemma OrderedEntries.find? (h : OrderedEntries es) (hfind : Node.find? es key = some node) :
    node.toValue.Ordered := by
  obtain ⟨e, he, rfl⟩ := Option.map_eq_some_iff.mp hfind
  exact h.2 e (List.mem_of_find?_eq_some he)

/-- An entry is put in its place, where it replaces the one of its key. -/
lemma OrderedEntries.put (h : OrderedEntries es) (hnode : node.toValue.Ordered) :
    OrderedEntries (Node.put es key node) := by
  have hothers : Ascending (es.filter fun e => e.1 != key) := h.1.sublist List.filter_sublist
  refine ⟨ascending_insertSorted hothers fun e he => ?_, fun e he => ?_⟩
  · simpa using (List.mem_filter.mp he).2
  · rcases mem_insertSorted.mp he with rfl | he
    · exact hnode
    · exact h.2 e (List.mem_of_mem_filter he)

/-- A change that keeps tables in order may happen at the end of any path. -/
lemma OrderedEntries.descend {isDotted : Bool} {change : Origin → Entries → Option Entries}
    (hchange : ∀ origin es es', OrderedEntries es → change origin es = some es' →
      OrderedEntries es')
    {path : List String} {origin : Origin} (h : OrderedEntries es)
    (hdescend : Node.descend isDotted change path origin es = some es') :
    OrderedEntries es' := by
  induction path generalizing origin es es' with
  | nil => exact hchange origin es es' h hdescend
  | cons key path ih =>
    rw [Node.descend] at hdescend
    split at hdescend
    next hfind =>
      -- a table is made
      obtain ⟨inner, hinner, hput⟩ := Option.bind_eq_some_iff.mp hdescend
      obtain rfl := Option.some.inj hput
      exact h.put (ordered_toValue_table.mpr (ih orderedEntries_nil hinner))
    next found entries hfind =>
      split at hdescend
      · cases hdescend
      · obtain ⟨inner, hinner, hput⟩ := Option.bind_eq_some_iff.mp hdescend
        obtain rfl := Option.some.inj hput
        have hentries := ordered_toValue_table.mp (h.find? hfind)
        exact h.put (ordered_toValue_table.mpr (ih hentries hinner))
    next found entries earlier hfind =>
      -- the last table of an array
      obtain ⟨inner, hinner, hput⟩ := Option.bind_eq_some_iff.mp hdescend
      obtain rfl := Option.some.inj hput
      have helements := ordered_toValue_tables.mp (h.find? hfind)
      obtain ⟨hlast, hearlier⟩ := List.forall_mem_cons.mp helements
      have hinner := ih (ordered_toValue_table.mp hlast) hinner
      exact h.put (ordered_toValue_tables.mpr
        (List.forall_mem_cons.mpr ⟨ordered_toValue_table.mpr hinner, hearlier⟩))
    · cases hdescend

lemma ordered_toValue_empty (origin : Origin) : (table origin []).toValue.Ordered :=
  ordered_toValue_table.mpr orderedEntries_nil

lemma OrderedEntries.openTable {path : List String} (h : OrderedEntries es)
    (hopen : Node.openTable path key es = some es') : OrderedEntries es' := by
  refine h.descend (fun origin es es' h hchange => ?_) hopen
  split at hchange
  · obtain rfl := Option.some.inj hchange
    exact h.put (ordered_toValue_empty _)
  next inner hfind =>
    obtain rfl := Option.some.inj hchange
    have hinner := ordered_toValue_table.mp (h.find? hfind)
    exact h.put (ordered_toValue_table.mpr hinner)
  · cases hchange

lemma OrderedEntries.openElement {path : List String} (h : OrderedEntries es)
    (hopen : Node.openElement path key es = some es') : OrderedEntries es' := by
  refine h.descend (fun origin es es' h hchange => ?_) hopen
  have hempty := ordered_toValue_empty .named
  split at hchange
  · obtain rfl := Option.some.inj hchange
    exact h.put (ordered_toValue_tables.mpr (List.forall_mem_singleton.mpr hempty))
  next elements hfind =>
    obtain rfl := Option.some.inj hchange
    have helements := ordered_toValue_tables.mp (h.find? hfind)
    exact h.put (ordered_toValue_tables.mpr (List.forall_mem_cons.mpr ⟨hempty, helements⟩))
  · cases hchange

lemma OrderedEntries.assign {path : List String} {v : Value} {origin : Origin}
    (h : OrderedEntries es) (hv : v.Ordered)
    (hassign : Node.assign path key v origin es = some es') : OrderedEntries es' := by
  refine h.descend (fun origin es es' h hchange => ?_) hassign
  split_ifs at hchange
  obtain rfl := Option.some.inj hchange
  exact h.put hv

end Node

/-! ### Values as they are read -/

/-- A word stands for a value with nothing in it. -/
def Value.IsAtom : Value → Prop
  | .array _ => False
  | .table _ => False
  | _ => True

lemma Value.IsAtom.ordered {v : Value} (h : v.IsAtom) : v.Ordered := by
  intro t ht
  cases ht with
  | refl => exact absurd h id
  | item => exact absurd h id
  | entry => exact absurd h id

variable {cs rest : List Char} {v : Value}

lemma isAtom_of_datetime? (h : datetime? cs = some v) : v.IsAtom := by
  unfold datetime? at h
  split at h
  · obtain rfl := Option.some.inj h
    trivial
  · cases h

lemma isAtom_of_radixInteger? {base : Nat} (h : radixInteger? base cs = some v) : v.IsAtom := by
  unfold radixInteger? at h
  split at h
  · obtain rfl := Option.some.inj h
    trivial
  · obtain ⟨ds, -, rfl⟩ := Option.map_eq_some_iff.mp h
    trivial

lemma isAtom_of_integer? (h : integer? cs = some v) : v.IsAtom := by
  unfold integer? at h
  split at h
  iterate 3 exact isAtom_of_radixInteger? h
  dsimp only at h
  split at h
  · obtain rfl := Option.some.inj h
    trivial
  · split at h
    · obtain rfl := Option.some.inj h
      trivial
    · cases h

lemma isAtom_of_ofDecimal {negative : Bool} {n : Nat} {exponent : Int}
    (h : (match Binary64.ofDecimal negative n exponent with
      | .infinity _ => some Value.hugeFloat
      | x => some (Value.float x)) = some v) : v.IsAtom := by
  split at h <;> obtain rfl := Option.some.inj h <;> trivial

lemma isAtom_of_float? (h : float? cs = some v) : v.IsAtom := by
  unfold float? at h
  simp only [Option.bind_eq_bind, Option.pure_def] at h
  split at h
  · obtain rfl := Option.some.inj h
    trivial
  split at h
  · obtain rfl := Option.some.inj h
    trivial
  obtain ⟨whole, -, h⟩ := Option.bind_eq_some_iff.mp h
  -- with a fraction or without one, and with an exponent or without one
  split at h
  all_goals
    obtain ⟨fraction, -, h⟩ := Option.bind_eq_some_iff.mp h
    split at h
    · split at h
      · cases h
      · exact isAtom_of_ofDecimal h
    · obtain ⟨exponent, -, h⟩ := Option.bind_eq_some_iff.mp h
      exact isAtom_of_ofDecimal h

lemma isAtom_of_scalar? (h : scalar? cs = some v) : v.IsAtom := by
  unfold scalar? at h
  split_ifs at h
  · obtain rfl := Option.some.inj h
    trivial
  · obtain rfl := Option.some.inj h
    trivial
  rw [Option.orElse_eq_or, Option.orElse_eq_or] at h
  rcases Option.or_eq_some_iff.mp h with h | ⟨-, h⟩
  · rcases Option.or_eq_some_iff.mp h with h | ⟨-, h⟩
    · exact isAtom_of_integer? h
    · exact isAtom_of_float? h
  · exact isAtom_of_datetime? h

lemma isAtom_of_word (h : word cs = some (v, rest)) : v.IsAtom := by
  unfold word at h
  dsimp only at h
  rw [Option.orElse_eq_or] at h
  rcases Option.or_eq_some_iff.mp h with h | ⟨-, h⟩
  · split at h
    · split at h
      · obtain ⟨u, hu, heq⟩ := Option.map_eq_some_iff.mp h
        cases heq
        exact isAtom_of_datetime? hu
      · cases h
    · cases h
  · obtain ⟨u, hu, heq⟩ := Option.map_eq_some_iff.mp h
    cases heq
    exact isAtom_of_scalar? hu

/-- Values are read with all tables in order, arrays and tables between brackets included. -/
lemma ordered_of_value_items_entries (n : Nat) :
    (∀ {depth cs v rest}, value depth n cs = some (v, rest) → v.Ordered) ∧
    (∀ {depth before cs v rest}, (∀ u ∈ before, u.Ordered) →
      items depth before n cs = some (v, rest) → v.Ordered) ∧
    (∀ {depth before cs v rest}, Node.OrderedEntries before →
      entries depth before n cs = some (v, rest) → v.Ordered) := by
  induction n with
  | zero => simp [value, items, entries]
  | succ n ih =>
    obtain ⟨hvalue, hitems, hentries⟩ := ih
    refine ⟨fun {depth cs v rest} h => ?_, fun {depth before cs v rest} hbefore h => ?_,
      fun {depth before cs v rest} hbefore h => ?_⟩
    · rw [value.eq_def] at h
      dsimp only at h
      split at h
      · split at h
        · exact hitems (by simp) h
        · cases h
      · split at h
        · exact hentries Node.orderedEntries_nil h
        · cases h
      · obtain ⟨⟨s, after⟩, -, heq⟩ := Option.map_eq_some_iff.mp h
        cases heq
        exact Value.IsAtom.ordered trivial
      · obtain ⟨⟨s, after⟩, -, heq⟩ := Option.map_eq_some_iff.mp h
        cases heq
        exact Value.IsAtom.ordered trivial
      · exact (isAtom_of_word h).ordered
    · rw [items] at h
      obtain ⟨start, -, h⟩ := Option.bind_eq_some_iff.mp h
      split at h
      · cases h
        exact Value.ordered_array.mpr fun u hu => hbefore u (List.mem_reverse.mp hu)
      · obtain ⟨⟨u, after⟩, hu, h⟩ := Option.bind_eq_some_iff.mp h
        have hmore : ∀ w ∈ u :: before, w.Ordered :=
          List.forall_mem_cons.mpr ⟨hvalue hu, hbefore⟩
        obtain ⟨next, -, h⟩ := Option.bind_eq_some_iff.mp h
        split at h
        · exact hitems hmore h
        · cases h
          exact Value.ordered_array.mpr fun w hw => hmore w (List.mem_reverse.mp hw)
        · cases h
    · rw [entries] at h
      obtain ⟨start, -, h⟩ := Option.bind_eq_some_iff.mp h
      split at h
      · cases h
        exact Node.ordered_toValue_table.mpr hbefore
      · obtain ⟨⟨path, key, rest⟩, -, h⟩ := Option.bind_eq_some_iff.mp h
        obtain ⟨sign, -, h⟩ := Option.bind_eq_some_iff.mp h
        obtain ⟨more, -, h⟩ := Option.bind_eq_some_iff.mp h
        obtain ⟨text, -, h⟩ := Option.bind_eq_some_iff.mp h
        obtain ⟨⟨u, end'⟩, hu, h⟩ := Option.bind_eq_some_iff.mp h
        obtain ⟨after, hafter, h⟩ := Option.bind_eq_some_iff.mp h
        obtain ⟨next, -, h⟩ := Option.bind_eq_some_iff.mp h
        have hordered : Node.OrderedEntries after := hbefore.assign (hvalue hu) hafter
        split at h
        · exact hentries hordered h
        · cases h
          exact Node.ordered_toValue_table.mpr hordered
        · cases h

lemma ordered_of_value {depth n : Nat} (h : value depth n cs = some (v, rest)) : v.Ordered :=
  (ordered_of_value_items_entries n).1 h

/-! ### Documents -/

lemma orderedEntries_of_line {d d' : Document} (h : Node.OrderedEntries d.root)
    (hline : line d cs = some (d', rest)) : Node.OrderedEntries d'.root := by
  unfold line at hline
  split at hline
  · obtain ⟨⟨path, key, more⟩, -, hline⟩ := Option.bind_eq_some_iff.mp hline
    obtain ⟨_, -, hline⟩ := Option.bind_eq_some_iff.mp hline
    obtain ⟨_, -, hline⟩ := Option.bind_eq_some_iff.mp hline
    obtain ⟨root, hroot, hline⟩ := Option.bind_eq_some_iff.mp hline
    cases hline
    exact h.openElement hroot
  · obtain ⟨⟨path, key, more⟩, -, hline⟩ := Option.bind_eq_some_iff.mp hline
    obtain ⟨_, -, hline⟩ := Option.bind_eq_some_iff.mp hline
    obtain ⟨root, hroot, hline⟩ := Option.bind_eq_some_iff.mp hline
    cases hline
    exact h.openTable hroot
  · obtain ⟨⟨path, key, more⟩, -, hline⟩ := Option.bind_eq_some_iff.mp hline
    obtain ⟨_, -, hline⟩ := Option.bind_eq_some_iff.mp hline
    obtain ⟨⟨v, after⟩, hv, hline⟩ := Option.bind_eq_some_iff.mp hline
    obtain ⟨assigned, hassigned, hline⟩ := Option.bind_eq_some_iff.mp hline
    cases hline
    obtain ⟨root, hroot, heq⟩ := Option.bind_eq_some_iff.mp hassigned
    cases heq
    have hv := ordered_of_value hv
    exact h.descend (fun origin es es' hes hassign => hes.assign hv hassign) hroot

lemma orderedEntries_of_readLines {n : Nat} {d d' : Document} (h : Node.OrderedEntries d.root)
    (hread : readLines n d cs = some d') : Node.OrderedEntries d'.root := by
  induction n generalizing d cs with
  | zero =>
    obtain rfl := Option.some.inj hread
    exact h
  | succ n ih =>
    rw [readLines] at hread
    obtain ⟨start, -, hread⟩ := Option.bind_eq_some_iff.mp hread
    split at hread
    · obtain rfl := Option.some.inj hread
      exact h
    · obtain ⟨⟨next, more⟩, hnext, hread⟩ := Option.bind_eq_some_iff.mp hread
      obtain ⟨after, -, hread⟩ := Option.bind_eq_some_iff.mp hread
      exact ih (orderedEntries_of_line h hnext) hread

/-- **The tables of a document are in order**, the whole document and all that are in it. -/
theorem ordered_of_parse? {text : String} {doc : Table} (h : parse? text = some doc) :
    (Value.table doc).Ordered := by
  obtain ⟨d, hd, heq⟩ := Option.bind_eq_some_iff.mp h
  obtain rfl := Option.some.inj heq
  have hroot : Node.OrderedEntries d.root :=
    orderedEntries_of_readLines Node.orderedEntries_nil hd
  have htable : (Node.table .named d.root).toValue.Ordered :=
    Node.ordered_toValue_table.mpr hroot
  exact htable

end LintChain.Toml
