import LintChain.Discovery
import Mathlib.Data.List.Nodup
import Mathlib.Tactic.Common

/-!
What comes first. Components, paths and targets are ordered from end to end; of several elements
with one key the first is kept; and a stable sort does not depend on how its input is arranged, but
for elements that stand on one level.
-/

namespace LintChain

open Std (TransCmp LawfulEqCmp OrientedCmp)

/-! ### Orders -/

lemma transCmp_on {α β : Type} {cmp : β → β → Ordering} [TransCmp cmp] (f : α → β) :
    TransCmp fun a b => cmp (f a) (f b) where
  eq_swap := OrientedCmp.eq_swap
  isLE_trans := TransCmp.isLE_trans

namespace Component

/-- Components are ordered by their kinds, and names by their texts. -/
lemma order_eq : order = compareLex (compareOn rank) (compareOn text) := by
  funext a b
  cases a <;> cases b <;> rfl

instance : TransCmp order := order_eq ▸ inferInstance

instance : LawfulEqCmp order where
  compare_self {a} := by cases a <;> simp [order]
  eq_of_compare {a b} h := by
    cases a <;> cases b <;> simp_all [order, rank]

end Component

namespace Path

lemma orderComponents_eq : orderComponents = List.compareLex Component.order := by
  funext cs ds
  fun_induction orderComponents cs ds with
  | case4 c cs d ds ih => rw [List.compareLex_cons_cons, ih]
  | _ => rfl

instance : TransCmp orderComponents := orderComponents_eq ▸ inferInstance

instance : LawfulEqCmp orderComponents := orderComponents_eq ▸ inferInstance

instance : TransCmp order := transCmp_on components

lemma order_eq_eq_iff {p q : Path} : p.order q = .eq ↔ p.components = q.components := by
  rw [order, LawfulEqCmp.compare_eq_iff_eq]

end Path

namespace Target

instance : TransCmp order :=
  have : TransCmp fun t u : Target => t.path.order u.path := transCmp_on path
  have : TransCmp fun t u : Target => t.absolute.order u.absolute := transCmp_on absolute
  inferInstanceAs (TransCmp (compareLex _ _))

lemma le_eq_isLE (t u : Target) : t.le u = (t.order u).isLE := by
  unfold le
  cases t.order u <;> rfl

lemma le_trans (t u v : Target) (htu : t.le u) (huv : u.le v) : t.le v := by
  rw [le_eq_isLE] at *
  exact TransCmp.isLE_trans htu huv

lemma le_total (t u : Target) : t.le u || u.le t := by
  have hswap : t.order u = (u.order t).swap := OrientedCmp.eq_swap
  rw [le_eq_isLE, le_eq_isLE, hswap]
  cases u.order t <;> rfl

/-- The path decides, unless it has the same components. -/
lemma path_lt_of_le {t u : Target} (h : t.le u) (hne : t.path.order u.path ≠ .eq) :
    t.path.order u.path = .lt := by
  rw [le_eq_isLE, order] at h
  cases hpath : t.path.order u.path with
  | lt => rfl
  | eq => exact absurd hpath hne
  | gt => simp [hpath] at h

/-- Targets on one level have absolute paths with the same components. -/
lemma components_eq_of_le {t u : Target} (h : t.le u) (h' : u.le t) :
    t.absolute.components = u.absolute.components := by
  rw [le_eq_isLE] at h h'
  have horder := OrientedCmp.isLE_antisymm h h'
  exact Path.order_eq_eq_iff.mp (Ordering.then_eq_eq.mp horder).2

end Target

/-! ### The first with a key -/

section KeepFirst

variable {α κ : Type} [DecidableEq κ] {key : α → κ} {a : α} {xs ys : List α}

/-- **What is kept is what has no other with its key before it.** -/
lemma mem_keepFirst_iff : a ∈ keepFirst key xs ↔
    ∃ before after, xs = before ++ a :: after ∧ ∀ b ∈ before, key b ≠ key a := by
  induction xs with
  | nil => simp [keepFirst]
  | cons x xs ih =>
    rw [keepFirst, List.mem_cons, List.mem_filter, ih, decide_eq_true_eq]
    constructor
    · rintro (rfl | ⟨⟨before, after, rfl, hbefore⟩, hx⟩)
      · exact ⟨[], xs, rfl, by simp⟩
      · exact ⟨x :: before, after, rfl, List.forall_mem_cons.mpr ⟨hx.symm, hbefore⟩⟩
    · rintro ⟨before, after, heq, hbefore⟩
      rcases List.cons_eq_append_iff.mp heq with ⟨rfl, hcons⟩ | ⟨before, rfl, rfl⟩
      · exact .inl (List.cons.inj hcons).1
      · obtain ⟨hx, hbefore⟩ := List.forall_mem_cons.mp hbefore
        exact .inr ⟨⟨before, after, rfl, hbefore⟩, hx.symm⟩

lemma mem_of_mem_keepFirst (h : a ∈ keepFirst key xs) : a ∈ xs := by
  obtain ⟨before, after, rfl, -⟩ := mem_keepFirst_iff.mp h
  simp

/-- Each key is kept. -/
lemma exists_mem_keepFirst (h : a ∈ xs) : ∃ b ∈ keepFirst key xs, key b = key a := by
  induction xs with
  | nil => cases h
  | cons x xs ih =>
    by_cases hx : key x = key a
    · exact ⟨x, List.mem_cons_self, hx⟩
    · rcases List.mem_cons.mp h with rfl | h
      · exact absurd rfl hx
      · obtain ⟨b, hb, hkey⟩ := ih h
        have hkept : b ∈ (keepFirst key xs).filter fun c => key c ≠ key x :=
          List.mem_filter.mpr ⟨hb, by simpa [hkey] using Ne.symm hx⟩
        exact ⟨b, List.mem_cons_of_mem _ hkept, hkey⟩

/-- No key is kept twice. -/
lemma pairwise_keepFirst : (keepFirst key xs).Pairwise fun a b => key a ≠ key b := by
  induction xs with
  | nil => exact .nil
  | cons x xs ih =>
    refine .cons (fun b hb => ?_) (ih.filter _)
    exact Ne.symm (by simpa using (List.mem_filter.mp hb).2)

lemma nodup_keepFirst : (keepFirst key xs).Nodup :=
  pairwise_keepFirst.imp fun h heq => h (congrArg key heq)

lemma eq_of_mem_keepFirst {b : α} (ha : a ∈ keepFirst key xs) (hb : b ∈ keepFirst key xs)
    (h : key a = key b) : a = b :=
  List.inj_on_of_nodup_map (List.pairwise_map.mpr pairwise_keepFirst) ha hb h

/-- Where keys tell everything apart, everything is kept. -/
lemma mem_keepFirst_iff_mem (hkey : ∀ a ∈ xs, ∀ b ∈ xs, key a = key b → a = b) :
    a ∈ keepFirst key xs ↔ a ∈ xs := by
  refine ⟨mem_of_mem_keepFirst, fun ha => ?_⟩
  obtain ⟨b, hb, hab⟩ : ∃ b ∈ keepFirst key xs, key b = key a := exists_mem_keepFirst ha
  obtain rfl := hkey b (mem_of_mem_keepFirst hb) a ha hab
  exact hb

/-- Of a second list that is kept which the first does not have. -/
lemma keepFirst_append : keepFirst key (xs ++ ys) =
    keepFirst key xs ++ (keepFirst key ys).filter fun b => key b ∉ xs.map key := by
  induction xs with
  | nil => simp [keepFirst, List.filter_true]
  | cons x xs ih =>
    simp only [List.cons_append, keepFirst, ih, List.filter_append, List.filter_filter,
      List.map_cons, List.mem_cons, not_or, Bool.decide_and]

end KeepFirst

/-! ### Stable sorting -/

section Sorting

variable {α : Type} {le : α → α → Bool}

/-- The elements of a list that stand on one level with an element. -/
def level (le : α → α → Bool) (a : α) (xs : List α) : List α := xs.filter fun b => le a b && le b a

lemma mem_level {a b : α} {xs : List α} : b ∈ level le a xs ↔ b ∈ xs ∧ le a b ∧ le b a := by
  simp [level]

lemma mem_iff_of_level_eq {xs ys : List α} (hrefl : ∀ a, le a a)
    (h : ∀ a, level le a xs = level le a ys) (a : α) : a ∈ xs ↔ a ∈ ys := by
  have hmem (xs : List α) : a ∈ level le a xs ↔ a ∈ xs := by simp [mem_level, hrefl]
  rw [← hmem xs, h a, hmem ys]

/-- Sorted lists with the same levels are the same. -/
lemma eq_of_level_eq {xs ys : List α} (hrefl : ∀ a, le a a) (hxs : xs.Pairwise (le · ·))
    (hys : ys.Pairwise (le · ·)) (h : ∀ a, level le a xs = level le a ys) : xs = ys := by
  have hmem := mem_iff_of_level_eq hrefl h
  induction xs generalizing ys with
  | nil => exact (List.eq_nil_iff_forall_not_mem.mpr fun a => (hmem a).not.mp List.not_mem_nil).symm
  | cons x xs ih =>
    cases ys with
    | nil => exact absurd ((hmem x).mp List.mem_cons_self) List.not_mem_nil
    | cons y ys =>
      obtain ⟨hx, hxs'⟩ := List.pairwise_cons.mp hxs
      obtain ⟨hy, hys'⟩ := List.pairwise_cons.mp hys
      have hxy : le x y := by
        rcases List.mem_cons.mp ((hmem y).mpr List.mem_cons_self) with rfl | hmem
        · exact hrefl _
        · exact hx _ hmem
      have hyx : le y x := by
        rcases List.mem_cons.mp ((hmem x).mp List.mem_cons_self) with rfl | hmem
        · exact hrefl _
        · exact hy _ hmem
      -- both are the first on one level
      have hfirst := h x
      simp only [level, List.filter_cons, hrefl, hxy, hyx, Bool.and_self, if_true] at hfirst
      obtain ⟨rfl, -⟩ := List.cons.inj hfirst
      have htail (a : α) : level le a xs = level le a ys := by
        have hlevel := h a
        simp only [level, List.filter_cons] at hlevel
        split at hlevel
        · exact (List.cons.inj hlevel).2
        · exact hlevel
      rw [ih hxs' hys' htail (mem_iff_of_level_eq hrefl htail)]

/-- A stable sort keeps each level as it is. -/
lemma level_mergeSort (htrans : ∀ a b c, le a b → le b c → le a c)
    (htotal : ∀ a b, le a b || le b a) (a : α) (xs : List α) :
    level le a (xs.mergeSort le) = level le a xs := by
  have hlevel : (level le a xs).Pairwise (le · ·) :=
    List.pairwise_of_forall_mem_list fun b hb c hc =>
      htrans _ _ _ (mem_level.mp hb).2.2 (mem_level.mp hc).2.1
  have hsub := (List.sublist_mergeSort htrans htotal hlevel List.filter_sublist).filter
    fun b => le a b && le b a
  rw [level, List.filter_filter] at hsub
  simp only [Bool.and_self] at hsub
  exact (hsub.eq_of_length ((List.mergeSort_perm xs le).filter _).length_eq.symm).symm

/-- **Only the order on each level matters** to a stable sort. -/
theorem mergeSort_congr {xs ys : List α} (htrans : ∀ a b c, le a b → le b c → le a c)
    (htotal : ∀ a b, le a b || le b a) (h : ∀ a, level le a xs = level le a ys) :
    xs.mergeSort le = ys.mergeSort le := by
  refine eq_of_level_eq (fun a => by simpa using htotal a a)
    (List.pairwise_mergeSort htrans htotal _) (List.pairwise_mergeSort htrans htotal _) fun a => ?_
  rw [level_mergeSort htrans htotal, level_mergeSort htrans htotal, h a]

/-! ### Blocks -/

section Blocks

variable {β κ : Type} [DecidableEq κ] {key : α → κ}

/-- What a list arranges does not matter to its levels, where keys and levels tell all apart. -/
lemma level_keepFirst_congr {xs ys : List α} (hmem : ∀ a, a ∈ xs ↔ a ∈ ys)
    (hkey : ∀ a ∈ xs, ∀ b ∈ xs, key a = key b → a = b)
    (hle : ∀ a ∈ xs, ∀ b ∈ xs, le a b → le b a → a = b)
    (htrans : ∀ a b c, le a b → le b c → le a c) (c : α) :
    level le c (keepFirst key xs) = level le c (keepFirst key ys) := by
  have hkey' : ∀ a ∈ ys, ∀ b ∈ ys, key a = key b → a = b := fun a ha b hb =>
    hkey a ((hmem a).mpr ha) b ((hmem b).mpr hb)
  have hperm : (level le c (keepFirst key xs)).Perm (level le c (keepFirst key ys)) := by
    have hnodup (xs : List α) : (level le c (keepFirst key xs)).Nodup := nodup_keepFirst.filter _
    refine (List.perm_ext_iff_of_nodup (hnodup xs) (hnodup ys)).mpr fun a => ?_
    rw [mem_level, mem_level, mem_keepFirst_iff_mem hkey, mem_keepFirst_iff_mem hkey', hmem]
  -- there is no more than one element on a level
  refine hperm.eq_of_pairwise (fun a b ha hb _ _ => ?_)
    (List.pairwise_of_forall (R := fun _ _ => True) fun _ _ => trivial)
    (List.pairwise_of_forall fun _ _ => trivial)
  obtain ⟨ha, hca, hac⟩ := mem_level.mp ha
  obtain ⟨hb, hcb, hbc⟩ := mem_level.mp hb
  exact hle a (mem_of_mem_keepFirst ha) b ((hmem b).mpr (mem_of_mem_keepFirst hb))
    (htrans _ _ _ hac hcb) (htrans _ _ _ hbc hca)

/-- **The arrangement of blocks does not matter** to what is kept of all and sorted, where in each
block keys and levels tell all apart. -/
theorem mergeSort_keepFirst_flatMap {xs : List β} {f g : β → List α}
    (htrans : ∀ a b c, le a b → le b c → le a c) (htotal : ∀ a b, le a b || le b a)
    (hmem : ∀ x ∈ xs, ∀ a, a ∈ f x ↔ a ∈ g x)
    (hkey : ∀ x ∈ xs, ∀ a ∈ f x, ∀ b ∈ f x, key a = key b → a = b)
    (hle : ∀ x ∈ xs, ∀ a ∈ f x, ∀ b ∈ f x, le a b → le b a → a = b) :
    (keepFirst key (xs.flatMap f)).mergeSort le = (keepFirst key (xs.flatMap g)).mergeSort le := by
  refine mergeSort_congr htrans htotal fun c => ?_
  induction xs with
  | nil => rfl
  | cons x xs ih =>
    rw [List.forall_mem_cons] at hmem hkey hle
    have hhead := level_keepFirst_congr hmem.1 hkey.1 hle.1 htrans c
    have htail := ih hmem.2 hkey.2 hle.2
    have hkeys (b : α) : key b ∉ (f x).map key ↔ key b ∉ (g x).map key := by
      simp only [List.mem_map, hmem.1]
    simp only [List.flatMap_cons, keepFirst_append, level, List.filter_append] at hhead htail ⊢
    rw [hhead, List.filter_comm, htail, List.filter_comm]
    simp only [hkeys]

end Blocks

end Sorting

end LintChain
