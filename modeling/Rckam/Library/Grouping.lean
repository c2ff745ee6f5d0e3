import Mathlib.Data.List.Induction
import Mathlib.Data.List.Nodup
import Mathlib.Data.List.Perm.Basic
import Mathlib.Data.List.Sort
import Mathlib.Tactic.Common

/-! Lists that are sorted by a key, and lists whose elements are put together by a key: one after
the other into the first group with their key, or into a new group at the end. -/
namespace Grouping

variable {α κ : Type*}

/-! ### Sorting -/

section Sorting
variable [LinearOrder κ] (key : α → κ)

/-- The list in the order of the keys. -/
def sortBy (l : List α) : List α := l.mergeSort fun a b => key a ≤ key b

theorem sortBy_perm (l : List α) : (sortBy key l).Perm l := List.mergeSort_perm l _

theorem sortBy_le (l : List α) : (sortBy key l).Pairwise fun a b => key a ≤ key b := by
  have hsorted := @List.pairwise_mergeSort _ (fun a b => decide (key a ≤ key b))
    (fun a b c => by simpa using le_trans) (fun a b => by simpa using le_total (key a) (key b)) l
  simpa [sortBy] using hsorted

/-- Distinct keys increase. -/
theorem sortBy_lt {l : List α} (h : (l.map key).Nodup) :
    (sortBy key l).Pairwise fun a b => key a < key b := by
  have hne : (sortBy key l).Pairwise fun a b => key a ≠ key b :=
    List.pairwise_map.mp (((sortBy_perm key l).map key).nodup_iff.mpr h)
  exact (sortBy_le key l).and hne |>.imp fun h => lt_of_le_of_ne h.1 h.2

/-- With distinct keys the order of the list does not matter. -/
theorem sortBy_eq_of_perm {l l' : List α} (h : (l.map key).Nodup) (hperm : l'.Perm l) :
    sortBy key l' = sortBy key l := by
  have h' : (l'.map key).Nodup := (hperm.map key).nodup_iff.mpr h
  have hsame : (sortBy key l').Perm (sortBy key l) :=
    (sortBy_perm key l').trans (hperm.trans (sortBy_perm key l).symm)
  apply hsame.eq_of_pairwise _ (sortBy_lt key h') (sortBy_lt key h)
  intro a b _ _ hab hba
  exact absurd hab (lt_asymm hba)

end Sorting

/-! ### Groups -/

/-- A group is never empty. -/
structure Cluster (α : Type*) where
  first : α
  rest : List α

namespace Cluster

def members (g : Cluster α) : List α := g.first :: g.rest

def add (g : Cluster α) (x : α) : Cluster α := ⟨g.first, g.rest ++ [x]⟩

def map {β : Type*} (f : α → β) (g : Cluster α) : Cluster β := ⟨f g.first, g.rest.map f⟩

@[simp] theorem add_first (g : Cluster α) (x : α) : (g.add x).first = g.first := rfl

@[simp] theorem add_members (g : Cluster α) (x : α) : (g.add x).members = g.members ++ [x] := rfl

@[simp] theorem map_first {β : Type*} (f : α → β) (g : Cluster α) :
    (g.map f).first = f g.first := rfl

@[simp] theorem map_members {β : Type*} (f : α → β) (g : Cluster α) :
    (g.map f).members = g.members.map f := rfl

end Cluster

section Groups
variable [DecidableEq κ] (key : α → κ)

/-- The first group with the key of `x` gets it, or else a new one. -/
def place (x : α) : List (Cluster α) → List (Cluster α)
  | [] => [⟨x, []⟩]
  | g :: groups => if key g.first = key x then g.add x :: groups else g :: place x groups

theorem place_cons (x : α) (g : Cluster α) (groups : List (Cluster α)) :
    place key x (g :: groups) =
      if key g.first = key x then g.add x :: groups else g :: place key x groups := rfl

/-- The elements with a key. -/
def alike (k : κ) (l : List α) : List α := l.filter fun y => key y = k

/-- The elements with another key. -/
def others (k : κ) (l : List α) : List α := l.filter fun y => key y ≠ k

theorem others_length (k : κ) (l : List α) : (others key k l).length ≤ l.length :=
  List.length_filter_le _ l

/-- The elements with the key of the first one, and then the groups of the others. -/
def groupBy : List α → List (Cluster α)
  | [] => []
  | x :: l => ⟨x, alike key (key x) l⟩ :: groupBy (others key (key x) l)
termination_by l => l.length
decreasing_by exact Nat.lt_succ_of_le (others_length key (key x) l)

theorem place_groupBy (x : α) (l : List α) :
    place key x (groupBy key l) = groupBy key (l ++ [x]) := by
  fun_induction groupBy key l with
  | case1 => simp [groupBy, place, alike, others]
  | case2 y l ih =>
    rw [List.cons_append, groupBy]
    by_cases hkey : key y = key x
    · simp [place, hkey, Cluster.add, alike, others]
    · have hkey' : ¬ key x = key y := fun h => hkey h.symm
      have hothers : others key (key y) (l ++ [x]) = others key (key y) l ++ [x] := by
        simp [others, hkey']
      rw [hothers, ← ih]
      simp [place, hkey, hkey', alike]

/-- Placing the elements one after the other groups them. -/
theorem foldl_place (l : List α) :
    l.foldl (fun groups x => place key x groups) [] = groupBy key l := by
  induction l using List.reverseRecOn with
  | nil => simp [groupBy]
  | append_singleton l x ih =>
    rw [List.foldl_concat, ih, place_groupBy]

/-- Every element is in one group. -/
theorem groupBy_perm (l : List α) : ((groupBy key l).flatMap Cluster.members).Perm l := by
  fun_induction groupBy key l with
  | case1 => simp
  | case2 x l ih =>
    have hsplit : (alike key (key x) l ++ others key (key x) l).Perm l := by
      simpa [alike, others] using List.filter_append_perm (fun y => decide (key y = key x)) l
    rw [List.flatMap_cons]
    exact ((List.Perm.append_left _ ih).trans (hsplit.cons x))

/-- A group has its elements in the order of the list. -/
theorem members_sublist {l : List α} {g : Cluster α} (hg : g ∈ groupBy key l) :
    g.members.Sublist l := by
  fun_induction groupBy key l with
  | case1 => contradiction
  | case2 x l ih =>
    rcases List.mem_cons.mp hg with rfl | hg
    · exact List.filter_sublist.cons_cons x
    · exact (ih hg).trans (List.filter_sublist.cons x)

theorem members_key {l : List α} {g : Cluster α} (hg : g ∈ groupBy key l) :
    ∀ y ∈ g.members, key y = key g.first := by
  fun_induction groupBy key l with
  | case1 => contradiction
  | case2 x l ih =>
    rcases List.mem_cons.mp hg with rfl | hg
    · intro y hy
      rcases List.mem_cons.mp hy with rfl | hy
      · rfl
      · simpa using (List.mem_filter.mp hy).2
    · exact ih hg

/-- The groups come in the order of their first elements. -/
theorem firsts_sublist (l : List α) : ((groupBy key l).map Cluster.first).Sublist l := by
  fun_induction groupBy key l with
  | case1 => simp
  | case2 x l ih => exact (ih.trans List.filter_sublist).cons_cons x

/-- No two groups have the same key. -/
theorem firsts_nodup (l : List α) : ((groupBy key l).map fun g => key g.first).Nodup := by
  fun_induction groupBy key l with
  | case1 => simp
  | case2 x l ih =>
    rw [List.map_cons, List.nodup_cons]
    refine ⟨?_, ih⟩
    intro hmem
    obtain ⟨g, hg, hkey⟩ := List.mem_map.mp hmem
    have hfirst := (members_sublist key hg).subset List.mem_cons_self
    have hne : key g.first ≠ key x := by simpa using (List.mem_filter.mp hfirst).2
    exact hne hkey

end Groups

end Grouping
