import Mathlib.Data.List.Basic
import Mathlib.Logic.Function.Basic
import Mathlib.Order.Lattice
import Mathlib.Tactic.Common

/-! Slots that own copies of callable objects. A slot that is assigned destroys the copy that it
held, also when that copy is being called. -/
namespace Slots

variable {κ α : Type*}

/-- A copy of an object, and its number among all the copies made. -/
structure Copy (α : Type*) where
  number : ℕ
  object : α

/-- What happens to a slot: it gets a copy of an object or is emptied, its copy is called, a member
of the copy that is being called is used, and the call returns. -/
inductive Event (κ α : Type*) where
  | assigned (slot : κ) (object : Option α)
  | entered (slot : κ)
  | used (slot : κ)
  | returned (slot : κ)

/-- The copies in the slots, those that are being called, and the numbers of those destroyed. -/
structure Ownership (κ α : Type*) where
  slots : κ → Option (Copy α)
  running : κ → Option (Copy α)
  destroyed : List ℕ
  made : ℕ

namespace Ownership

def empty : Ownership κ α := ⟨fun _ => none, fun _ => none, [], 0⟩

/-- A slot is not assigned while its copy is being called, and only members of copies that exist
are used. -/
def Permits (o : Ownership κ α) : Event κ α → Prop
  | .assigned slot _ => o.running slot = none
  | .entered slot => ∃ copy, o.slots slot = some copy ∧ copy.number ∉ o.destroyed
  | .used slot => ∃ copy, o.running slot = some copy ∧ copy.number ∉ o.destroyed
  | .returned _ => True

/-- No call is going on, and the copies in the slots exist, each in one slot only. -/
structure Sound (o : Ownership κ α) : Prop where
  idle : ∀ slot, o.running slot = none
  held : ∀ slot copy, o.slots slot = some copy → copy.number < o.made ∧ copy.number ∉ o.destroyed
  past : ∀ n ∈ o.destroyed, n < o.made
  apart : ∀ slot slot' copy copy', o.slots slot = some copy → o.slots slot' = some copy' →
    copy.number = copy'.number → slot = slot'

theorem empty_sound : (empty : Ownership κ α).Sound := ⟨fun _ => rfl, nofun, nofun, nofun⟩

variable [DecidableEq κ]

def next (o : Ownership κ α) : Event κ α → Ownership κ α
  | .assigned slot object => { o with
      slots := Function.update o.slots slot (object.map (Copy.mk o.made))
      destroyed := ((o.slots slot).map Copy.number).toList ++ o.destroyed
      made := o.made + 1 }
  | .entered slot => { o with running := Function.update o.running slot (o.slots slot) }
  | .used _ => o
  | .returned slot => { o with running := Function.update o.running slot none }

def after (o : Ownership κ α) (events : List (Event κ α)) : Ownership κ α := events.foldl next o

/-- Every event is permitted when it happens. -/
def Safe : Ownership κ α → List (Event κ α) → Prop
  | _, [] => True
  | o, e :: events => o.Permits e ∧ Safe (o.next e) events

variable {o : Ownership κ α} {slot : κ}

theorem after_append (events events' : List (Event κ α)) :
    o.after (events ++ events') = (o.after events).after events' := List.foldl_append

theorem safe_append (events events' : List (Event κ α)) :
    o.Safe (events ++ events') ↔ o.Safe events ∧ (o.after events).Safe events' := by
  induction events generalizing o with
  | nil => exact (and_iff_right trivial).symm
  | cons e events ih =>
    rw [List.cons_append, Safe, Safe, ih, and_assoc]
    rfl

/-! ### Assignments -/

theorem assigned_slots {object : Option α} {slot' : κ} {copy : Copy α}
    (h : (o.next (.assigned slot object)).slots slot' = some copy) :
    slot' = slot ∧ copy.number = o.made ∨ slot' ≠ slot ∧ o.slots slot' = some copy := by
  replace h : Function.update o.slots slot (object.map (Copy.mk o.made)) slot' = some copy := h
  by_cases hslot : slot' = slot
  · subst hslot
    rw [Function.update_self] at h
    obtain ⟨object', -, rfl⟩ := Option.map_eq_some_iff.mp h
    exact Or.inl ⟨rfl, rfl⟩
  · rw [Function.update_of_ne hslot] at h
    exact Or.inr ⟨hslot, h⟩

theorem mem_assigned_destroyed {object : Option α} (n : ℕ) :
    n ∈ (o.next (.assigned slot object)).destroyed ↔
      (∃ copy, o.slots slot = some copy ∧ copy.number = n) ∨ n ∈ o.destroyed := by
  show n ∈ ((o.slots slot).map Copy.number).toList ++ o.destroyed ↔ _
  rw [List.mem_append, Option.mem_toList, Option.map_eq_some_iff]

/-- Between the calls a slot may be assigned. -/
theorem Sound.assigned (h : o.Sound) (slot : κ) (object : Option α) :
    o.Permits (.assigned slot object) ∧ (o.next (.assigned slot object)).Sound := by
  have hpast (n : ℕ) (hn : n ∈ (o.next (.assigned slot object)).destroyed) : n < o.made := by
    rcases (mem_assigned_destroyed n).mp hn with ⟨copy, hcopy, rfl⟩ | hbefore
    · exact (h.held slot copy hcopy).1
    · exact h.past n hbefore
  refine ⟨h.idle slot, h.idle, ?_, fun n hn => Nat.lt_succ_of_lt (hpast n hn), ?_⟩
  · intro slot' copy hcopy
    rcases assigned_slots hcopy with ⟨-, hnew⟩ | ⟨hslot, hold⟩
    · rw [hnew]
      exact ⟨Nat.lt_succ_self _, fun hn => Nat.lt_irrefl _ (hpast _ hn)⟩
    · obtain ⟨hmade, hexists⟩ := h.held slot' copy hold
      refine ⟨Nat.lt_succ_of_lt hmade, fun hn => ?_⟩
      rcases (mem_assigned_destroyed _).mp hn with ⟨copy', hcopy', hsame⟩ | hbefore
      · exact hslot (h.apart slot' slot copy copy' hold hcopy' hsame.symm)
      · exact hexists hbefore
  · intro slot1 slot2 copy1 copy2 hcopy1 hcopy2 hsame
    rcases assigned_slots hcopy1 with ⟨hslot1, hnew1⟩ | ⟨-, hold1⟩
    · rcases assigned_slots hcopy2 with ⟨hslot2, -⟩ | ⟨-, hold2⟩
      · rw [hslot1, hslot2]
      · have hmade := (h.held slot2 copy2 hold2).1
        omega
    · rcases assigned_slots hcopy2 with ⟨-, hnew2⟩ | ⟨-, hold2⟩
      · have hmade := (h.held slot1 copy1 hold1).1
        omega
      · exact h.apart slot1 slot2 copy1 copy2 hold1 hold2 hsame

/-! ### Calls -/

/-- The events of a call that uses members `n` times before anything else happens. -/
def calling (slot : κ) (n : ℕ) : List (Event κ α) := .entered slot :: List.replicate n (.used slot)

/-- The copy in the slot is being called. -/
theorem after_calling (n : ℕ) : o.after (calling slot n) = o.next (.entered slot) := by
  unfold calling after
  rw [List.foldl_cons]
  induction n with
  | zero => rfl
  | succ n ih =>
    rw [List.replicate_succ, List.foldl_cons]
    exact ih

theorem entered_running {copy : Copy α} (hcopy : o.slots slot = some copy) :
    (o.next (.entered slot)).running slot = some copy := by
  show Function.update o.running slot (o.slots slot) slot = some copy
  rw [Function.update_self, hcopy]

theorem Sound.calling {copy : Copy α} (h : o.Sound) (hcopy : o.slots slot = some copy) (n : ℕ) :
    o.Safe (calling slot n) := by
  have hexists := (h.held slot copy hcopy).2
  refine ⟨⟨copy, hcopy, hexists⟩, ?_⟩
  induction n with
  | zero => trivial
  | succ n ih => exact ⟨⟨copy, entered_running hcopy, hexists⟩, ih⟩

/-- A call that only uses members of its copy leaves everything as it was. -/
theorem Sound.call {copy : Copy α} (h : o.Sound) (hcopy : o.slots slot = some copy) (n : ℕ) :
    o.Safe (Ownership.calling slot n ++ [.returned slot]) ∧
      o.after (Ownership.calling slot n ++ [.returned slot]) = o := by
  rw [safe_append, after_append, after_calling]
  refine ⟨⟨h.calling hcopy n, trivial, trivial⟩, ?_⟩
  show Ownership.mk o.slots
    (Function.update (Function.update o.running slot (o.slots slot)) slot none)
    o.destroyed o.made = o
  rw [Function.update_idem, ← h.idle slot, Function.update_eq_self]

/-- A call must not assign the slot of its own copy: this destroys the copy, whose members must not
be used any more. -/
theorem reassigned_in_call {copy : Copy α} (hcopy : o.slots slot = some copy) (n : ℕ)
    (object : Option α) :
    ¬ (o.after (Ownership.calling slot n)).Permits (.assigned slot object) ∧
      ¬ (o.after (Ownership.calling slot n ++ [.assigned slot object])).Permits (.used slot) := by
  rw [after_append, after_calling]
  constructor
  · intro hnone
    cases (entered_running hcopy).symm.trans hnone
  · rintro ⟨copy', hcopy', hexists⟩
    cases (entered_running hcopy).symm.trans hcopy'
    exact hexists ((mem_assigned_destroyed _).mpr (Or.inl ⟨copy, hcopy, rfl⟩))

end Ownership

end Slots
