import Mathlib.Data.List.Nodup

/-
  BtService.Base.ObserverList — `base::ObserverList` as the service uses it
  (`AddObserver`, `RemoveObserver`, `FOR_EACH_OBSERVER`), with no observer added or
  removed while the list is being notified.

  An observer is in a list at most once: adding one that is already there is
  `NOTREACHED` and adds nothing, so `nodup` is a field of the list. `FOR_EACH_OBSERVER`
  calls every observer once, in the list's order (`forEach`).

  What a list is for, stated over the calls made on it (`Reg`): an observer is live when
  some call added it and no later call removed it (`Live`), and it stands at the place of
  the add that put it in, the first add since it was last removed (`Inserted`).
  `registered h` lists the live observers in the order of those adds. Proved:
  - `replay_observers`: the list the calls build is `registered` of the calls;
  - `mem_registered`, `registered_nodup`: it holds every live observer, once.
-/

namespace BtService.Base

/-- A `base::ObserverList`: the observers in the order they were added. -/
structure ObserverList (α : Type) where
  observers : List α
  nodup : observers.Nodup

namespace ObserverList

variable {α : Type}

def empty : ObserverList α := ⟨[], List.nodup_nil⟩

@[simp] theorem empty_observers : (empty : ObserverList α).observers = [] := rfl

section Calls

variable [DecidableEq α]

def addObserver (l : ObserverList α) (obs : α) : ObserverList α :=
  if h : obs ∈ l.observers then l
  else ⟨l.observers ++ [obs], List.concat_eq_append l.observers obs ▸ l.nodup.concat h⟩

def removeObserver (l : ObserverList α) (obs : α) : ObserverList α :=
  ⟨l.observers.erase obs, l.nodup.erase obs⟩

/-- `FOR_EACH_OBSERVER(l, f)`: the calls `f o`, observer by observer. -/
def forEach {β : Type} (l : ObserverList α) (f : α → β) : List β := l.observers.map f

theorem addObserver_observers (l : ObserverList α) (obs : α) :
    (l.addObserver obs).observers =
      if obs ∈ l.observers then l.observers else l.observers ++ [obs] := by
  unfold addObserver; split <;> simp_all

@[simp] theorem removeObserver_observers (l : ObserverList α) (obs : α) :
    (l.removeObserver obs).observers = l.observers.erase obs := rfl

@[simp] theorem mem_addObserver {l : ObserverList α} {obs o : α} :
    o ∈ (l.addObserver obs).observers ↔ o ∈ l.observers ∨ o = obs := by
  rw [addObserver_observers]; split <;> simp_all [or_iff_left_of_imp]

@[simp] theorem mem_removeObserver {l : ObserverList α} {obs o : α} :
    o ∈ (l.removeObserver obs).observers ↔ o ≠ obs ∧ o ∈ l.observers :=
  l.nodup.mem_erase_iff

end Calls

/-! ## The calls made on a list -/

/-- A call on a list: `AddObserver` or `RemoveObserver`. -/
inductive Reg (α : Type) where
  | add (obs : α)
  | remove (obs : α)
  deriving DecidableEq, Repr

/-- The call `h[i]` added `o`, and no later call removed it. -/
def Standing (h : List (Reg α)) (i : Nat) (o : α) : Prop :=
  h[i]? = some (.add o) ∧ .remove o ∉ h.drop (i + 1)

/-- `o` was added and not removed since. -/
def Live (h : List (Reg α)) (o : α) : Prop := ∃ i < h.length, Standing h i o

/-- `h[i]` is the add that put `o` in: it stands, and `o` was not live before it. -/
def Inserted (h : List (Reg α)) (i : Nat) (o : α) : Prop :=
  Standing h i o ∧ ¬ Live (h.take i) o

theorem standing_append_of_lt (h : List (Reg α)) (x : Reg α) {i : Nat} (hi : i < h.length) (o : α) :
    Standing (h ++ [x]) i o ↔ Standing h i o ∧ x ≠ .remove o := by
  simp only [Standing, List.getElem?_append_left hi,
    List.drop_append_of_le_length (Nat.succ_le_of_lt hi), List.mem_append, List.mem_singleton,
    not_or, and_assoc, ne_comm]

theorem standing_append_last (h : List (Reg α)) (x : Reg α) (o : α) :
    Standing (h ++ [x]) h.length o ↔ x = .add o := by
  simp [Standing, List.drop_append_of_le_length, eq_comm]

theorem live_append (h : List (Reg α)) (x : Reg α) (o : α) :
    Live (h ++ [x]) o ↔ (Live h o ∧ x ≠ .remove o) ∨ x = .add o := by
  constructor
  · rintro ⟨i, hi, hs⟩
    rcases Nat.lt_succ_iff_lt_or_eq.mp (by simpa using hi) with hi | rfl
    · have := (standing_append_of_lt h x hi o).mp hs
      exact .inl ⟨⟨i, hi, this.1⟩, this.2⟩
    · exact .inr ((standing_append_last h x o).mp hs)
  · rintro (⟨⟨i, hi, hs⟩, hx⟩ | hx)
    · exact ⟨i, by simp; omega, (standing_append_of_lt h x hi o).mpr ⟨hs, hx⟩⟩
    · exact ⟨h.length, by simp, (standing_append_last h x o).mpr hx⟩

section Registry

variable [DecidableEq α]

def apply (l : ObserverList α) : Reg α → ObserverList α
  | .add o => l.addObserver o
  | .remove o => l.removeObserver o

/-- The list the calls `h` build from an empty one. -/
def replay (h : List (Reg α)) : ObserverList α := h.foldl apply empty

theorem replay_append (h : List (Reg α)) (x : Reg α) :
    replay (h ++ [x]) = (replay h).apply x := List.foldl_append ..

instance (h : List (Reg α)) (i : Nat) (o : α) : Decidable (Standing h i o) :=
  inferInstanceAs (Decidable (_ ∧ _))

instance (h : List (Reg α)) (o : α) : Decidable (Live h o) :=
  inferInstanceAs (Decidable (∃ i < h.length, Standing h i o))

instance (h : List (Reg α)) (i : Nat) (o : α) : Decidable (Inserted h i o) :=
  inferInstanceAs (Decidable (_ ∧ _))

/-- The observer the call `h[i]` put in, if it was an insertion. -/
def insertedAt (h : List (Reg α)) (i : Nat) : Option α :=
  match h[i]? with
  | some (.add o) => if Inserted h i o then some o else none
  | _ => none

/-- The live observers, in the order of the adds that inserted them. -/
def registered (h : List (Reg α)) : List α := (List.range h.length).filterMap (insertedAt h)

example : registered [.add 1, .add 2, .add 1, .remove 1, .add 3, .add 1] = [2, 3, 1] := by decide

/-! ## One more call -/

section Snoc

variable (h : List (Reg α)) (x : Reg α)

theorem insertedAt_append_of_lt {i : Nat} (hi : i < h.length) :
    insertedAt (h ++ [x]) i = (insertedAt h i).filter (fun o => decide (x ≠ .remove o)) := by
  unfold insertedAt Inserted
  simp only [List.getElem?_append_left hi, List.take_append_of_le_length hi.le]
  split
  next o _ =>
    simp only [standing_append_of_lt h x hi]
    by_cases hx : x = .remove o <;> by_cases hs : Standing h i o <;>
      by_cases hl : Live (h.take i) o <;> simp [hx, hs, hl, Option.filter]
  next => rfl

theorem insertedAt_append_last :
    insertedAt (h ++ [x]) h.length =
      match x with
      | .add o => if Live h o then none else some o
      | .remove _ => none := by
  cases x <;> simp [insertedAt, Inserted, standing_append_last]

theorem registered_append :
    registered (h ++ [x]) =
      (registered h).filter (fun o => decide (x ≠ .remove o)) ++
        (insertedAt (h ++ [x]) h.length).toList := by
  rw [registered, List.length_append, List.length_singleton, List.range_succ, List.filterMap_append,
    registered, List.filter_filterMap]
  congr 1
  exact List.filterMap_congr fun i hi => insertedAt_append_of_lt h x (List.mem_range.mp hi)

end Snoc

/-! ## The list is the registry -/

theorem mem_registered (h : List (Reg α)) (o : α) : o ∈ registered h ↔ Live h o := by
  induction h using List.reverseRecOn with
  | nil => simp [registered, Live]
  | append_singleton h x ih =>
    rw [registered_append, live_append, ← ih]
    cases x with
    | add p => by_cases hp : p = o <;> by_cases hl : Live h p <;> simp_all [insertedAt_append_last, eq_comm]
    | remove p => simp [insertedAt_append_last, ne_comm, and_comm]

theorem replay_observers (h : List (Reg α)) : (replay h).observers = registered h := by
  induction h using List.reverseRecOn with
  | nil => rfl
  | append_singleton h x ih =>
    rw [replay_append, registered_append]
    cases x with
    | add o =>
      simp only [apply, addObserver_observers, ih, mem_registered, insertedAt_append_last]
      split <;> simp
    | remove o =>
      rw [apply, removeObserver_observers, (replay h).nodup.erase_eq_filter, ih]
      simp only [insertedAt_append_last, Option.toList_none, List.append_nil, ne_eq,
        Reg.remove.injEq]
      refine List.filter_congr fun p _ => ?_
      by_cases e : p = o
      · simp [e]
      · simp [e, Ne.symm e]

theorem registered_nodup (h : List (Reg α)) : (registered h).Nodup :=
  replay_observers h ▸ (replay h).nodup

end Registry

end ObserverList

end BtService.Base
