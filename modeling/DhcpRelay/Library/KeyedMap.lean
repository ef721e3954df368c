import Mathlib.Data.List.Sort
import Mathlib.Logic.Equiv.List

/-!
# DhcpRelay.Library.KeyedMap

**Finite maps whose values carry their own key**, kept in ascending key order.

A `KeyedMap α key` is a list of values with strictly increasing keys, so the
list *is* the iteration order, two maps are equal exactly when their lists are,
and "the entry under `k` has key `k`" holds by construction. The operations are
the ones an ordered dictionary offers: `get?`, `contains`, `insert` (replacing
the value that has the same key) and `erase`.

Everything a client needs is read off the four lookup equations
(`get?_insert_self`, `get?_insert_of_ne`, `get?_erase_self`,
`get?_erase_of_ne`) and extensionality (`ext_get?`); the sorted list is looked
at only here and by clients that iterate.
-/

namespace DhcpRelay.Library

variable {α κ : Type} [LinearOrder κ] {key : α → κ}

/-- A finite map of self-keyed values, in strictly ascending key order. -/
structure KeyedMap (α : Type) {κ : Type} [LinearOrder κ] (key : α → κ) where
  toList : List α
  sorted : toList.Pairwise (fun a b => key a < key b)
  deriving DecidableEq

namespace KeyedMap

theorem ext_toList {m n : KeyedMap α key} (h : m.toList = n.toList) : m = n := by
  cases m
  cases n
  congr

/-- The map without entries. -/
def empty : KeyedMap α key := ⟨[], List.Pairwise.nil⟩

instance : Inhabited (KeyedMap α key) := ⟨empty⟩

/-- The value stored under key `k`. -/
def get? (m : KeyedMap α key) (k : κ) : Option α :=
  m.toList.find? (fun a => key a = k)

/-- Is there a value under key `k`? -/
def contains (m : KeyedMap α key) (k : κ) : Bool := (m.get? k).isSome

/-- Store `a` under its own key, replacing what was there. -/
def insert (m : KeyedMap α key) (a : α) : KeyedMap α key where
  toList :=
    m.toList.filter (fun b => key b < key a) ++ a :: m.toList.filter (fun b => key a < key b)
  sorted := by
    refine List.pairwise_append.mpr ⟨m.sorted.filter _, ?_, ?_⟩
    · refine List.pairwise_cons.mpr ⟨?_, m.sorted.filter _⟩
      intro b hb
      simpa using (List.mem_filter.mp hb).2
    · intro b hb d hd
      have hba : key b < key a := by simpa using (List.mem_filter.mp hb).2
      rcases List.mem_cons.mp hd with rfl | hd
      · exact hba
      · exact hba.trans (by simpa using (List.mem_filter.mp hd).2)

/-- Remove the value under key `k`. -/
def erase (m : KeyedMap α key) (k : κ) : KeyedMap α key where
  toList := m.toList.filter (fun a => key a ≠ k)
  sorted := m.sorted.filter _

/-! ### Lookup and membership -/

/-- Two members with the same key are the same member. -/
theorem eq_of_key_eq {m : KeyedMap α key} {a b : α} (ha : a ∈ m.toList) (hb : b ∈ m.toList)
    (h : key a = key b) : a = b := by
  have hnodup : (m.toList.map key).Nodup :=
    List.pairwise_map.mpr (m.sorted.imp (fun hab => ne_of_lt hab))
  exact List.inj_on_of_nodup_map hnodup ha hb h

theorem get?_eq_some {m : KeyedMap α key} {k : κ} {a : α} :
    m.get? k = some a ↔ a ∈ m.toList ∧ key a = k := by
  constructor
  · intro h
    exact ⟨List.mem_of_find?_eq_some h, by simpa using List.find?_some h⟩
  · intro h
    obtain ⟨ha, hk⟩ := h
    cases hf : m.get? k with
    | none => exact absurd hk (by simpa using List.find?_eq_none.mp hf a ha)
    | some b =>
        have hb : b ∈ m.toList := List.mem_of_find?_eq_some hf
        have hbk : key b = k := by simpa using List.find?_some hf
        rw [eq_of_key_eq hb ha (hbk.trans hk.symm)]

/-- What is found under `k` has key `k`. -/
theorem key_of_get? {m : KeyedMap α key} {k : κ} {a : α} (h : m.get? k = some a) : key a = k :=
  (get?_eq_some.mp h).2

theorem mem_toList_iff {m : KeyedMap α key} {a : α} : a ∈ m.toList ↔ m.get? (key a) = some a := by
  rw [get?_eq_some]
  simp

/-- Maps with the same lookups are equal. -/
theorem ext_get? {m n : KeyedMap α key} (h : ∀ k, m.get? k = n.get? k) : m = n := by
  apply ext_toList
  have hirrefl : Std.Irrefl (fun a b : α => key a < key b) := ⟨fun a => lt_irrefl (key a)⟩
  have hanti : Std.Antisymm (fun a b : α => key a < key b) :=
    ⟨fun a b hab hba => absurd hab (lt_asymm hba)⟩
  refine List.Pairwise.eq_of_mem_iff m.sorted n.sorted (fun a => ?_)
  rw [mem_toList_iff, mem_toList_iff, h]

@[simp] theorem get?_empty (k : κ) : (empty : KeyedMap α key).get? k = none := rfl

@[simp] theorem toList_empty : (empty : KeyedMap α key).toList = [] := rfl

theorem mem_insert {m : KeyedMap α key} {a b : α} :
    b ∈ (m.insert a).toList ↔ b = a ∨ (b ∈ m.toList ∧ key b ≠ key a) := by
  simp only [insert, List.mem_append, List.mem_filter, List.mem_cons, decide_eq_true_eq]
  constructor
  · intro h
    rcases h with ⟨hb, hlt⟩ | rfl | ⟨hb, hlt⟩
    · exact Or.inr ⟨hb, ne_of_lt hlt⟩
    · exact Or.inl rfl
    · exact Or.inr ⟨hb, ne_of_gt hlt⟩
  · intro h
    rcases h with rfl | ⟨hb, hne⟩
    · exact Or.inr (Or.inl rfl)
    · rcases lt_or_gt_of_ne hne with hlt | hgt
      · exact Or.inl ⟨hb, hlt⟩
      · exact Or.inr (Or.inr ⟨hb, hgt⟩)

@[simp] theorem get?_insert_self (m : KeyedMap α key) (a : α) :
    (m.insert a).get? (key a) = some a :=
  get?_eq_some.mpr ⟨mem_insert.mpr (Or.inl rfl), rfl⟩

theorem get?_insert_of_ne (m : KeyedMap α key) {a : α} {k : κ} (h : key a ≠ k) :
    (m.insert a).get? k = m.get? k := by
  apply Option.ext
  intro b
  rw [get?_eq_some, get?_eq_some, mem_insert]
  constructor
  · intro hinserted
    obtain ⟨rfl | ⟨hb, -⟩, hk⟩ := hinserted
    · exact absurd hk h
    · exact ⟨hb, hk⟩
  · intro hold
    obtain ⟨hb, hk⟩ := hold
    exact ⟨Or.inr ⟨hb, fun hba => h (hba.symm.trans hk)⟩, hk⟩

theorem get?_insert (m : KeyedMap α key) (a : α) (k : κ) :
    (m.insert a).get? k = if key a = k then some a else m.get? k := by
  by_cases h : key a = k
  · subst h
    rw [if_pos rfl, get?_insert_self]
  · rw [if_neg h, get?_insert_of_ne m h]

@[simp] theorem get?_erase_self (m : KeyedMap α key) (k : κ) : (m.erase k).get? k = none := by
  simp [erase, get?, List.find?_filter]

theorem get?_erase_of_ne (m : KeyedMap α key) {j k : κ} (h : j ≠ k) :
    (m.erase j).get? k = m.get? k := by
  apply Option.ext
  intro a
  rw [get?_eq_some, get?_eq_some]
  simp only [erase, List.mem_filter, decide_eq_true_eq]
  constructor
  · intro hkept
    obtain ⟨⟨ha, -⟩, hk⟩ := hkept
    exact ⟨ha, hk⟩
  · intro hold
    obtain ⟨ha, rfl⟩ := hold
    exact ⟨⟨ha, h.symm⟩, rfl⟩

/-! ### Laws between the operations -/

/-- Storing what is already there changes nothing. -/
theorem insert_eq_self {m : KeyedMap α key} {a : α} (h : m.get? (key a) = some a) :
    m.insert a = m := by
  apply ext_get?
  intro k
  rw [get?_insert]
  split
  case isTrue hk => rw [← hk, h]
  case isFalse => rfl

/-- Removing an absent key changes nothing. -/
theorem erase_eq_self {m : KeyedMap α key} {k : κ} (h : m.get? k = none) : m.erase k = m := by
  apply ext_get?
  intro j
  by_cases hj : k = j
  · subst hj
    rw [get?_erase_self, h]
  · exact get?_erase_of_ne m hj

/-- The later of two insertions under one key wins. -/
theorem insert_insert_same (m : KeyedMap α key) {a b : α} (h : key a = key b) :
    (m.insert a).insert b = m.insert b := by
  apply ext_get?
  intro k
  simp only [get?_insert, h]
  split <;> rfl

/-- Removing what has just been added to a map without it gives the map back. -/
theorem erase_insert_of_none {m : KeyedMap α key} {a : α} (h : m.get? (key a) = none) :
    (m.insert a).erase (key a) = m := by
  apply ext_get?
  intro k
  by_cases hk : key a = k
  · rw [← hk, get?_erase_self, h]
  · rw [get?_erase_of_ne _ hk, get?_insert_of_ne m hk]

/-! ### Maps of values -/

section

variable {β : Type} {key' : β → κ} {f : α → β}

/-- The values under a function that keeps their keys. -/
def map (m : KeyedMap α key) (f : α → β) (hf : ∀ a, key' (f a) = key a) : KeyedMap β key' where
  toList := m.toList.map f
  sorted := by
    refine List.pairwise_map.mpr (m.sorted.imp fun {a b} hab => ?_)
    rwa [hf, hf]

theorem get?_map (m : KeyedMap α key) (hf : ∀ a, key' (f a) = key a) (k : κ) :
    (m.map f hf).get? k = (m.get? k).map f := by
  have hkey : ((fun b => decide (key' b = k)) ∘ f) = fun a => decide (key a = k) := by
    funext a
    rw [Function.comp_apply, hf]
  rw [get?, map, List.find?_map, hkey, get?]

/-- Two maps iterate alike under `f` exactly if they look up alike under `f`. -/
theorem map_toList_eq_iff {m n : KeyedMap α key} (hf : ∀ a, key' (f a) = key a) :
    m.toList.map f = n.toList.map f ↔ ∀ k, (m.get? k).map f = (n.get? k).map f := by
  constructor
  · intro h k
    have hmaps : m.map f hf = n.map f hf := ext_toList h
    rw [← get?_map m hf, ← get?_map n hf, hmaps]
  · intro h
    have hmaps : m.map f hf = n.map f hf := by
      apply ext_get?
      intro k
      rw [get?_map, get?_map, h]
    exact congrArg toList hmaps

end

/-- A map is stored as the list it iterates over, so it inherits the coding of
its values. -/
instance [Encodable α] : Encodable (KeyedMap α key) :=
  Encodable.ofLeftInjection KeyedMap.toList
    (fun l => if h : l.Pairwise (fun a b => key a < key b) then some ⟨l, h⟩ else none)
    (fun m => dif_pos m.sorted)

end KeyedMap

end DhcpRelay.Library
