import OpenBus.Machine.Recency
import OpenBus.Model.LRUCache

/-! # What a cache remembers

The keys of a cache are the first ones in the order of their last uses, as many as the cache can
hold. An insertion uses its key, and so does a fetch that finds it; a write through the pointer of
a fetch does not.
-/

namespace OpenBus

open Machine

namespace LRUCache

variable {Key Data : Type} [DecidableEq Key]

theorem isSome_find_iff (c : LRUCache Key Data) (key : Key) :
    (c.find key).isSome ↔ key ∈ c.list.keys := AList.lookup_isSome

/-- The cache holds the keys used last, after a history of uses. -/
def Recent (c : LRUCache Key Data) (uses : List Key) : Prop :=
  c.list.keys = (recency uses).take c.capacity

/-- Every cache holds its keys as if they had been used in their order. -/
theorem recent_keys (c : LRUCache Key Data) : c.Recent c.list.keys := by
  rw [Recent, recency_of_nodup c.list.keys_nodup, List.take_of_length_le c.length_le_capacity]

theorem recent_nil {c : LRUCache Key Data} (empty : c.list = ∅) : c.Recent [] := by
  rw [Recent, empty, AList.keys_empty, recency, List.take_nil]

namespace Recent

variable {c : LRUCache Key Data} {uses : List Key}

theorem isSome_find_iff (recent : c.Recent uses) (key : Key) :
    (c.find key).isSome ↔ key ∈ uses ∧ (usedSince key uses).card < c.capacity := by
  rw [LRUCache.isSome_find_iff, show c.list.keys = _ from recent, mem_take_recency_iff]

theorem insert (recent : c.Recent uses) (key : Key) (data : Data) :
    (c.insert key data).Recent (key :: uses) := by
  rw [Recent, capacity_insert, list_insert, AList.keys_truncate, AList.keys_insert,
    show c.list.keys = _ from recent, take_recency_cons]

theorem touch (recent : c.Recent uses) {key : Key} (present : (c.find key).isSome) :
    (c.touch key).Recent (key :: uses) := by
  have mem := (LRUCache.isSome_find_iff c key).mp present
  have moved : (c.touch key).list.keys = key :: c.list.keys.erase key := AList.keys_touch mem
  have room : (key :: c.list.keys.erase key).length ≤ c.capacity := by
    rw [List.length_cons, List.length_erase_of_mem mem]
    have := c.length_le_capacity
    have := List.length_pos_of_mem mem
    omega
  rw [Recent, capacity_touch, moved, ← take_recency_cons, ← show c.list.keys = _ from recent,
    List.take_of_length_le room]

/-- What a fetch uses. -/
theorem fetch (recent : c.Recent uses) (key : Key) :
    (c.fetch key).2.Recent (if (c.find key).isSome then key :: uses else uses) := by
  rw [fetch_eq]
  by_cases present : (c.find key).isSome
  · rw [if_pos present]
    exact recent.touch present
  · have absent : key ∉ c.list := fun mem => present ((LRUCache.isSome_find_iff c key).mpr mem)
    have same : c.touch key = c := LRUCache.ext (AList.touch_of_notMem absent) rfl rfl
    rw [if_neg present, same]
    exact recent

theorem assign (recent : c.Recent uses) (key : Key) (data : Data) :
    (c.assign key data).Recent uses := by
  have keys : (c.assign key data).list.keys = c.list.keys := by
    simp only [LRUCache.assign, AList.keys_replace]
  rw [Recent, capacity_assign, keys]
  exact recent

end Recent

/-- An operation which leaves it to the cache what is forgotten. -/
inductive Operation (Key Data : Type) where
  | insert (key : Key) (data : Data)
  | fetch (key : Key)
  | assign (key : Key) (data : Data)

def perform (c : LRUCache Key Data) : Operation Key Data → LRUCache Key Data
  | .insert key data => c.insert key data
  | .fetch key => (c.fetch key).2
  | .assign key data => c.assign key data

/-- The key that an operation uses. -/
def used (c : LRUCache Key Data) : Operation Key Data → List Key
  | .insert key _ => [key]
  | .fetch key => if (c.find key).isSome then [key] else []
  | .assign _ _ => []

/-- The keys that a sequence of operations uses, the newest first, and the cache after it. -/
def performAll : List (Operation Key Data) → LRUCache Key Data → List Key →
    LRUCache Key Data × List Key
  | [], c, uses => (c, uses)
  | operation :: rest, c, uses => performAll rest (c.perform operation) (c.used operation ++ uses)

theorem Recent.perform {c : LRUCache Key Data} {uses : List Key} (recent : c.Recent uses)
    (operation : Operation Key Data) :
    (c.perform operation).Recent (c.used operation ++ uses) := by
  cases operation with
  | insert key data => exact recent.insert key data
  | fetch key =>
    rw [used, LRUCache.perform]
    have fetched := recent.fetch key
    split <;> simp_all
  | assign key data => exact recent.assign key data

theorem capacity_perform (c : LRUCache Key Data) (operation : Operation Key Data) :
    (c.perform operation).capacity = c.capacity := by
  cases operation <;> simp [perform]

theorem Recent.performAll {c : LRUCache Key Data} {uses : List Key} (recent : c.Recent uses)
    (operations : List (Operation Key Data)) :
    (performAll operations c uses).1.Recent (performAll operations c uses).2 ∧
      (performAll operations c uses).1.capacity = c.capacity := by
  induction operations generalizing c uses with
  | nil => exact ⟨recent, rfl⟩
  | cons operation rest ih =>
    obtain ⟨later, capacity⟩ := ih (recent.perform operation)
    exact ⟨later, capacity.trans (capacity_perform c operation)⟩

/-- After any operations, the cache holds exactly the keys since whose last use fewer other keys
have been used than it can hold. -/
theorem find_performAll_iff (c : LRUCache Key Data) (operations : List (Operation Key Data))
    (key : Key) :
    ((performAll operations c c.list.keys).1.find key).isSome ↔
      key ∈ (performAll operations c c.list.keys).2 ∧
        (usedSince key (performAll operations c c.list.keys).2).card < c.capacity := by
  obtain ⟨recent, capacity⟩ := c.recent_keys.performAll operations
  rw [recent.isSome_find_iff key, capacity]

example : ((performAll [.insert 1 0, .insert 2 0, .fetch 1, .insert 3 0]
    (.ofSize 2 : LRUCache ℕ ℕ) []).1.getAllKeys) = [3, 1] := by decide

end LRUCache

end OpenBus
