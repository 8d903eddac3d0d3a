import OpenBus.ToMathlib.AListRecency

/-! # The LRU cache template

The template keeps a list of nodes, an index into it and a running size. The association list
stands for the list together with its index: unique keys are exactly the agreement of the two.
The running size is a separate counter, and only an upper bound of the number of nodes: `clear`
empties the list and the index and leaves the counter as it was. What the cache can still hold
is therefore its `capacity`, and `list_insert` says that insertion is that of an ideal cache
of this capacity.
-/

namespace OpenBus

/-- List and index, the declared maximum, and the counter compared with it. -/
@[ext] structure LRUCache (Key Data : Type) where
  list : AList fun _ : Key => Data
  maxSize : ℕ
  currSize : ℕ
  length_le : list.keys.length ≤ currSize
  currSize_le : currSize ≤ maxSize

namespace LRUCache

variable {Key Data : Type}

def ofSize (size : ℕ) : LRUCache Key Data := ⟨∅, size, 0, Nat.le_refl 0, Nat.zero_le size⟩

/-- Storage and index are emptied; the counter is not reset. -/
def clear (c : LRUCache Key Data) : LRUCache Key Data :=
  { c with list := ∅, length_le := Nat.zero_le c.currSize }

/-- The entries the cache can hold: the declared size less what the counter overstates. -/
def capacity (c : LRUCache Key Data) : ℕ := c.maxSize - (c.currSize - c.list.keys.length)

theorem length_le_capacity (c : LRUCache Key Data) : c.list.keys.length ≤ c.capacity := by
  have := c.length_le
  have := c.currSize_le
  unfold capacity
  omega

@[simp] theorem list_ofSize (size : ℕ) : (ofSize size : LRUCache Key Data).list = ∅ := rfl

@[simp] theorem capacity_ofSize (size : ℕ) : (ofSize size : LRUCache Key Data).capacity = size := rfl

@[simp] theorem list_clear (c : LRUCache Key Data) : c.clear.list = ∅ := rfl

/-- Each entry discarded by `clear` costs one place for good. -/
theorem capacity_clear (c : LRUCache Key Data) :
    c.clear.capacity = c.capacity - c.list.keys.length := by
  have := c.length_le
  have := c.currSize_le
  simp only [capacity, clear, AList.keys_empty, List.length_nil]
  omega

variable [DecidableEq Key]

/-- Look a key up in the index. -/
def find (c : LRUCache Key Data) (key : Key) : Option Data := c.list.lookup key

def touch (c : LRUCache Key Data) (key : Key) : LRUCache Key Data :=
  { c with list := c.list.touch key, length_le := by simpa using c.length_le }

def remove (c : LRUCache Key Data) (key : Key) : LRUCache Key Data :=
  if mem : key ∈ c.list then
    { list := c.list.erase key
      maxSize := c.maxSize
      currSize := c.currSize - 1
      length_le := by
        rw [AList.length_keys_erase_of_mem mem]
        have := c.length_le
        omega
      currSize_le := by
        have := c.currSize_le
        omega }
  else c

/-- Both overloads of `fetch`: the datum if the key is present, which is then touched. -/
def fetch (c : LRUCache Key Data) (key : Key) : Option Data × LRUCache Key Data :=
  match c.find key with
  | none => (none, c)
  | some data => (some data, c.touch key)

/-- Assignment through the pointer to the datum of a present key. -/
def assign (c : LRUCache Key Data) (key : Key) (data : Data) : LRUCache Key Data :=
  { c with list := c.list.replace key data, length_le := by simpa using c.length_le }

omit [DecidableEq Key] in
/-- The loop of `insert`: drop the last node while the counter exceeds the maximum. -/
def evict (maxSize : ℕ) : ℕ → (AList fun _ : Key => Data) → (AList fun _ : Key => Data) × ℕ
  | 0, list => (list, 0)
  | currSize + 1, list =>
      if maxSize < currSize + 1 then
        evict maxSize currSize (list.truncate (list.keys.length - 1))
      else (list, currSize + 1)

omit [DecidableEq Key] in
theorem evict_of_le {maxSize currSize : ℕ} (list : AList fun _ : Key => Data)
    (fits : currSize ≤ maxSize) : evict maxSize currSize list = (list, currSize) := by
  cases currSize with
  | zero => rfl
  | succ n => rw [evict, if_neg (by omega)]

omit [DecidableEq Key] in
theorem evict_succ (maxSize : ℕ) (list : AList fun _ : Key => Data) :
    evict maxSize (maxSize + 1) list = (list.truncate (list.keys.length - 1), maxSize) := by
  rw [evict, if_pos (Nat.lt_succ_self maxSize), evict_of_le _ (Nat.le_refl maxSize)]

omit [DecidableEq Key] in
theorem evict_bounds (maxSize currSize : ℕ) (list : AList fun _ : Key => Data)
    (bound : list.keys.length ≤ currSize) :
    (evict maxSize currSize list).1.keys.length ≤ (evict maxSize currSize list).2 ∧
      (evict maxSize currSize list).2 ≤ maxSize := by
  induction currSize generalizing list with
  | zero => exact ⟨bound, Nat.zero_le _⟩
  | succ n ih =>
    rw [evict]
    split
    · exact ih _ (by simp only [AList.keys_truncate, List.length_take]; omega)
    · exact ⟨bound, by omega⟩

/-- Touch and replace the key if it exists, push it in front, then evict from the back. -/
def insert (c : LRUCache Key Data) (key : Key) (data : Data) : LRUCache Key Data :=
  let removed := (c.touch key).remove key
  let evicted := evict c.maxSize (removed.currSize + 1) (removed.list.insert key data)
  have bounds := evict_bounds c.maxSize (removed.currSize + 1) (removed.list.insert key data) (by
    have := removed.length_le
    have := (removed.list.keys.erase_sublist (a := key)).length_le
    simp only [AList.keys_insert, List.length_cons]
    omega)
  ⟨evicted.1, c.maxSize, evicted.2, bounds.1, bounds.2⟩

def getAllKeys (c : LRUCache Key Data) : List Key := c.list.keys

@[simp] theorem find_ofSize (size : ℕ) (key : Key) :
    (ofSize size : LRUCache Key Data).find key = none := rfl

@[simp] theorem find_clear (c : LRUCache Key Data) (key : Key) : c.clear.find key = none := rfl

@[simp] theorem find_touch (c : LRUCache Key Data) (key other : Key) :
    (c.touch key).find other = c.find other := by
  simp only [find, touch, AList.lookup_touch]

@[simp] theorem capacity_touch (c : LRUCache Key Data) (key : Key) :
    (c.touch key).capacity = c.capacity := by
  simp only [capacity, touch, AList.length_keys_touch]

/-- Touching an absent key does nothing, so that both branches of a fetch touch. -/
theorem fetch_eq (c : LRUCache Key Data) (key : Key) :
    c.fetch key = (c.find key, c.touch key) := by
  unfold fetch
  cases found : c.find key with
  | none =>
    have same : c.touch key = c :=
      LRUCache.ext (AList.touch_of_notMem (AList.lookup_eq_none.mp found)) rfl rfl
    rw [same]
  | some data => rfl

@[simp] theorem fetch_fst (c : LRUCache Key Data) (key : Key) : (c.fetch key).1 = c.find key := by
  rw [fetch_eq]

@[simp] theorem find_fetch (c : LRUCache Key Data) (key other : Key) :
    (c.fetch key).2.find other = c.find other := by
  rw [fetch_eq, find_touch]

@[simp] theorem capacity_fetch (c : LRUCache Key Data) (key : Key) :
    (c.fetch key).2.capacity = c.capacity := by
  rw [fetch_eq, capacity_touch]

theorem find_assign (c : LRUCache Key Data) (key other : Key) (data : Data) :
    (c.assign key data).find other =
      if other = key then (c.find key).map (fun _ => data) else c.find other := by
  split
  · next same =>
    subst same
    exact AList.lookup_replace _ _ _
  · next differ => exact AList.lookup_replace_ne _ _ differ

@[simp] theorem capacity_assign (c : LRUCache Key Data) (key : Key) (data : Data) :
    (c.assign key data).capacity = c.capacity := by
  simp only [capacity, assign, AList.keys_replace]

theorem list_remove (c : LRUCache Key Data) (key : Key) :
    (c.remove key).list = c.list.erase key := by
  unfold remove
  split
  · rfl
  · next absent =>
    apply AList.ext
    exact (List.kerase_of_notMem_keys absent).symm

/-- The counter overstates the number of nodes as much after a removal as before. -/
theorem excess_remove (c : LRUCache Key Data) (key : Key) :
    (c.remove key).currSize - (c.remove key).list.keys.length =
      c.currSize - c.list.keys.length := by
  unfold remove
  split
  · next mem =>
    have := c.length_le
    have := AList.length_keys_pos_of_mem mem
    change c.currSize - 1 - (c.list.erase key).keys.length = _
    rw [AList.length_keys_erase_of_mem mem]
    omega
  · rfl

theorem find_remove (c : LRUCache Key Data) (key other : Key) :
    (c.remove key).find other = if other = key then none else c.find other := by
  simp only [find, list_remove]
  split
  · next same =>
    subst same
    exact AList.lookup_erase _ _
  · next differ => exact AList.lookup_erase_ne differ

@[simp] theorem maxSize_remove (c : LRUCache Key Data) (key : Key) :
    (c.remove key).maxSize = c.maxSize := by
  unfold remove
  split <;> rfl

@[simp] theorem capacity_remove (c : LRUCache Key Data) (key : Key) :
    (c.remove key).capacity = c.capacity := by
  simp only [capacity, excess_remove, maxSize_remove]

@[simp] theorem maxSize_touch (c : LRUCache Key Data) (key : Key) :
    (c.touch key).maxSize = c.maxSize := rfl

/-- Insertion is that of an ideal cache whose size is the capacity, which it leaves as it is. -/
theorem insert_spec (c : LRUCache Key Data) (key : Key) (data : Data) :
    (c.insert key data).list = (c.list.insert key data).truncate c.capacity ∧
      (c.insert key data).capacity = c.capacity := by
  have pushed : ((c.touch key).remove key).list.insert key data = c.list.insert key data := by
    rw [list_remove]
    exact AList.insert_erase_touch c.list key data
  have removed := capacity_remove (c.touch key) key
  rw [capacity_touch] at removed
  have maximum : ((c.touch key).remove key).maxSize = c.maxSize := by simp
  have length : (c.list.insert key data).keys.length =
      ((c.touch key).remove key).list.keys.length + 1 := by
    rw [← pushed, list_remove]
    exact AList.length_keys_insert_of_notMem (by simp) data
  have counted := ((c.touch key).remove key).length_le
  have bounded := ((c.touch key).remove key).currSize_le
  unfold capacity at removed
  change (evict c.maxSize _ (((c.touch key).remove key).list.insert key data)).1 = _ ∧
    c.maxSize - ((evict c.maxSize _ (((c.touch key).remove key).list.insert key data)).2 -
      (evict c.maxSize _ (((c.touch key).remove key).list.insert key data)).1.keys.length) = _
  rw [pushed]
  by_cases fits : ((c.touch key).remove key).currSize + 1 ≤ c.maxSize
  · rw [evict_of_le _ fits, AList.truncate_of_length_le]
    · refine ⟨rfl, ?_⟩
      unfold capacity
      dsimp only
      omega
    · unfold capacity
      omega
  · have full : ((c.touch key).remove key).currSize = c.maxSize := by omega
    rw [full, evict_succ]
    have dropped : (c.list.insert key data).keys.length - 1 = c.capacity := by
      unfold capacity
      omega
    refine ⟨by rw [dropped], ?_⟩
    simp only [AList.keys_truncate, List.length_take, dropped]
    unfold capacity at dropped ⊢
    omega

theorem list_insert (c : LRUCache Key Data) (key : Key) (data : Data) :
    (c.insert key data).list = (c.list.insert key data).truncate c.capacity :=
  (c.insert_spec key data).1

@[simp] theorem capacity_insert (c : LRUCache Key Data) (key : Key) (data : Data) :
    (c.insert key data).capacity = c.capacity :=
  (c.insert_spec key data).2

theorem find_insert_self (c : LRUCache Key Data) (key : Key) (data : Data) :
    (c.insert key data).find key = if 0 < c.capacity then some data else none := by
  rw [find, list_insert, AList.lookup_truncate_insert]

/-- Inserting a key never invents a binding for another. -/
theorem find_of_find_insert_ne {c : LRUCache Key Data} {key other : Key} {data found : Data}
    (differ : other ≠ key) (present : (c.insert key data).find other = some found) :
    c.find other = some found := by
  rw [find, list_insert] at present
  rw [find, ← AList.lookup_insert_ne differ]
  exact AList.lookup_of_lookup_truncate present

/-- Whatever an insertion leaves in the cache was there before or has just been inserted. -/
theorem find_insert_cases {c : LRUCache Key Data} {key other : Key} {data found : Data}
    (present : (c.insert key data).find other = some found) :
    (other = key ∧ found = data) ∨ (other ≠ key ∧ c.find other = some found) := by
  by_cases same : other = key
  · subst same
    rw [find_insert_self] at present
    split at present
    · exact .inl ⟨rfl, (Option.some.inj present).symm⟩
    · cases present
  · exact .inr ⟨same, find_of_find_insert_ne same present⟩

end LRUCache

end OpenBus
