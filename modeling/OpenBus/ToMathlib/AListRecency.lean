import Mathlib.Data.List.AList

/-! # Association lists ordered by recency

Mathlib's `AList` puts a new key in front, so its order is already an order of recency. These
additions move a key to the front, overwrite a value in place and drop the tail of the order;
each comes with its effect on the keys and on every lookup. They belong beside `AList.insert`
and `AList.replace` upstream.
-/

namespace AList

variable {α : Type*} {β : α → Type*}

/-- The first `n` entries, in order. -/
def truncate (n : ℕ) (s : AList β) : AList β :=
  ⟨s.entries.take n, s.nodupKeys.sublist (List.take_sublist n s.entries)⟩

@[simp] theorem truncate_entries (n : ℕ) (s : AList β) :
    (s.truncate n).entries = s.entries.take n := rfl

@[simp] theorem keys_truncate (n : ℕ) (s : AList β) : (s.truncate n).keys = s.keys.take n := by
  simp [keys, List.keys, List.map_take]

theorem truncate_of_length_le {n : ℕ} {s : AList β} (enough : s.keys.length ≤ n) :
    s.truncate n = s := by
  apply AList.ext
  exact List.take_of_length_le (by simpa [keys, List.keys] using enough)

/-- The same keys with other values. -/
def map {γ : α → Type*} (f : ∀ a, β a → γ a) (s : AList β) : AList γ :=
  ⟨s.entries.map (.map id f), s.nodupKeys.map₂ f s.entries⟩

@[simp] theorem keys_map {γ : α → Type*} (f : ∀ a, β a → γ a) (s : AList β) :
    (s.map f).keys = s.keys := List.map₂_keys f s.entries

theorem map_truncate {γ : α → Type*} (f : ∀ a, β a → γ a) (n : ℕ) (s : AList β) :
    (s.truncate n).map f = (s.map f).truncate n := AList.ext (by simp [map, truncate])

variable [DecidableEq α]

/-- Keys in the same order with the same values. -/
theorem ext_lookup {s t : AList β} (keys : s.keys = t.keys)
    (values : ∀ a, s.lookup a = t.lookup a) : s = t := by
  have entry (u : AList β) (i : ℕ) (bound : i < u.entries.length) :
      u.lookup u.entries[i].1 = some u.entries[i].2 :=
    mem_lookup_iff.mpr (List.getElem_mem bound)
  have length : s.entries.length = t.entries.length := by
    simpa [AList.keys, List.keys] using congrArg List.length keys
  refine AList.ext (List.ext_getElem length fun i left right => ?_)
  have same : s.entries[i].1 = t.entries[i].1 := by
    have := List.getElem_of_eq keys (i := i) (by simpa [AList.keys, List.keys] using left)
    simpa [AList.keys, List.keys] using this
  have left := entry s i left
  have right := entry t i right
  rw [values] at left
  generalize s.entries[i] = e at *
  generalize t.entries[i] = e' at *
  rcases e with ⟨a, b⟩
  rcases e' with ⟨a', b'⟩
  obtain rfl : a = a' := same
  obtain rfl : b = b' := Option.some.inj (left.symm.trans right)
  rfl

@[simp] theorem lookup_map {γ : α → Type*} (f : ∀ a, β a → γ a) (s : AList β) (a : α) :
    (s.map f).lookup a = (s.lookup a).map (f a) := List.dlookup_map₂ a

/-- Dropping a tail can only forget entries. -/
theorem lookup_of_lookup_truncate {n : ℕ} {s : AList β} {a : α} {b : β a}
    (found : (s.truncate n).lookup a = some b) : s.lookup a = some b := by
  have present : Sigma.mk a b ∈ s.entries.take n := mem_lookup_iff.mp found
  exact mem_lookup_iff.mpr (List.mem_of_mem_take present)

/-- Only an empty truncation forgets the entry in front. -/
theorem lookup_truncate_insert (n : ℕ) (s : AList β) (a : α) (b : β a) :
    ((s.insert a b).truncate n).lookup a = if 0 < n then some b else none := by
  cases n with
  | zero => rfl
  | succ n => simp [lookup, truncate, insert]

/-- Move a key to the front, if it is present. -/
def touch (a : α) (s : AList β) : AList β :=
  match s.lookup a with
  | none => s
  | some b => s.insert a b

theorem touch_of_lookup {a : α} {s : AList β} {b : β a} (found : s.lookup a = some b) :
    s.touch a = s.insert a b := by
  simp only [touch, found]

theorem touch_of_notMem {a : α} {s : AList β} (absent : a ∉ s) : s.touch a = s := by
  simp only [touch, lookup_eq_none.mpr absent]

@[simp] theorem lookup_touch (a a' : α) (s : AList β) : (s.touch a).lookup a' = s.lookup a' := by
  cases found : s.lookup a with
  | none => rw [touch_of_notMem (lookup_eq_none.mp found)]
  | some b =>
    rw [touch_of_lookup found]
    by_cases same : a' = a
    · subst same
      rw [lookup_insert, found]
    · rw [lookup_insert_ne same]

theorem keys_touch {a : α} {s : AList β} (mem : a ∈ s) : (s.touch a).keys = a :: s.keys.erase a := by
  obtain ⟨b, found⟩ := Option.isSome_iff_exists.mp (lookup_isSome.mpr mem)
  rw [touch_of_lookup found, keys_insert]

theorem map_insert {γ : α → Type*} (f : ∀ a, β a → γ a) (s : AList β) (a : α) (b : β a) :
    (s.insert a b).map f = (s.map f).insert a (f a b) := by
  refine ext_lookup (by simp only [keys_map, keys_insert]) fun a' => ?_
  by_cases same : a' = a
  · subst same
    simp only [lookup_map, lookup_insert, Option.map_some]
  · simp only [lookup_map, lookup_insert_ne same]

theorem map_touch {γ : α → Type*} (f : ∀ a, β a → γ a) (s : AList β) (a : α) :
    (s.touch a).map f = (s.map f).touch a := by
  cases found : s.lookup a with
  | none => rw [touch, touch, lookup_map, found]; rfl
  | some b => rw [touch, touch, lookup_map, found]; exact map_insert f s a b

/-- Other values give the same if they are those of the entries. -/
theorem map_congr {γ : α → Type*} {f g : ∀ a, β a → γ a} {s : AList β}
    (same : ∀ a b, s.lookup a = some b → f a b = g a b) : s.map f = s.map g := by
  refine ext_lookup (by simp only [keys_map]) fun a => ?_
  rw [lookup_map, lookup_map]
  exact Option.map_congr fun b found => same a b found

/-- Removing a key forgets where it stood. -/
@[simp] theorem erase_touch (a : α) (s : AList β) : (s.touch a).erase a = s.erase a := by
  cases found : s.lookup a with
  | none => rw [touch_of_notMem (lookup_eq_none.mp found)]
  | some b =>
    rw [touch_of_lookup found]
    apply AList.ext
    exact List.kerase_cons_eq rfl

/-- Removing a key and pushing it again is pushing it. -/
theorem insert_erase_touch (s : AList β) (a : α) (b : β a) :
    ((s.touch a).erase a).insert a b = s.insert a b := by
  rw [erase_touch]
  apply AList.ext
  rw [entries_insert, entries_insert]
  exact congrArg _ (List.kerase_of_notMem_keys (List.notMem_keys_kerase a s.nodupKeys))

theorem length_keys_insert_of_notMem {a : α} {s : AList β} (absent : a ∉ s) (b : β a) :
    (s.insert a b).keys.length = s.keys.length + 1 := by
  rw [keys_insert, List.length_cons, List.erase_of_not_mem absent]

theorem length_keys_erase_of_mem {a : α} {s : AList β} (mem : a ∈ s) :
    (s.erase a).keys.length = s.keys.length - 1 := by
  rw [keys_erase, List.length_erase_of_mem mem]

omit [DecidableEq α] in
theorem length_keys_pos_of_mem {a : α} {s : AList β} (mem : a ∈ s) : 0 < s.keys.length :=
  List.length_pos_of_mem mem

@[simp] theorem length_keys_touch (a : α) (s : AList β) :
    (s.touch a).keys.length = s.keys.length := by
  cases found : s.lookup a with
  | none => rw [touch_of_notMem (lookup_eq_none.mp found)]
  | some b =>
    have mem : a ∈ s := lookup_isSome.mp (by rw [found]; rfl)
    have pos := length_keys_pos_of_mem mem
    rw [touch_of_lookup found, keys_insert, List.length_cons, List.length_erase_of_mem mem]
    omega

private theorem kreplace_cons_self (a : α) (b b' : β a) (l : List (Sigma β)) :
    List.kreplace a b (⟨a, b'⟩ :: l) = ⟨a, b⟩ :: l :=
  List.lookmap_cons_some _ _ (by simp)

private theorem kreplace_cons_ne {a k : α} (b : β a) (v : β k) (l : List (Sigma β))
    (other : a ≠ k) : List.kreplace a b (⟨k, v⟩ :: l) = ⟨k, v⟩ :: List.kreplace a b l :=
  List.lookmap_cons_none _ _ (by simp [other])

@[simp] theorem lookup_replace (a : α) (b : β a) (s : AList β) :
    (s.replace a b).lookup a = (s.lookup a).map (fun _ => b) := by
  change (List.kreplace a b s.entries).dlookup a = (s.entries.dlookup a).map _
  induction s.entries with
  | nil => rfl
  | cons entry rest ih =>
    rcases entry with ⟨k, v⟩
    by_cases same : a = k
    · subst same
      rw [kreplace_cons_self, List.dlookup_cons_eq, List.dlookup_cons_eq, Option.map_some]
    · rw [kreplace_cons_ne b v rest same, List.dlookup_cons_ne _ _ same,
        List.dlookup_cons_ne _ _ same]
      exact ih

theorem lookup_replace_ne {a a' : α} (b : β a) (s : AList β) (other : a' ≠ a) :
    (s.replace a b).lookup a' = s.lookup a' := by
  change (List.kreplace a b s.entries).dlookup a' = s.entries.dlookup a'
  induction s.entries with
  | nil => rfl
  | cons entry rest ih =>
    rcases entry with ⟨k, v⟩
    by_cases same : a = k
    · subst same
      rw [kreplace_cons_self, List.dlookup_cons_ne _ _ other, List.dlookup_cons_ne _ _ other]
    · rw [kreplace_cons_ne b v rest same]
      by_cases hit : a' = k
      · subst hit
        rw [List.dlookup_cons_eq, List.dlookup_cons_eq]
      · rw [List.dlookup_cons_ne _ _ hit, List.dlookup_cons_ne _ _ hit]
        exact ih

/-- A replacement is one of the values of the entries. -/
theorem map_replace {γ : α → Type*} {f g : ∀ a, β a → γ a} {s : AList β} {a : α} {b : β a}
    (found : s.lookup a = some b) (others : ∀ a' b', s.lookup a' = some b' → a' ≠ a →
      f a' b' = g a' b') : s.map f = (s.map g).replace a (f a b) := by
  refine ext_lookup (by simp only [keys_map, keys_replace]) fun a' => ?_
  by_cases same : a' = a
  · subst same
    simp only [lookup_map, lookup_replace, found, Option.map_some]
  · rw [lookup_replace_ne _ _ same, lookup_map, lookup_map]
    exact Option.map_congr fun b' found => others a' b' found same

end AList
