import OpenBus.Proofs.ClientInterceptor

/-! # Purging the profiles of an invalid target

When the bus refuses to sign a chain for a target, `get_signed_chain` forgets the profiles that
lead to it. It walks the keys from the latest to the oldest and reads each of them with a `fetch`
that touches. No other profile is lost, but the ones that stay end up in the opposite order: those
used last are evicted first from then on.
-/

namespace OpenBus

open Machine

namespace LRUCache

variable {Key Data : Type} [DecidableEq Key]

omit [DecidableEq Key] in
/-- The keys in the order in which insertions of other keys evict them. -/
def evictionOrder (c : LRUCache Key Data) : List Key := c.getAllKeys.reverse

omit [DecidableEq Key] in
theorem length_evictionOrder_le (c : LRUCache Key Data) : c.evictionOrder.length ≤ c.capacity := by
  rw [evictionOrder, List.length_reverse]
  exact c.length_le_capacity

theorem evictionOrder_insert (c : LRUCache Key Data) {key : Key} (fresh : key ∉ c.getAllKeys)
    (data : Data) : (c.insert key data).evictionOrder =
      (c.evictionOrder ++ [key]).drop (c.evictionOrder.length + 1 - c.capacity) := by
  have erased : c.list.keys.erase key = c.getAllKeys := List.erase_of_not_mem fresh
  have keys : (c.insert key data).getAllKeys = (key :: c.getAllKeys).take c.capacity := by
    rw [getAllKeys, list_insert, AList.keys_truncate, AList.keys_insert, erased]
  rw [evictionOrder, keys, List.reverse_take, List.reverse_cons, List.length_cons, evictionOrder,
    List.length_reverse]

/-- Insertions of new keys evict the others from the head of the order. -/
theorem evictionOrder_foldl_insert (entries : List (Key × Data)) (c : LRUCache Key Data)
    (distinct : (entries.map Prod.fst).Nodup)
    (fresh : ∀ key ∈ entries.map Prod.fst, key ∉ c.getAllKeys) :
    (entries.foldl (fun c entry => c.insert entry.1 entry.2) c).evictionOrder =
      (c.evictionOrder ++ entries.map Prod.fst).drop
        (c.evictionOrder.length + entries.length - c.capacity) := by
  induction entries generalizing c with
  | nil =>
    have fits := c.length_evictionOrder_le
    simp only [List.foldl_nil, List.map_nil, List.append_nil, List.length_nil, Nat.add_zero]
    rw [Nat.sub_eq_zero_of_le fits, List.drop_zero]
  | cons entry entries ih =>
    obtain ⟨key, data⟩ := entry
    rw [List.map_cons, List.nodup_cons] at distinct
    have absent : key ∉ c.getAllKeys := fresh key (by simp)
    have later : ∀ other ∈ entries.map Prod.fst, other ∉ (c.insert key data).getAllKeys := by
      intro other mem present
      rw [getAllKeys, list_insert, AList.keys_truncate, AList.keys_insert] at present
      rcases List.mem_cons.mp (List.mem_of_mem_take present) with same | earlier
      · exact distinct.1 (same ▸ mem)
      · exact fresh other (by simp [mem]) (List.mem_of_mem_erase earlier)
    have fits := c.length_evictionOrder_le
    rw [List.foldl_cons, ih _ distinct.2 later, evictionOrder_insert c absent, capacity_insert,
      List.map_cons, List.length_drop, List.length_append, List.length_singleton,
      ← List.drop_append_of_le_length (by simp), List.drop_drop, List.append_assoc]
    congr 1
    rw [List.length_cons]
    omega

section Walk

variable (drop : Option Data → Prop) [DecidablePred drop]

/-- One turn of a walk that fetches each key and removes those whose datum is to be dropped. -/
def sift (c : LRUCache Key Data) (key : Key) : LRUCache Key Data :=
  if drop (c.find key) then (c.touch key).remove key else c.touch key

theorem find_sift (c : LRUCache Key Data) (key other : Key) :
    (c.sift drop key).find other =
      if other = key ∧ drop (c.find key) then none else c.find other := by
  unfold sift
  by_cases dropped : drop (c.find key)
  · rw [if_pos dropped, find_remove, find_touch]
    simp only [dropped, and_true]
  · rw [if_neg dropped, find_touch]
    simp only [dropped, and_false, if_false]

/-- A turn takes its key out of the rest of the walk, and puts it in front if it stays. -/
theorem getAllKeys_sift (c : LRUCache Key Data) {front rest : List Key} {key : Key}
    (order : c.getAllKeys = front ++ key :: rest) :
    (c.sift drop key).getAllKeys =
      (if drop (c.find key) then front else key :: front) ++ rest := by
  have distinct : (front ++ key :: rest).Nodup := order ▸ c.list.keys_nodup
  have notFront : key ∉ front := fun mem =>
    (List.nodup_append.mp distinct).2.2 key mem key List.mem_cons_self rfl
  have mem : key ∈ c.list := by
    change key ∈ c.getAllKeys
    simp [order]
  have touched : (c.touch key).getAllKeys = key :: (front ++ rest) := by
    change (c.list.touch key).keys = _
    rw [AList.keys_touch mem]
    change key :: c.getAllKeys.erase key = _
    rw [order, List.erase_append_right _ notFront, List.erase_cons_head]
  unfold sift
  split
  · rw [getAllKeys, list_remove, AList.keys_erase]
    change (c.touch key).getAllKeys.erase key = _
    rw [touched, List.erase_cons_head]
  · exact touched

/-- The walk over the keys that are left, with those passed and kept being in front. -/
theorem foldl_sift (rest front : List Key) (c : LRUCache Key Data)
    (order : c.getAllKeys = front ++ rest) :
    (rest.foldl (sift drop) c).getAllKeys =
        (rest.filter fun key => ¬ drop (c.find key)).reverse ++ front ∧
      ∀ key, (rest.foldl (sift drop) c).find key =
        if key ∈ rest ∧ drop (c.find key) then none else c.find key := by
  induction rest generalizing front c with
  | nil => simpa using order
  | cons key rest ih =>
    have distinct : (front ++ key :: rest).Nodup := order ▸ c.list.keys_nodup
    have notRest : key ∉ rest := (List.nodup_cons.mp (List.nodup_append.mp distinct).2.1).1
    have ahead (other : Key) (mem : other ∈ rest) : (c.sift drop key).find other = c.find other := by
      rw [find_sift, if_neg]
      rintro ⟨rfl, -⟩
      exact notRest mem
    obtain ⟨keys, finds⟩ := ih _ _ (getAllKeys_sift drop c order)
    rw [List.foldl_cons]
    constructor
    · have same : (rest.filter fun other => ¬ drop ((c.sift drop key).find other)) =
          rest.filter fun other => ¬ drop (c.find other) :=
        List.filter_congr fun other mem => by rw [ahead other mem]
      rw [keys, same, List.filter_cons]
      by_cases dropped : drop (c.find key) <;> simp [dropped]
    · intro other
      rw [finds]
      by_cases mem : other ∈ rest
      · rw [ahead other mem]
        simp only [mem, List.mem_cons, or_true]
      · rw [find_sift]
        by_cases same : other = key
        · subst same
          simp [mem]
        · simp [mem, same]

end Walk

end LRUCache

namespace ClientInterceptor

/-- Whether a profile leads to the target, as `purgeTarget` reads it. -/
def LeadsTo (target : Identifier) (profiles : LRUCache HashValue Identifier) (key : HashValue) :
    Prop := (profiles.find key).getD [] = target

instance (target : Identifier) (profiles : LRUCache HashValue Identifier) :
    DecidablePred (LeadsTo target profiles) := fun _ => inferInstanceAs (Decidable (_ = _))

theorem purgeTarget_eq (target : Identifier) (profiles : LRUCache HashValue Identifier) :
    purgeTarget target profiles =
      profiles.getAllKeys.foldl (LRUCache.sift fun login => login.getD [] = target) profiles := by
  unfold purgeTarget
  congr 1
  funext profiles key
  rw [LRUCache.fetch_eq]
  rfl

/-- Purging forgets the profiles of the target, and no others. -/
theorem find_purgeTarget (target : Identifier) (profiles : LRUCache HashValue Identifier)
    (key : HashValue) : (purgeTarget target profiles).find key =
      if LeadsTo target profiles key then none else profiles.find key := by
  have walked := (LRUCache.foldl_sift (fun login : Option Identifier => login.getD [] = target)
    profiles.getAllKeys [] profiles rfl).2 key
  rw [purgeTarget_eq, walked]
  by_cases present : key ∈ profiles.getAllKeys
  · simp only [present, true_and]
    rfl
  · have absent : profiles.find key = none := AList.lookup_eq_none.mpr present
    rw [absent]
    simp

/-- The profiles that lead elsewhere, the next to be evicted first. -/
def others (target : Identifier) (profiles : LRUCache HashValue Identifier) : List HashValue :=
  profiles.evictionOrder.filter fun key => ¬ LeadsTo target profiles key

/-- The walk turns the order of the profiles that stay around. -/
theorem evictionOrder_purgeTarget (target : Identifier)
    (profiles : LRUCache HashValue Identifier) :
    (purgeTarget target profiles).evictionOrder = (others target profiles).reverse := by
  have walked := (LRUCache.foldl_sift (fun login : Option Identifier => login.getD [] = target)
    profiles.getAllKeys [] profiles rfl).1
  rw [LRUCache.evictionOrder, purgeTarget_eq, walked, List.append_nil, List.reverse_reverse, others,
    LRUCache.evictionOrder, List.filter_reverse, List.reverse_reverse]
  rfl

theorem nodup_others (target : Identifier) (profiles : LRUCache HashValue Identifier) :
    (others target profiles).Nodup :=
  (List.nodup_reverse.mpr profiles.list.keys_nodup).filter _

/-- Only a list of at most one key reads the same from both ends. -/
theorem reverse_eq_self_iff {l : List HashValue} (distinct : l.Nodup) :
    l.reverse = l ↔ l.length ≤ 1 := by
  cases l with
  | nil => simp
  | cons first tail =>
    rcases List.eq_nil_or_concat tail with rfl | ⟨middle, last, rfl⟩
    · simp
    · have differ : last ≠ first := by
        rintro rfl
        simp at distinct
      simp [differ]

/-- The bus refuses the target of a chain of version 2.0 which is not cached: the call raises
`InvalidLogins` and leaves the second state. -/
structure Refuses (world : ClientWorld) (ref : ConnRef) (key : HashValue) (target : Identifier)
    (s t : Orb) : Prop where
  uncached : (s.legacyCallChainLRUCache).find key = none
  facet : (s.connections ref).legacyAccessControl.isSome
  raised : world.signChainFor .legacy ref target (searched .legacy key s) = (.error .invalidLogins, t)

/-- The only change to a state in which the bus has refused the target is the purge. -/
theorem getSignedChain_of_refuses {world : ClientWorld} {ref : ConnRef} {key : HashValue}
    {target : Identifier} {s t : Orb} (refuses : Refuses world ref key target s t) :
    getSignedChain world .legacy ref key target s =
      (.error (.noPermission invalidTargetCode),
        t.setProfile2login ref (purgeTarget target (t.connections ref).profile2login)) := by
  obtain ⟨signer, facet⟩ := Option.isSome_iff_exists.mp refuses.facet
  have known : chainSigner .legacy ((searched .legacy key s).connections ref) = some signer := facet
  have requested : requestSignedChain world .legacy ref target (searched .legacy key s) =
      (.error (.noPermission invalidTargetCode),
        t.setProfile2login ref (purgeTarget target (t.connections ref).profile2login)) := by
    simp only [requestSignedChain, Action.bind_apply, Action.get_apply, known,
      Action.tryCatch_apply, refuses.raised]
    rfl
  have missed : (s.chainCache .legacy).find key = none := refuses.uncached
  rw [getSignedChain_eq, missed, requested]

/-- The request ends with `InvalidTarget`, the profiles of the target are forgotten, the others
keep what they lead to, and they are evicted in the order they had before. -/
structure PurgesExactly (ref : ConnRef) (target : Identifier) (before : Orb)
    (outcome : Except Exception SignedData × Orb) : Prop where
  result : outcome.1 = .error (.noPermission invalidTargetCode)
  mapping : ∀ key, (outcome.2.connections ref).profile2login.find key =
    if LeadsTo target (before.connections ref).profile2login key then none
    else (before.connections ref).profile2login.find key
  order : (outcome.2.connections ref).profile2login.evictionOrder =
    others target (before.connections ref).profile2login

/-- The purge is exact only while at most one profile leads elsewhere. -/
theorem purgesExactly_iff {world : ClientWorld} {ref : ConnRef} {key : HashValue}
    {target : Identifier} {s t : Orb} (refuses : Refuses world ref key target s t) :
    PurgesExactly ref target t (getSignedChain world .legacy ref key target s) ↔
      (others target (t.connections ref).profile2login).length ≤ 1 := by
  rw [getSignedChain_of_refuses refuses]
  have purged : ((t.setProfile2login ref (purgeTarget target
      (t.connections ref).profile2login)).connections ref).profile2login =
        purgeTarget target (t.connections ref).profile2login := by
    simp [Orb.setProfile2login, Orb.updateConnection]
  rw [← reverse_eq_self_iff (nodup_others target (t.connections ref).profile2login)]
  constructor
  · intro exact
    have order := exact.order
    rwa [purged, evictionOrder_purgeTarget] at order
  · intro palindrome
    refine ⟨rfl, fun profile => ?_, ?_⟩
    · rw [purged, find_purgeTarget]
    · rw [purged, evictionOrder_purgeTarget]
      exact palindrome

namespace PurgedProfiles

/-- A bus that does not know any target. -/
def refusingBus : ClientWorld where
  signChainFor _ _ _ := throw .invalidLogins
  getLoginValidity _ _ := pure 0
  onInvalidLogin _ _ _ := pure ()
  attempts := 0
  requestId := .replicate 16 3

/-- A connection to such a bus which has found the profiles given, the latest last. -/
def knowing (profiles : List (HashValue × Identifier)) : Orb :=
  Orb.init (fun _ =>
    { Connection.init ⟨[2]⟩ true with
      legacyAccessControl := some ⟨ascii "B", 1⟩
      profile2login := profiles.foldl (fun cache entry => cache.insert entry.1 entry.2)
        (.ofSize 128) })
    fun _ => true

/-- The profile of the target, found between two others. -/
def profiles : List (HashValue × Identifier) :=
  [(.replicate 32 1, ascii "s"), (.replicate 32 2, ascii "t"), (.replicate 32 3, ascii "u")]

theorem refuses_knowing (profiles : List (HashValue × Identifier)) :
    Refuses refusingBus 0 (.replicate 32 0) (ascii "t") (knowing profiles) (knowing profiles) where
  uncached := rfl
  facet := rfl
  raised := rfl

/-- With two profiles, one of them of the target. -/
theorem purgesExactly_iff_knowing :
    PurgesExactly 0 (ascii "t") (knowing (profiles.take 2))
        (getSignedChain refusingBus .legacy 0 (.replicate 32 0) (ascii "t")
          (knowing (profiles.take 2))) ↔
      (others (ascii "t") ((knowing (profiles.take 2)).connections 0).profile2login).length ≤ 1 :=
  purgesExactly_iff (refuses_knowing _)

/-- Of two profiles that stay, the one found first was the first to be evicted, and after the purge
is the last. -/
theorem purge_turns_order :
    let after := getSignedChain refusingBus .legacy 0 (.replicate 32 0) (ascii "t")
      (knowing profiles)
    ((knowing profiles).connections 0).profile2login.evictionOrder =
        [.replicate 32 1, .replicate 32 2, .replicate 32 3] ∧
      (after.2.connections 0).profile2login.evictionOrder = [.replicate 32 3, .replicate 32 1] ∧
      ¬ PurgesExactly 0 (ascii "t") (knowing profiles) after := by
  intro after
  have before : ((knowing profiles).connections 0).profile2login.evictionOrder =
      [.replicate 32 1, .replicate 32 2, .replicate 32 3] := by decide +kernel
  have turned : (after.2.connections 0).profile2login.evictionOrder =
      [.replicate 32 3, .replicate 32 1] := by decide +kernel
  have expected : others (ascii "t") ((knowing profiles).connections 0).profile2login =
      [.replicate 32 1, .replicate 32 3] := by decide +kernel
  refine ⟨before, turned, fun exact => ?_⟩
  have order := exact.order
  rw [turned, expected] at order
  exact absurd order (by decide)

end PurgedProfiles

end ClientInterceptor

end OpenBus
