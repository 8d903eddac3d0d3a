import OpenBus.Model.SharedSessions
import OpenBus.Proofs.LRUCache
import OpenBus.Soundness.LegacySupport

/-! # Sessions under several threads

A thread goes on with the pointer that `get_session` has returned while others use the cache. The
node it points at is freed by a reset for the same login, by a logout, and when so many other
logins are used that it is evicted. As long as this happens to no pointer in use, what can still go
wrong is the ticket: two threads that count it up at the same time send it twice. Without this the
threads do what the interceptor would do with whole sessions, one request after the other.
-/

namespace OpenBus

open Machine ClientInterceptor

namespace SharedSessions

/-- The logins whose sessions have been found or installed since they have been cleared last. -/
def usesSinceCleared : List SharedEvent → List Identifier
  | [] => []
  | .looked _ remoteId (some _) :: past => remoteId :: usesSinceCleared past
  | .installed _ session :: past => session.remoteId :: usesSinceCleared past
  | .cleared :: _ => []
  | _ :: past => usesSinceCleared past

/-- The event neither clears the sessions nor replaces that of a login. -/
def Keeps (remoteId : Identifier) : SharedEvent → Prop
  | .installed _ session => session.remoteId ≠ remoteId
  | .cleared => False
  | _ => True

/-- The cache in the order of uses, and each node under its login. -/
structure Arranged (history : List SharedEvent) (s : SharedSessions) : Prop where
  recent : s.login2session.Recent (usesSinceCleared history)
  named : ∀ remoteId address, s.login2session.find remoteId = some address →
    address < s.allocated ∧ (s.nodes address).remoteId = remoteId

variable {platform : Platform} {key : PrivateKey} {history : List SharedEvent} {s : SharedSessions}

theorem find_getSession (thread : ℕ) (remoteId other : Identifier) :
    (s.getSession thread remoteId).login2session.find other = s.login2session.find other :=
  LRUCache.find_fetch s.login2session remoteId other

theorem remoteId_store (thread address other : ℕ) (ticket : ULong) :
    ((s.store thread address ticket).nodes other).remoteId = (s.nodes other).remoteId := by
  simp only [store, counted, Function.update_apply]
  split
  · next same => rw [same]
  · rfl

theorem arranged_of_run (run : Run (sharedMachine platform key) history s) :
    Arranged history s := by
  apply run.invariant Arranged
  · rintro s rfl
    exact ⟨LRUCache.recent_nil rfl, fun remoteId address found => by cases found⟩
  · rintro past s e t - arranged step
    cases step with
    | @looked thread idle remoteId =>
      refine ⟨?_, fun other address found => ?_⟩
      · have fetched := arranged.recent.fetch remoteId
        cases found : s.login2session.find remoteId with
        | none =>
          rw [found] at fetched
          exact fetched
        | some address =>
          rw [found] at fetched
          exact fetched
      · rw [find_getSession] at found
        exact arranged.named other address found
    | loaded => exact ⟨arranged.recent, arranged.named⟩
    | stored =>
      refine ⟨arranged.recent, fun other address found => ?_⟩
      rw [remoteId_store]
      exact arranged.named other address found
    | @installed contexts session read =>
      refine ⟨arranged.recent.insert _ _, fun other address found => ?_⟩
      rcases LRUCache.find_insert_cases found with ⟨rfl, rfl⟩ | ⟨-, before⟩
      · exact ⟨Nat.lt_succ_self _, congrArg _ (Function.update_self ..)⟩
      · obtain ⟨old, named⟩ := arranged.named other address before
        refine ⟨Nat.lt_succ_of_lt old, ?_⟩
        rw [← named]
        exact congrArg _ (Function.update_of_ne old.ne ..)
    | cleared => exact ⟨LRUCache.recent_nil rfl, fun remoteId address found => by cases found⟩

/-- A node stands under its login only. -/
theorem Arranged.live (arranged : Arranged history s) (address : ℕ) :
    s.Live address ↔ s.login2session.find (s.nodes address).remoteId = some address := by
  constructor
  · rintro ⟨remoteId, found⟩
    rwa [(arranged.named remoteId address found).2]
  · exact fun found => ⟨_, found⟩

/-- What has become of the node that a thread has found for a login. -/
structure Found (remoteId : Identifier) (address : ℕ) (after : List SharedEvent)
    (s : SharedSessions) : Prop where
  allocated : address < s.allocated
  named : (s.nodes address).remoteId = remoteId
  only : (∀ e ∈ after, Keeps remoteId e) →
    ∀ other, s.login2session.find remoteId = some other → other = address
  freed : (¬ ∀ e ∈ after, Keeps remoteId e) → s.login2session.find remoteId ≠ some address

theorem Found.quiet {remoteId : Identifier} {address : ℕ} {after : List SharedEvent}
    {e : SharedEvent} {t : SharedSessions} (found : Found remoteId address after s)
    (keeps : Keeps remoteId e) (allocated : t.allocated = s.allocated)
    (named : (t.nodes address).remoteId = (s.nodes address).remoteId)
    (same : t.login2session.find remoteId = s.login2session.find remoteId) :
    Found remoteId address (e :: after) t where
  allocated := allocated ▸ found.allocated
  named := named.trans found.named
  only kept := by
    rw [same]
    exact found.only (List.forall_mem_cons.mp kept).2
  freed replaced := by
    rw [same]
    exact found.freed fun kept => replaced (List.forall_mem_cons.mpr ⟨keeps, kept⟩)

theorem Found.step {remoteId : Identifier} {address : ℕ} {after : List SharedEvent}
    {e : SharedEvent} {t : SharedSessions} (found : Found remoteId address after s)
    (step : SharedStep platform key s e t) : Found remoteId address (e :: after) t := by
  cases step with
  | looked => exact found.quiet trivial rfl rfl (find_getSession ..)
  | loaded => exact found.quiet trivial rfl rfl rfl
  | stored => exact found.quiet trivial rfl (remoteId_store ..) rfl
  | @installed contexts session read =>
    refine ⟨Nat.lt_succ_of_lt found.allocated, ?_, fun kept other present => ?_,
      fun replaced present => ?_⟩
    · rw [← found.named]
      exact congrArg _ (Function.update_of_ne found.allocated.ne ..)
    · obtain ⟨different, kept⟩ := List.forall_mem_cons.mp kept
      rcases LRUCache.find_insert_cases present with ⟨same, -⟩ | ⟨-, before⟩
      · exact absurd same.symm different
      · exact found.only kept other before
    · rcases LRUCache.find_insert_cases present with ⟨-, new⟩ | ⟨different, before⟩
      · exact found.allocated.ne new
      · exact found.freed (fun kept => replaced
          (List.forall_mem_cons.mpr ⟨Ne.symm different, kept⟩)) before
  | cleared =>
    refine ⟨found.allocated, found.named, fun _ other present => ?_, fun _ present => ?_⟩
    · cases present
    · cases present

theorem found_of_run {after before : List SharedEvent} {thread address : ℕ} {remoteId : Identifier}
    (run : Run (sharedMachine platform key)
      (after ++ .looked thread remoteId (some address) :: before) s) :
    Found remoteId address after s := by
  induction after generalizing s with
  | nil =>
    cases run with
    | @step _ s _ _ run step =>
      generalize found : some address = result at step
      cases step with
      | looked idle =>
        have named := (arranged_of_run run).named remoteId address found.symm
        refine ⟨named.1, named.2, fun _ other present => ?_, fun kept => absurd (by simp) kept⟩
        rw [find_getSession, ← found, Option.some.injEq] at present
        exact present.symm
  | cons e after ih =>
    cases run with
    | step run step => exact (ih run).step step

theorem mem_usesSinceCleared {after before : List SharedEvent} {thread address : ℕ}
    {remoteId : Identifier} (kept : ∀ e ∈ after, Keeps remoteId e) :
    remoteId ∈ usesSinceCleared (after ++ .looked thread remoteId (some address) :: before) := by
  induction after with
  | nil => exact List.mem_cons_self
  | cons e after ih =>
    obtain ⟨keeps, kept⟩ := List.forall_mem_cons.mp kept
    have earlier := ih kept
    cases e with
    | looked thread other result =>
      cases result with
      | none => exact earlier
      | some _ => exact List.mem_cons_of_mem _ earlier
    | installed => exact List.mem_cons_of_mem _ earlier
    | cleared => exact keeps.elim
    | _ => exact earlier

/-- The pointer that `get_session` has returned is good exactly as long as the sessions have not
been cleared, that of the login has not been replaced, and fewer other logins have been used since
the last use of this one than the cache has places. -/
theorem live_iff {after before : List SharedEvent} {thread address : ℕ} {remoteId : Identifier}
    (run : Run (sharedMachine platform key)
      (after ++ .looked thread remoteId (some address) :: before) s) :
    s.Live address ↔ (∀ e ∈ after, Keeps remoteId e) ∧
      (usedSince remoteId (usesSinceCleared
        (after ++ .looked thread remoteId (some address) :: before))).card <
          s.login2session.capacity := by
  have arranged := arranged_of_run run
  have found := found_of_run run
  rw [arranged.live, found.named]
  constructor
  · intro present
    have kept : ∀ e ∈ after, Keeps remoteId e := by
      by_contra replaced
      exact found.freed replaced present
    exact ⟨kept, ((arranged.recent.isSome_find_iff remoteId).mp (by rw [present]; rfl)).2⟩
  · rintro ⟨kept, room⟩
    have present := (arranged.recent.isSome_find_iff remoteId).mpr ⟨mem_usesSinceCleared kept, room⟩
    obtain ⟨other, present⟩ := Option.isSome_iff_exists.mp present
    rw [present, found.only kept other present]

/-- What a thread does to the ticket of the node at an address. -/
def updateOf (address : ℕ) : SharedEvent → Option (Update ℕ ULong)
  | .loaded thread other => if other = address then some (.load thread) else none
  | .stored thread other session =>
      if other = address then some (.store thread session.ticket) else none
  | _ => none

/-- The tickets that have been sent over the session at an address, the newest first. -/
def tickets (address : ℕ) (history : List SharedEvent) : List ULong :=
  (history.filterMap (updateOf address)).filterMap Update.stored

theorem ticket_currentReset {contexts : ServiceContexts} {session : SecretSession}
    (read : currentReset platform key contexts = .ok session) : session.ticket = 0 := by
  unfold currentReset at read
  split at read
  · obtain ⟨any, -, rest⟩ := bind_eq_ok_iff.mp read
    dsimp only at rest
    split at rest
    · obtain ⟨plain, -, rest⟩ := bind_eq_ok_iff.mp rest
      obtain ⟨secret, -, final⟩ := bind_eq_ok_iff.mp rest
      obtain rfl := Except.ok.inj final
      rfl
    · cases rest
  · cases read

theorem ticket_legacyReset {contexts : ServiceContexts} {session : SecretSession}
    (read : legacyReset platform key contexts = .ok session) : session.ticket = 0 := by
  unfold legacyReset at read
  split at read
  · obtain ⟨any, -, rest⟩ := bind_eq_ok_iff.mp read
    obtain ⟨plain, -, rest⟩ := bind_eq_ok_iff.mp rest
    obtain ⟨secret, -, final⟩ := bind_eq_ok_iff.mp rest
    obtain rfl := Except.ok.inj final
    rfl
  · cases read

theorem ticket_resetSession {contexts : ServiceContexts} {session : SecretSession}
    (read : resetSession platform key contexts = .ok session) : session.ticket = 0 := by
  unfold resetSession at read
  split at read
  · next current =>
    obtain rfl := Except.ok.inj read
    exact ticket_currentReset current
  · split at read
    · next legacy =>
      obtain rfl := Except.ok.inj read
      exact ticket_legacyReset legacy
    · cases read
  · cases read

/-- The ticket of one node, seen as a value that threads update. -/
structure Projects (address : ℕ) (history : List SharedEvent) (s : SharedSessions)
    (u : Shared ℕ ULong) : Prop where
  run : Run (updateMachine (· + 1) 0) (history.filterMap (updateOf address)) u
  ticket : u.value = (s.nodes address).ticket
  new : s.allocated ≤ address → u.value = 0
  loaded : ∀ thread ticket, s.pointer thread = some address → s.loaded thread = some ticket →
    u.loaded thread = some ticket

variable {address : ℕ} {u : Shared ℕ ULong}

theorem Projects.load (projects : Projects address history s u) {thread other : ℕ}
    (points : s.pointer thread = some other) :
    ∃ v, Projects address (.loaded thread other :: history) (s.load thread other) v := by
  by_cases same : other = address
  · subst same
    refine ⟨{ u with loaded := Function.update u.loaded thread (some u.value) }, ?_,
      projects.ticket, projects.new, fun again ticket pointed held => ?_⟩
    · rw [List.filterMap_cons, updateOf, if_pos rfl]
      exact projects.run.step (.load thread)
    · change Function.update s.loaded thread _ again = some ticket at held
      change Function.update u.loaded thread _ again = some ticket
      by_cases same : again = thread
      · rw [same, Function.update_self] at held ⊢
        rw [projects.ticket, held]
      · rw [Function.update_of_ne same] at held ⊢
        exact projects.loaded again ticket pointed held
  · refine ⟨u, ?_, projects.ticket, projects.new, fun again ticket pointed held => ?_⟩
    · rw [List.filterMap_cons, updateOf, if_neg same]
      exact projects.run
    · change Function.update s.loaded thread _ again = some ticket at held
      have different : again ≠ thread := by
        rintro rfl
        exact same (Option.some.inj (points.symm.trans pointed))
      rw [Function.update_of_ne different] at held
      exact projects.loaded again ticket pointed held

theorem Projects.store (projects : Projects address history s u) {thread other : ℕ}
    {ticket : ULong} (points : s.pointer thread = some other) (allocated : other < s.allocated)
    (held : s.loaded thread = some ticket) :
    ∃ v, Projects address (.stored thread other (s.counted other (ticket + 1)) :: history)
      (s.store thread other (ticket + 1)) v := by
  by_cases same : other = address
  · subst same
    refine ⟨⟨ticket + 1, Function.update u.loaded thread none⟩, ?_, ?_,
      fun new => absurd allocated (Nat.not_lt.mpr new), fun again loaded pointed held' => ?_⟩
    · rw [List.filterMap_cons, updateOf, if_pos rfl]
      exact projects.run.step (.store (projects.loaded thread ticket points held))
    · change ticket + 1 = (Function.update s.nodes other _ other).ticket
      rw [Function.update_self]
      rfl
    · change Function.update s.loaded thread none again = some loaded at held'
      change Function.update u.loaded thread none again = some loaded
      by_cases same : again = thread
      · rw [same, Function.update_self] at held'
        cases held'
      · rw [Function.update_of_ne same] at held' ⊢
        exact projects.loaded again loaded pointed held'
  · refine ⟨u, ?_, ?_, projects.new, fun again loaded pointed held' => ?_⟩
    · rw [List.filterMap_cons, updateOf, if_neg same]
      exact projects.run
    · rw [projects.ticket]
      exact congrArg SecretSession.ticket (Function.update_of_ne (Ne.symm same) _ s.nodes).symm
    · change Function.update s.loaded thread none again = some loaded at held'
      by_cases same : again = thread
      · rw [same, Function.update_self] at held'
        cases held'
      · rw [Function.update_of_ne same] at held'
        exact projects.loaded again loaded pointed held'

theorem Projects.install (projects : Projects address history s u) {session : SecretSession}
    (begins : session.ticket = 0) :
    Projects address (.installed s.allocated session :: history) (s.install session) u := by
  refine ⟨projects.run, ?_, fun new => projects.new (Nat.le_of_succ_le new), projects.loaded⟩
  change u.value = (Function.update s.nodes s.allocated session address).ticket
  by_cases same : address = s.allocated
  · rw [same, Function.update_self, begins, projects.new same.ge]
  · rw [Function.update_of_ne same]
    exact projects.ticket

theorem Projects.step {e : SharedEvent} {t : SharedSessions}
    (projects : Projects address history s u) (arranged : Arranged history s)
    (step : SharedStep platform key s e t) : ∃ v, Projects address (e :: history) t v := by
  cases step with
  | @looked thread idle remoteId =>
    refine ⟨u, projects.run, projects.ticket, projects.new, fun other ticket points held => ?_⟩
    by_cases same : other = thread
    · rw [same] at held
      cases idle.symm.trans held
    · exact projects.loaded other ticket ((Function.update_of_ne same ..).symm.trans points) held
  | loaded points => exact projects.load points
  | stored points live held =>
    obtain ⟨remoteId, found⟩ := live
    exact projects.store points (arranged.named remoteId _ found).1 held
  | installed read => exact ⟨u, projects.install (ticket_resetSession read)⟩
  | cleared => exact ⟨u, projects.run, projects.ticket, projects.new, projects.loaded⟩

theorem projects_of_run (run : Run (sharedMachine platform key) history s) (address : ℕ) :
    ∃ u, Projects address history s u := by
  induction run with
  | start init =>
    cases init
    exact ⟨⟨0, fun _ => none⟩, .start rfl, rfl, fun _ => rfl, fun _ _ _ held => by cases held⟩
  | step run step ih =>
    obtain ⟨u, projects⟩ := ih
    exact projects.step (arranged_of_run run) step

theorem iterate_count (n : ℕ) : (· + 1)^[n] (0 : ULong) = BitVec.ofNat 32 n := by
  induction n with
  | zero => rfl
  | succ n ih =>
    rw [Function.iterate_succ_apply', ih, BitVec.ofNat_add]
    rfl

/-- Over each session, as long as its tickets have not come round, none is sent twice if and only if
no thread has counted it up while another was about to. -/
theorem tickets_nodup_iff (run : Run (sharedMachine platform key) history s) (address : ℕ)
    (fits : (tickets address history).length ≤ 2 ^ 32) :
    (tickets address history).Nodup ↔
      Always Update.Undisturbed (history.filterMap (updateOf address)) := by
  obtain ⟨u, projects⟩ := projects_of_run run address
  refine nodup_stored_iff projects.run fun m less n less' same => ?_
  have below : m < 2 ^ 32 ∧ n < 2 ^ 32 := ⟨less.trans_le fits, less'.trans_le fits⟩
  simp only [Function.iterate_succ_apply', iterate_count] at same
  have equal := congrArg BitVec.toNat ((BitVec.add_left_inj 1).mp same)
  rwa [BitVec.toNat_ofNat, BitVec.toNat_ofNat, Nat.mod_eq_of_lt below.1,
    Nat.mod_eq_of_lt below.2] at equal

/-- What an event is to the sessions as values: the ticket is counted when it is stored. -/
def atomicOf : SharedEvent → Option AtomicEvent
  | .looked _ remoteId _ => some (.looked remoteId)
  | .loaded _ _ => none
  | .stored _ _ session => some (.counted session)
  | .installed _ session => some (.installed session)
  | .cleared => some .cleared

/-- The cache of the sessions, with their nodes replaced by what they hold. -/
structure Represents (s : SharedSessions) (c : LRUCache Identifier SecretSession) : Prop where
  list : c.list = s.login2session.list.map fun _ => s.nodes
  capacity : c.capacity = s.login2session.capacity

variable {c : LRUCache Identifier SecretSession}

theorem Represents.find (represents : Represents s c) (remoteId : Identifier) :
    c.find remoteId = (s.login2session.find remoteId).map s.nodes := by
  rw [LRUCache.find, represents.list, AList.lookup_map]
  rfl

theorem Represents.looked (represents : Represents s c) (thread : ℕ) (remoteId : Identifier) :
    Represents (s.getSession thread remoteId) (c.fetch remoteId).2 := by
  simp only [getSession, LRUCache.fetch_eq]
  refine ⟨?_, ?_⟩
  · change c.list.touch remoteId = (s.login2session.list.touch remoteId).map fun _ => s.nodes
    rw [AList.map_touch, represents.list]
  · rw [LRUCache.capacity_touch, LRUCache.capacity_touch, represents.capacity]

theorem Represents.counted (represents : Represents s c) (arranged : Arranged history s)
    {thread address : ℕ} {remoteId : Identifier} {ticket : ULong}
    (found : s.login2session.find remoteId = some address) :
    Represents (s.store thread address ticket) (c.assign remoteId (s.counted address ticket)) := by
  refine ⟨?_, ?_⟩
  · have stored : (s.store thread address ticket).nodes address = s.counted address ticket :=
      Function.update_self ..
    change c.list.replace remoteId _ = s.login2session.list.map fun _ => _
    rw [AList.map_replace (g := fun _ => s.nodes) found, stored, represents.list]
    intro other address' there different
    refine Function.update_of_ne (fun same => different ?_) _ _
    rw [← (arranged.named other address' there).2, same, (arranged.named remoteId _ found).2]
  · rw [LRUCache.capacity_assign, represents.capacity]
    rfl

theorem Represents.installed (represents : Represents s c) (arranged : Arranged history s)
    (session : SecretSession) :
    Represents (s.install session) (c.insert session.remoteId session) := by
  refine ⟨?_, ?_⟩
  · have new : (s.install session).nodes s.allocated = session := Function.update_self ..
    have others : (s.login2session.list.map fun _ => s.nodes) =
        s.login2session.list.map fun _ => (s.install session).nodes :=
      AList.map_congr fun remoteId address there =>
        (Function.update_of_ne (arranged.named remoteId address there).1.ne _ _).symm
    change _ = (s.login2session.insert session.remoteId s.allocated).list.map fun _ => _
    rw [LRUCache.list_insert, LRUCache.list_insert, AList.map_truncate, AList.map_insert,
      represents.capacity, represents.list, others, new]
  · exact (LRUCache.capacity_insert ..).trans
      (represents.capacity.trans (LRUCache.capacity_insert ..).symm)

theorem Represents.cleared (represents : Represents s c) : Represents s.clear c.clear := by
  refine ⟨rfl, ?_⟩
  change c.clear.capacity = s.login2session.clear.capacity
  rw [LRUCache.capacity_clear, LRUCache.capacity_clear, represents.capacity, represents.list,
    AList.keys_map]

/-- What a thread has loaded is the ticket still when it stores, unless it is disturbed. -/
theorem loaded_current (run : Run (sharedMachine platform key) history s) {thread address : ℕ}
    {ticket : ULong} (points : s.pointer thread = some address)
    (held : s.loaded thread = some ticket)
    (undisturbed : Always Update.Undisturbed
      (Update.store thread (ticket + 1) :: history.filterMap (updateOf address))) :
    ticket = (s.nodes address).ticket := by
  obtain ⟨now, before⟩ := undisturbed
  obtain ⟨u, projects⟩ := projects_of_run run address
  have inTurn := inTurn_of_run projects.run before
  obtain ⟨-, latest⟩ := inTurn.loaded thread ticket (projects.loaded thread ticket points held)
  rw [show Update.storesSince thread _ = 0 from now, Nat.sub_zero] at latest
  rw [latest, ← projects.ticket, inTurn.current]

/-- Threads that do not count a ticket up at the same time do with the nodes what they would do with
whole sessions, each of which is counted up in one step. -/
theorem refines_atomic (run : Run (sharedMachine platform key) history s)
    (undisturbed : ∀ address, Always Update.Undisturbed (history.filterMap (updateOf address))) :
    ∃ c, Run atomicMachine (history.filterMap atomicOf) c ∧ Represents s c := by
  induction run with
  | start init =>
    cases init
    exact ⟨.ofSize 128, .start rfl, rfl, rfl⟩
  | @step past s t e run step ih =>
    obtain ⟨c, atomic, represents⟩ := ih fun address =>
      (undisturbed address).of_suffix ((List.suffix_cons e past).filterMap _)
    have arranged := arranged_of_run run
    cases step with
    | looked idle remoteId =>
      exact ⟨_, atomic.step (.looked c remoteId), represents.looked _ remoteId⟩
    | loaded => exact ⟨c, atomic, represents.list, represents.capacity⟩
    | @stored thread address ticket points live held =>
      obtain ⟨remoteId, found⟩ := live
      have now := undisturbed address
      rw [List.filterMap_cons, updateOf, if_pos rfl] at now
      have current := loaded_current run points held now
      have session : c.find remoteId = some (s.nodes address) := by
        rw [represents.find, found, Option.map_some]
      refine ⟨_, ?_, represents.counted arranged found⟩
      rw [List.filterMap_cons, atomicOf, current]
      exact atomic.step (.counted session)
    | @installed contexts session read =>
      exact ⟨_, atomic.step (.installed c session), represents.installed arranged session⟩
    | cleared => exact ⟨_, atomic.step (.cleared c), represents.cleared⟩

section Functions

variable {ref : ConnRef} {orb : Orb} {request : ClientRequest}

variable (platform request ref orb) in
theorem atomic_getSession :
    let t := (ClientInterceptor.getSession platform request ref orb).2
    (t.connections ref).login2session = (orb.connections ref).login2session ∨
      ∃ remoteId, AtomicStep (orb.connections ref).login2session (.looked remoteId)
        (t.connections ref).login2session := by
  simp only [ClientInterceptor.getSession, Action.bind_apply, Action.get_apply,
    Action.modify_apply]
  split
  · left
    simp
  · right
    refine ⟨(((orb.connections ref).profile2login.fetch (sessionKey platform request)).1.getD []),
      ?_⟩
    simp [Action.bind_apply]
    exact .looked _ _

theorem atomic_sessionCredential {world : ClientWorld} {protocol : Protocol}
    {bus login remoteId : Identifier} {chain : CallerChain} {session : SecretSession}
    (found : (orb.connections ref).login2session.find remoteId = some session) :
    ∃ t : Orb, AtomicStep (orb.connections ref).login2session
        (.counted { session with ticket := session.ticket + 1 }) (t.connections ref).login2session ∧
      (sessionCredential platform world request protocol ref bus login chain remoteId session
        orb).2 = (credentialChain platform world protocol ref login chain
          { session with ticket := session.ticket + 1 } t).2 := by
  refine ⟨orb.setLogin2session ref ((orb.connections ref).login2session.assign remoteId
    { session with ticket := session.ticket + 1 }), ?_, ?_⟩
  · simp only [Orb.connections_setLogin2session]
    exact .counted found
  · simp only [sessionCredential, Action.bind_apply, Action.modify_apply]
    rcases credentialChain platform world protocol ref login chain
      { session with ticket := session.ticket + 1 } _ with ⟨e | signed, u⟩ <;> rfl

theorem atomic_installSession {contexts : ServiceContexts} {session : SecretSession}
    (read : resetSession platform (orb.connections ref).key contexts = .ok session) :
    AtomicStep (orb.connections ref).login2session (.installed session)
      ((installSession platform request ref contexts orb).2.connections ref).login2session := by
  rw [LegacySupport.connections_installSession, read]
  exact .installed _ session

theorem atomic_logoutSection (logged : (orb.connections ref).state = .logged) :
    AtomicStep (orb.connections ref).login2session .cleared
      ((orb.logoutSection ref).connections ref).login2session := by
  rw [Orb.connections_logoutSection]
  simp only [Connection.logout, logged]
  exact .cleared _

end Functions

namespace Reference

open LegacySupport.Reference

/-- A session has been installed and two threads have found it. -/
def shared : SharedSessions :=
  ((init.install legacySession).getSession 0 (ascii "r")).getSession 1 (ascii "r")

def sharing : List SharedEvent :=
  [.looked 1 (ascii "r") (some 0), .looked 0 (ascii "r") (some 0), .installed 0 legacySession]

theorem looked {history : List SharedEvent} {s : SharedSessions}
    (run : Run (sharedMachine referencePlatform ⟨[2]⟩) history s) {thread : ℕ}
    (idle : s.loaded thread = none) (found : s.login2session.find (ascii "r") = some 0) :
    Run (sharedMachine referencePlatform ⟨[2]⟩) (.looked thread (ascii "r") (some 0) :: history)
      (s.getSession thread (ascii "r")) := by
  rw [← found]
  exact run.step (.looked idle (ascii "r"))

theorem run_sharing : Run (sharedMachine referencePlatform ⟨[2]⟩) sharing shared := by
  have start : Run (sharedMachine referencePlatform ⟨[2]⟩) [] init := .start rfl
  have installed : Run (sharedMachine referencePlatform ⟨[2]⟩) [.installed 0 legacySession]
      (init.install legacySession) := start.step (.installed resetSession_legacyOffer)
  exact looked (looked installed rfl (by decide +kernel)) rfl (by decide +kernel)

/-- Both threads count the ticket up at the same time. -/
def raced : SharedSessions := (((shared.load 0 0).load 1 0).store 0 0 1).store 1 0 1

def racing : List SharedEvent :=
  [.stored 1 0 { legacySession with ticket := 1 }, .stored 0 0 { legacySession with ticket := 1 },
    .loaded 1 0, .loaded 0 0] ++ sharing

/-- A thread that has read ticket 0 sends ticket 1. -/
theorem counts {history : List SharedEvent} {s : SharedSessions}
    (run : Run (sharedMachine referencePlatform ⟨[2]⟩) history s) {thread : ℕ}
    (points : s.pointer thread = some 0) (live : s.Live 0) (held : s.loaded thread = some 0)
    (same : s.counted 0 1 = { legacySession with ticket := 1 }) :
    Run (sharedMachine referencePlatform ⟨[2]⟩)
      (.stored thread 0 { legacySession with ticket := 1 } :: history) (s.store thread 0 1) := by
  rw [← same]
  exact run.step (@SharedStep.stored referencePlatform ⟨[2]⟩ s thread 0 0 points live held)

theorem run_racing : Run (sharedMachine referencePlatform ⟨[2]⟩) racing raced := by
  have live : shared.Live 0 := ⟨ascii "r", by decide +kernel⟩
  have first : Run (sharedMachine referencePlatform ⟨[2]⟩) (.loaded 0 0 :: sharing)
      (shared.load 0 0) := run_sharing.step (.loaded rfl live rfl)
  have second : Run (sharedMachine referencePlatform ⟨[2]⟩) (.loaded 1 0 :: .loaded 0 0 :: sharing)
      ((shared.load 0 0).load 1 0) := first.step (.loaded rfl live rfl)
  exact counts (counts second rfl live rfl rfl) rfl live rfl rfl

/-- One thread counts the ticket up alone. -/
def turning : List SharedEvent :=
  .stored 0 0 { legacySession with ticket := 1 } :: .loaded 0 0 :: sharing

theorem run_turning : Run (sharedMachine referencePlatform ⟨[2]⟩) turning
    ((shared.load 0 0).store 0 0 1) := by
  have live : shared.Live 0 := ⟨ascii "r", by decide +kernel⟩
  exact counts (run_sharing.step (.loaded rfl live rfl)) rfl live rfl rfl

theorem undisturbed_turning (address : ℕ) :
    Always Update.Undisturbed (turning.filterMap (updateOf address)) := by
  by_cases same : 0 = address
  · subst same
    exact ⟨rfl, trivial, trivial⟩
  · simp only [turning, sharing, List.filterMap_cons, updateOf, if_neg same]
    trivial

end Reference

open Reference LegacySupport.Reference in
/-- A reset for the same login frees the node that a thread has found. -/
theorem live_iff_replaced :
    (shared.install legacySession).Live 0 ↔
      (∀ e ∈ [.installed 1 legacySession], Keeps (ascii "r") e) ∧
        (usedSince (ascii "r") (usesSinceCleared (.installed 1 legacySession :: sharing))).card <
          (shared.install legacySession).login2session.capacity :=
  have run : Run (sharedMachine referencePlatform ⟨[2]⟩) ([.installed 1 legacySession] ++ sharing)
      (shared.install legacySession) := run_sharing.step (.installed resetSession_legacyOffer)
  live_iff run

open Reference in
theorem tickets_nodup_iff_racing : (tickets 0 racing).Nodup ↔
    Always Update.Undisturbed (racing.filterMap (updateOf 0)) :=
  tickets_nodup_iff run_racing 0 (by decide)

open Reference in
theorem refines_atomic_turning : ∃ c, Run atomicMachine (turning.filterMap atomicOf) c ∧
    Represents ((shared.load 0 0).store 0 0 1) c :=
  refines_atomic run_turning undisturbed_turning

end SharedSessions

end OpenBus
