import OpenBus.Machine.Run
import OpenBus.Soundness.CredentialNames

/-! # What the cached chains were signed for

A signed chain is cached under the login, the remote login and one signature of the joined chain,
while the bus signs it for the login, the whole joined chain and, in version 2.1, the entity of
the session. The machine has the searches and the insertions of the two caches as its steps, in
any order that the threads of an ORB may produce. A chain served from a cache was signed for the
request if the last signing that shares its key agrees with it in what the key leaves out.
-/

namespace OpenBus

open Machine

namespace ClientInterceptor

/-- What a request for a signed chain depends on. The chain joined is that of the thread's slot. -/
structure Lookup where
  protocol : Protocol
  ref : ConnRef
  login : Identifier
  joined : Any
  chain : CallerChain
  session : SecretSession

namespace Lookup

/-- The signed chain in the slot of joined chains, if there is one. -/
def joinedChain (lookup : Lookup) : Option (Protocol × SignedData) :=
  if lookup.joined.extractSignedData.encoded ≠ [] then
    some (.current, lookup.joined.extractSignedData)
  else if lookup.joined.extractSignedCallChain.encoded ≠ [] then
    some (.legacy, lookup.joined.extractSignedCallChain)
  else none

def buffer (platform : Platform) (lookup : Lookup) : OctetSeq :=
  chainKeyBuffer platform lookup.protocol lookup.login lookup.session.remoteId lookup.chain

def key (platform : Platform) (lookup : Lookup) : HashValue :=
  platform.sha256 (lookup.buffer platform)

/-- The argument of `signChainFor`. -/
def target (lookup : Lookup) : Identifier := chainTarget lookup.protocol lookup.session

/-- The lookup is one that `attach_credential` makes, in some state and on some thread. -/
structure Asked (platform : Platform) (lookup : Lookup) : Prop where
  chained : ∃ orb : Orb, orb.piCurrent .joinedCallChain = lookup.joined ∧
    getJoinedChain platform lookup.ref orb = .ok lookup.chain
  version : lookup.protocol = usedProtocol lookup.session lookup.chain

end Lookup

/-- A section of the interceptor that uses the caches of signed chains. -/
inductive ChainEvent where
  | served (lookup : Lookup) (chain : SignedData)
  | missed (lookup : Lookup)
  /-- A call of `signChainFor`, made under the login `under`, has returned. -/
  | signed (lookup : Lookup) (under : Identifier) (chain : SignedData)
  | cleared
  | other

inductive ChainStep (platform : Platform) : Orb → ChainEvent → Orb → Prop
  | served {orb : Orb} {lookup : Lookup} {chain : SignedData} (asked : lookup.Asked platform)
      (found : (orb.chainCache lookup.protocol).find (lookup.key platform) = some chain) :
      ChainStep platform orb (.served lookup chain)
        (searched lookup.protocol (lookup.key platform) orb)
  | missed {orb : Orb} {lookup : Lookup} (asked : lookup.Asked platform)
      (absent : (orb.chainCache lookup.protocol).find (lookup.key platform) = none) :
      ChainStep platform orb (.missed lookup) (searched lookup.protocol (lookup.key platform) orb)
  | signed {orb : Orb} {lookup : Lookup} (under : Identifier) (chain : SignedData)
      (asked : lookup.Asked platform) :
      ChainStep platform orb (.signed lookup under chain)
        (stored lookup.protocol (lookup.key platform) chain orb)
  | cleared {orb : Orb} : ChainStep platform orb .cleared orb.clearCaches
  | other {orb t : Orb} (same : ∀ protocol, t.chainCache protocol = orb.chainCache protocol) :
      ChainStep platform orb .other t

def chainMachine (platform : Platform) : Labeled Orb ChainEvent where
  Init orb := ∀ protocol, orb.chainCache protocol = .ofSize 128
  Step := ChainStep platform

variable {platform : Platform}

/-- The interceptor goes through these sections: it finds a chain, or it misses it, has it signed
while other sections may run, and stores it. -/
theorem credentialChain_run {world : ClientWorld} {lookup : Lookup} (asked : lookup.Asked platform)
    (remote : lookup.session.remoteId ≠ busLogin)
    (nested : ∀ history orb, Run (chainMachine platform) history orb → ∃ more,
      Run (chainMachine platform) (more ++ history)
        (requestSignedChain world lookup.protocol lookup.ref lookup.target orb).2)
    (under : Identifier) {history : List ChainEvent} {orb t : Orb} {chain : SignedData}
    (run : Run (chainMachine platform) history orb)
    (ran : credentialChain platform world lookup.protocol lookup.ref lookup.login lookup.chain
      lookup.session orb = (.ok chain, t)) :
    ∃ more, Run (chainMachine platform) (more ++ history) t ∧
      (.served lookup chain ∈ more ∨ .signed lookup under chain ∈ more) := by
  rw [credentialChain, if_neg remote] at ran
  change getSignedChain world lookup.protocol lookup.ref (lookup.key platform) lookup.target orb =
    (.ok chain, t) at ran
  rw [getSignedChain_eq] at ran
  cases found : (orb.chainCache lookup.protocol).find (lookup.key platform) with
  | none =>
    rw [found] at ran
    have missed := run.step (.missed asked found)
    rcases signing : requestSignedChain world lookup.protocol lookup.ref lookup.target
      (searched lookup.protocol (lookup.key platform) orb) with ⟨e | signed, after⟩
    · simp only [signing] at ran
      cases ran
    · simp only [signing] at ran
      cases ran
      obtain ⟨more, meanwhile⟩ := nested _ _ missed
      rw [signing] at meanwhile
      refine ⟨.signed lookup under chain :: (more ++ [.missed lookup]), ?_, .inr List.mem_cons_self⟩
      have stored := meanwhile.step (ChainStep.signed under chain asked)
      simpa [List.append_assoc] using stored
  | some cached =>
    rw [found] at ran
    cases ran
    exact ⟨[.served lookup chain], run.step (.served asked found), .inl List.mem_cons_self⟩

/-- The chain served was signed in an earlier call of the same version, made under the login of
the request with the same chain joined, for the same argument. -/
def ServedSoundly (past : List ChainEvent) : ChainEvent → Prop
  | .served lookup chain => ∃ signing : Lookup, .signed signing lookup.login chain ∈ past ∧
      signing.protocol = lookup.protocol ∧ signing.joinedChain = lookup.joinedChain ∧
      signing.target = lookup.target
  | _ => True

/-- The chain joined has been signed by the bus for the version of the credential. -/
def Lookup.Signed (lookup : Lookup) : Prop := ∃ s, lookup.joinedChain = some (lookup.protocol, s)

/-- The last signing whose chain has been stored under a key and not been cleared since. -/
def lastSigned (platform : Platform) (protocol : Protocol) (key : HashValue) :
    List ChainEvent → Option (Lookup × Identifier × SignedData)
  | [] => none
  | .signed signing under chain :: past =>
      if signing.protocol = protocol ∧ signing.key platform = key then some (signing, under, chain)
      else lastSigned platform protocol key past
  | .cleared :: _ => none
  | _ :: past => lastSigned platform protocol key past

/-- A signing and a lookup of one key agree in what the key leaves out: the login in force during
the call, the entity in version 2.1, and the chain joined where its signature does not tell. -/
structure Compatible (signing : Lookup) (under : Identifier) (lookup : Lookup) : Prop where
  login : under = signing.login
  entity : lookup.protocol = .current → signing.session.entity = lookup.session.entity
  joined : ¬ (signing.Signed ∧ lookup.Signed) → signing.joinedChain = lookup.joinedChain

/-- A lookup is not confused with the last signing of its key. -/
def NotConfused (platform : Platform) (past : List ChainEvent) : ChainEvent → Prop
  | .served lookup _ => ∀ signing under chain,
      lastSigned platform lookup.protocol (lookup.key platform) past = some (signing, under, chain) →
        Compatible signing under lookup
  | _ => True

def lookupOf : ChainEvent → Option Lookup
  | .served lookup _ | .missed lookup | .signed lookup _ _ => some lookup
  | _ => none

def lookupsOf (history : List ChainEvent) : Set Lookup :=
  {lookup | ∃ e ∈ history, lookupOf e = some lookup}

/-- What is taken for granted of the lookups of a run. -/
structure Assumed (platform : Platform) (lookups : Set Lookup) : Prop where
  /-- Login ids have a fixed length, and a chain names its caller by one of them. -/
  length : ∃ n, ∀ lookup ∈ lookups, lookup.login.length = n
  caller : ∀ lookup ∈ lookups, lookup.joinedChain.isSome → lookup.chain.caller.id ≠ []
  collisionFree : Set.InjOn platform.sha256 (Lookup.buffer platform '' lookups)
  /-- Different signed chains have different signatures. -/
  signatures : ∀ a ∈ lookups, ∀ b ∈ lookups, ∀ protocol s s',
    a.joinedChain = some (protocol, s) → b.joinedChain = some (protocol, s') →
    s.signature = s'.signature → s = s'

theorem Assumed.mono {lookups fewer : Set Lookup} (assumed : Assumed platform lookups)
    (subset : fewer ⊆ lookups) : Assumed platform fewer where
  length := assumed.length.imp fun _ equal lookup mem => equal lookup (subset mem)
  caller lookup mem := assumed.caller lookup (subset mem)
  collisionFree := assumed.collisionFree.mono (Set.image_mono subset)
  signatures a memA b memB := assumed.signatures a (subset memA) b (subset memB)

/-- Equal keys come from equal buffers, hence from equal parts. -/
theorem Assumed.parts_of_key {lookups : Set Lookup} (assumed : Assumed platform lookups)
    {a b : Lookup} (memA : a ∈ lookups) (memB : b ∈ lookups)
    (keys : a.key platform = b.key platform) :
    a.login = b.login ∧ a.session.remoteId = b.session.remoteId ∧
      keySignature platform a.protocol a.chain = keySignature platform b.protocol b.chain := by
  obtain ⟨n, length⟩ := assumed.length
  have buffers := assumed.collisionFree ⟨a, memA, rfl⟩ ⟨b, memB, rfl⟩ keys
  exact chainKeyBuffer_injective ((length a memA).trans (length b memB).symm) buffers

/-- The chain which `get_joined_chain` makes of the slot keeps what the bus has signed. -/
theorem Lookup.Asked.signed_eq {lookup : Lookup} (asked : lookup.Asked platform)
    {protocol : Protocol} {s : SignedData} (joined : lookup.joinedChain = some (protocol, s)) :
    lookup.chain.signed protocol = s := by
  obtain ⟨orb, slot, chained⟩ := asked.chained
  unfold getJoinedChain at chained
  rw [slot] at chained
  unfold Lookup.joinedChain at joined
  split at joined
  · next current =>
    cases joined
    rw [if_pos (by simpa using current)] at chained
    obtain ⟨decoded, -, same⟩ := map_eq_ok_iff.mp chained
    rw [← same]
    rfl
  · next absent =>
    split at joined
    · next legacy =>
      cases joined
      rw [if_neg (by simpa using absent), if_pos (by simpa using legacy)] at chained
      obtain ⟨decoded, -, same⟩ := map_eq_ok_iff.mp chained
      rw [← same]
      rfl
    · cases joined

theorem not_equal_none {chain : CallerChain} (named : chain.caller.id ≠ []) :
    chain.equal (.none platform) = false := by
  have : chain.caller.equal default = false := by
    exact beq_eq_false_iff_ne.mpr named
  simp [CallerChain.equal, CallerChain.none, this]

/-- Lookups that hash the same signature have the same chain joined, if their signatures tell. -/
theorem joinedChain_eq {lookups : Set Lookup} (assumed : Assumed platform lookups)
    {signing lookup : Lookup} (memSigning : signing ∈ lookups) (mem : lookup ∈ lookups)
    (askedSigning : signing.Asked platform) (asked : lookup.Asked platform)
    (version : signing.protocol = lookup.protocol) {under : Identifier}
    (compatible : Compatible signing under lookup)
    (same : keySignature platform signing.protocol signing.chain =
      keySignature platform lookup.protocol lookup.chain) :
    signing.joinedChain = lookup.joinedChain := by
  by_cases both : signing.Signed ∧ lookup.Signed
  · obtain ⟨⟨s, joinedSigning⟩, s', joined⟩ := both
    have caller := assumed.caller signing memSigning (by rw [joinedSigning]; rfl)
    have caller' := assumed.caller lookup mem (by rw [joined]; rfl)
    rw [keySignature, keySignature, not_equal_none caller, not_equal_none caller',
      askedSigning.signed_eq joinedSigning, asked.signed_eq joined] at same
    rw [version] at joinedSigning
    have equal := assumed.signatures signing memSigning lookup mem _ s s' joinedSigning joined
      (Vector.toList_inj.mp same)
    rw [joinedSigning, joined, equal]
  · exact compatible.joined both

theorem of_lastSigned {protocol : Protocol} {key : HashValue} {history : List ChainEvent}
    {signing : Lookup} {under : Identifier} {chain : SignedData}
    (last : lastSigned platform protocol key history = some (signing, under, chain)) :
    .signed signing under chain ∈ history ∧ signing.protocol = protocol ∧
      signing.key platform = key := by
  induction history with
  | nil => cases last
  | cons e past ih =>
    cases e with
    | signed other login signed =>
      rw [lastSigned] at last
      split at last
      · next same =>
        cases last
        exact ⟨List.mem_cons_self, same⟩
      · exact (ih last).imp_left (List.mem_cons_of_mem _)
    | cleared => cases last
    | _ => exact (ih last).imp_left (List.mem_cons_of_mem _)

/-- Every cached chain comes from the last signing of its key. -/
def Origins (platform : Platform) (history : List ChainEvent) (orb : Orb) : Prop :=
  ∀ protocol key chain, (orb.chainCache protocol).find key = some chain →
    ∃ signing under, lastSigned platform protocol key history = some (signing, under, chain) ∧
      signing.Asked platform

theorem Origins.of_find {history : List ChainEvent} {orb t : Orb} {e : ChainEvent}
    (origins : Origins platform history orb)
    (same : ∀ protocol key, lastSigned platform protocol key (e :: history) =
      lastSigned platform protocol key history)
    (subset : ∀ protocol key chain, (t.chainCache protocol).find key = some chain →
      (orb.chainCache protocol).find key = some chain) : Origins platform (e :: history) t := by
  intro protocol key chain found
  rw [same]
  exact origins protocol key chain (subset _ _ _ found)

theorem find_searched {orb : Orb} {protocol other : Protocol} {key key' : HashValue} :
    ((searched protocol key orb).chainCache other).find key' =
      (orb.chainCache other).find key' := by
  by_cases same : other = protocol
  · subst same
    rw [searched, chainCache_setChainCache, LRUCache.find_fetch]
  · rw [searched, chainCache_setChainCache_ne _ _ same]

theorem origins {history : List ChainEvent} {orb : Orb}
    (run : Run (chainMachine platform) history orb) : Origins platform history orb := by
  apply run.invariant (Origins platform)
  · intro orb init protocol key chain found
    rw [show orb.chainCache protocol = .ofSize 128 from init protocol, LRUCache.find_ofSize] at found
    cases found
  · rintro past before e t - origins step
    cases step with
    | served =>
      exact origins.of_find (fun _ _ => rfl) fun _ _ _ found => find_searched.symm.trans found
    | missed =>
      exact origins.of_find (fun _ _ => rfl) fun _ _ _ found => find_searched.symm.trans found
    | @signed lookup under chain asked =>
      intro protocol key found present
      rw [lastSigned]
      split
      · next same =>
        obtain ⟨rfl, rfl⟩ := same
        rw [stored, chainCache_setChainCache] at present
        rcases LRUCache.find_insert_cases present with ⟨-, rfl⟩ | ⟨differ, -⟩
        · exact ⟨lookup, under, rfl, asked⟩
        · exact absurd rfl differ
      · next differ =>
        apply origins protocol key found
        by_cases same : protocol = lookup.protocol
        · subst same
          rw [stored, chainCache_setChainCache] at present
          exact LRUCache.find_of_find_insert_ne (fun key => differ ⟨rfl, key.symm⟩) present
        · rwa [stored, chainCache_setChainCache_ne _ _ same] at present
    | cleared =>
      intro protocol key chain found
      have cleared : before.clearCaches.chainCache protocol = (before.chainCache protocol).clear := by
        cases protocol <;> rfl
      rw [cleared, LRUCache.find_clear] at found
      cases found
    | other same =>
      exact origins.of_find (fun _ _ => rfl) fun protocol _ _ found => same protocol ▸ found

theorem served_of_notConfused {history : List ChainEvent} {orb : Orb}
    (run : Run (chainMachine platform) history orb)
    (distinct : Always (NotConfused platform) history)
    (assumed : Assumed platform (lookupsOf history)) :
    Always ServedSoundly history := by
  refine run.invariant_of_always
    (fun history _ => Assumed platform (lookupsOf history) → Always ServedSoundly history) ?_ ?_
    distinct assumed
  · intro orb _ _
    trivial
  · intro past orb e t run ih guard step assumed
    refine ⟨?_, ih (assumed.mono ?_)⟩
    · cases step with
      | @served lookup chain asked found =>
        obtain ⟨signing, under, last, askedSigning⟩ := origins run _ _ _ found
        obtain ⟨signed, version, keys⟩ := of_lastSigned last
        have memSigning : signing ∈ lookupsOf (.served lookup chain :: past) :=
          ⟨_, List.mem_cons_of_mem _ signed, rfl⟩
        have mem : lookup ∈ lookupsOf (.served lookup chain :: past) :=
          ⟨_, List.mem_cons_self, rfl⟩
        obtain ⟨logins, remotes, signatures⟩ := assumed.parts_of_key memSigning mem keys
        have compatible := guard signing under chain last
        have joined := joinedChain_eq assumed memSigning mem askedSigning asked version compatible
          signatures
        refine ⟨signing, ?_, version, joined, ?_⟩
        · rw [← logins, ← compatible.login]
          exact signed
        · rw [Lookup.target, Lookup.target, version]
          rcases used : lookup.protocol
          · exact compatible.entity used
          · exact remotes
      | _ => trivial
    · rintro lookup ⟨e', mem, found⟩
      exact ⟨e', List.mem_cons_of_mem _ mem, found⟩

/-- Signed chains tell what they were signed for. -/
def Telling (history : List ChainEvent) : Prop :=
  ∀ a under b under' chain, .signed a under chain ∈ history → .signed b under' chain ∈ history →
    under = under' ∧ a.joinedChain = b.joinedChain ∧ a.target = b.target

theorem notConfused_of_served {history : List ChainEvent} {orb : Orb}
    (run : Run (chainMachine platform) history orb)
    (assumed : Assumed platform (lookupsOf history)) (telling : Telling history)
    (sound : Always ServedSoundly history) : Always (NotConfused platform) history := by
  refine run.invariant (fun history _ => Assumed platform (lookupsOf history) → Telling history →
    Always ServedSoundly history → Always (NotConfused platform) history) (fun _ _ _ _ _ => trivial)
    ?_ assumed telling sound
  rintro past orb e t run ih step assumed telling ⟨sound, earlier⟩
  refine ⟨?_, ih (assumed.mono ?_) ?_ earlier⟩
  · cases step with
    | @served lookup chain asked found =>
      intro signing under chain' last
      obtain ⟨_, _, same, -⟩ := origins run _ _ _ found
      rw [last] at same
      cases same
      obtain ⟨signed, version, keys⟩ := of_lastSigned last
      obtain ⟨other, otherSigned, -, joined, target⟩ := sound
      obtain ⟨logins, joins, targets⟩ := telling _ _ _ _ _ (List.mem_cons_of_mem _ signed)
        (List.mem_cons_of_mem _ otherSigned)
      have memSigning : signing ∈ lookupsOf (.served lookup chain :: past) :=
        ⟨_, List.mem_cons_of_mem _ signed, rfl⟩
      have mem : lookup ∈ lookupsOf (.served lookup chain :: past) := ⟨_, List.mem_cons_self, rfl⟩
      obtain ⟨same, -, -⟩ := assumed.parts_of_key memSigning mem keys
      refine ⟨logins.trans same.symm, fun current => ?_, fun _ => joins.trans joined⟩
      have argument := targets.trans target
      rwa [Lookup.target, Lookup.target, version, current] at argument
    | _ => trivial
  · rintro lookup ⟨e', mem, found⟩
    exact ⟨e', List.mem_cons_of_mem _ mem, found⟩
  · exact fun a under b under' chain memA memB =>
      telling a under b under' chain (List.mem_cons_of_mem _ memA) (List.mem_cons_of_mem _ memB)

/-- Chains are served soundly in every run in which no lookup is confused with the last signing
of its key, and in no other run if a signed chain tells what it was signed for. -/
theorem served_soundly {history : List ChainEvent} {orb : Orb}
    (run : Run (chainMachine platform) history orb)
    (assumed : Assumed platform (lookupsOf history)) :
    (Always (NotConfused platform) history → Always ServedSoundly history) ∧
      (Telling history → Always ServedSoundly history → Always (NotConfused platform) history) :=
  ⟨fun distinct => served_of_notConfused run distinct assumed, notConfused_of_served run assumed⟩

namespace Reference

/-- A bus whose signed chains show what they were signed for. -/
def signer : ClientWorld :=
  { environment with signChainFor := fun _ _ target => pure ⟨.replicate 256 1, target⟩ }

/-- A session with the login `s`, which an answer attributes to some entity. -/
def sessionOf (entity : Identifier) : SecretSession :=
  ⟨1, ascii "s", entity, .replicate 16 4, 0, false⟩

def resetOf (entity : Identifier) : ServiceContexts :=
  Function.update (fun _ => none) Protocol.current.credentialContextId
    (some (referencePlatform.encodeValue (.credentialReset
      ⟨ascii "s", entity, 1, ReferencePlatform.pad 256 (sessionOf entity).secret.toList⟩)))

/-- A request that is sent once the answer to an earlier one has been processed. -/
def sentAfter (entity : Identifier) (orb : Orb) : Invocation :=
  (sendRequest referencePlatform signer call
    ⟨(installSession referencePlatform call 0 (resetOf entity) orb).2, fun _ => none⟩).2

/-- The lookup of such a request. -/
def lookup (entity : Identifier) : Lookup :=
  ⟨.current, 0, ascii "c", .empty, .none referencePlatform, sessionOf entity⟩

theorem asked_lookup (entity : Identifier) : (lookup entity).Asked referencePlatform where
  chained := ⟨start, rfl, rfl⟩
  version := rfl

def signedFor (entity : Identifier) : SignedData := ⟨.replicate 256 1, entity⟩

/-- A chain is signed for the entity `S`, and the next request asks for one to another entity. -/
def history (entity : Identifier) : List ChainEvent :=
  [.served (lookup entity) (signedFor (ascii "S")),
    .signed (lookup (ascii "S")) (ascii "c") (signedFor (ascii "S"))]

theorem run_history (entity : Identifier) :
    ∃ orb, Run (chainMachine referencePlatform) (history entity) orb := by
  have init : Run (chainMachine referencePlatform) [] start :=
    .start fun protocol => by cases protocol <;> rfl
  have signed := init.step (ChainStep.signed (ascii "c") (signedFor (ascii "S"))
    (asked_lookup (ascii "S")))
  refine ⟨_, signed.step (.served (asked_lookup entity) ?_)⟩
  change ((stored .current _ _ start).chainCache .current).find _ = _
  rw [stored, chainCache_setChainCache]
  exact (LRUCache.find_insert_self _ _ _).trans (if_pos (by decide))

theorem assumed_history (entity : Identifier) :
    Assumed referencePlatform (lookupsOf (history entity)) := by
  have only : ∀ l ∈ lookupsOf (history entity), ∃ e, l = lookup e := by
    rintro l ⟨e, mem, found⟩
    simp only [history, List.mem_cons, List.not_mem_nil, or_false] at mem
    rcases mem with rfl | rfl <;> cases found <;> exact ⟨_, rfl⟩
  have alone (e : Identifier) : (lookup e).joinedChain = none := rfl
  refine ⟨⟨1, fun l mem => ?_⟩, fun l mem joined => ?_, ?_, fun a mem => ?_⟩
  · obtain ⟨e, rfl⟩ := only l mem
    rfl
  · obtain ⟨e, rfl⟩ := only l mem
    cases joined
  · rintro _ ⟨a, memA, rfl⟩ _ ⟨b, memB, rfl⟩ -
    obtain ⟨e, rfl⟩ := only a memA
    obtain ⟨e', rfl⟩ := only b memB
    rfl
  · obtain ⟨e, rfl⟩ := only a mem
    intro b memB protocol s s' joined
    cases joined

end Reference

open Reference in
theorem served_soundly_history : Always ServedSoundly (history (ascii "S")) := by
  obtain ⟨orb, run⟩ := run_history (ascii "S")
  refine (served_soundly run (assumed_history _)).1 ⟨?_, trivial, trivial⟩
  intro signing under chain last
  have same : lastSigned referencePlatform .current ((lookup (ascii "S")).key referencePlatform)
      [.signed (lookup (ascii "S")) (ascii "c") (signedFor (ascii "S"))] =
      some (lookup (ascii "S"), ascii "c", signedFor (ascii "S")) := if_pos ⟨rfl, rfl⟩
  cases same.symm.trans last
  exact ⟨rfl, fun _ => rfl, fun _ => rfl⟩

open Reference in
/-- Two answers that attribute one remote login to different entities make the chain signed for
the first of them go out with a call to the second. -/
theorem chain_served_for_other_entity :
    (∃ orb, Run (chainMachine referencePlatform) (history (ascii "T")) orb) ∧
    Assumed referencePlatform (lookupsOf (history (ascii "T"))) ∧
    ¬ Always ServedSoundly (history (ascii "T")) ∧
    (sentAfter (ascii "T") (sentAfter (ascii "S") first).orb).contexts
        Protocol.current.credentialContextId =
      some (referencePlatform.encodeValue (.credentialData .current
        ⟨ascii "B", ascii "c", 1, 1,
          hash referencePlatform .current (ascii "op") 1 (.replicate 16 4),
          signedFor (ascii "S")⟩)) := by
  refine ⟨run_history _, assumed_history _, ?_, by decide +kernel⟩
  rintro ⟨⟨signing, mem, -, -, target⟩, -⟩
  simp only [List.mem_cons, List.not_mem_nil, or_false, ChainEvent.signed.injEq] at mem
  obtain ⟨rfl, -, -⟩ := mem
  revert target
  decide +kernel

end ClientInterceptor

end OpenBus
