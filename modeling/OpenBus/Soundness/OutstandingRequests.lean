import OpenBus.Model.Requests
import OpenBus.Soundness.Handshake

/-! # What is remembered of the requests

A connection is remembered for a request as long as an answer can come. So an exception is always
handled for the connection through which its request has been sent. A request that ends without an
answer keeps its connection for ever.
-/

namespace OpenBus

open Machine ClientInterceptor

namespace Requests

/-- The identifiers drawn. -/
def sentId : RequestEvent → Option Uuid
  | .sent _ id _ => some id
  | _ => none

/-- The requests that have ended without an answer. -/
def passedRequest : RequestEvent → Option (Uuid × ConnRef)
  | .passed _ id ref => some (id, ref)
  | _ => none

/-- A connection is remembered exactly for the requests that are awaited, and for those that have
ended without an answer. -/
structure Accounted (history : List RequestEvent) (s : Requests) : Prop where
  remembered : ∀ id ref, s.contexts.orb.requestId2conn id = some ref ↔
    (∃ context, s.awaited context = some (id, ref)) ∨ (id, ref) ∈ history.filterMap passedRequest
  slot : ∀ context id ref, s.awaited context = some (id, ref) →
    s.contexts.slots context .requestId = .uuid id ∧ id ≠ .replicate 16 0
  apart : ∀ context other id ref ref', s.awaited context = some (id, ref) →
    s.awaited other = some (id, ref') → context = other
  unanswered : ∀ context id ref ref', s.awaited context = some (id, ref) →
    (id, ref') ∉ history.filterMap passedRequest
  drawn : ∀ id ref, s.contexts.orb.requestId2conn id = some ref → id ∈ history.filterMap sentId

open Handshake (forgotten receiveException_of_saved)

/-- A reply is forgotten as an exception is. -/
theorem receiveReply_snd {orb : Orb} {id : Uuid} (attends : ignoreRequest orb = false)
    (slot : orb.piCurrent .requestId = .uuid id) (drawn : id ≠ .replicate 16 0) :
    (receiveReply orb).2 = forgotten id orb := by
  simp only [receiveReply, Action.bind_apply, Action.get_apply, attends, Bool.false_eq_true,
    if_false, slot, Any.toUuid?, drawn]
  rfl

theorem awaited_turn (s : Requests) (context other : ℕ) (orb : Orb)
    (request : Option (Uuid × ConnRef)) : (s.turn context orb request).awaited other =
      if other = context then request else s.awaited other := Function.update_apply ..

theorem slots_turn_ne (s : Requests) {context other : ℕ} (differ : other ≠ context) (orb : Orb)
    (request : Option (Uuid × ConnRef)) :
    (s.turn context orb request).contexts.slots other = s.contexts.slots other :=
  Function.update_of_ne differ ..

namespace Accounted

variable {past : List RequestEvent} {s : Requests}

theorem sent (accounted : Accounted past s) {context : ℕ} {id : Uuid} {ref : ConnRef}
    {orb : Orb} (free : s.awaited context = none) (drawn : id ≠ .replicate 16 0)
    (fresh : id ∉ past.filterMap sentId)
    (saved : orb.requestId2conn = Function.update s.contexts.orb.requestId2conn id (some ref))
    (slot : orb.piCurrent .requestId = .uuid id) :
    Accounted (.sent context id ref :: past) (s.turn context orb (some (id, ref))) := by
  have unknown : s.contexts.orb.requestId2conn id = none := by
    by_contra present
    obtain ⟨other, found⟩ := Option.ne_none_iff_exists'.mp present
    exact fresh (accounted.drawn id other found)
  have unawaited (other : ℕ) (ref' : ConnRef) : s.awaited other ≠ some (id, ref') := fun waits =>
    nomatch unknown.symm.trans ((accounted.remembered id ref').mpr (.inl ⟨other, waits⟩))
  have answered (ref' : ConnRef) : (id, ref') ∉ past.filterMap passedRequest := fun passed =>
    nomatch unknown.symm.trans ((accounted.remembered id ref').mpr (.inr passed))
  have passed : (RequestEvent.sent context id ref :: past).filterMap passedRequest =
      past.filterMap passedRequest := rfl
  have known : (RequestEvent.sent context id ref :: past).filterMap sentId =
      id :: past.filterMap sentId := rfl
  refine ⟨fun id' ref' => ?_, fun other id' ref' waits => ?_, fun a b id' r r' first second => ?_,
    fun other id' r r' waits => ?_, fun id' ref' found => ?_⟩
  · change orb.requestId2conn id' = some ref' ↔ _
    rw [saved, passed]
    by_cases same : id' = id
    · subst same
      rw [Function.update_self]
      refine ⟨fun found => ?_, fun found => ?_⟩
      · cases found
        exact .inl ⟨context, (awaited_turn ..).trans (if_pos rfl)⟩
      · obtain ⟨other, waits⟩ | old := found
        · rw [awaited_turn] at waits
          split at waits
          · cases waits
            rfl
          · exact absurd waits (unawaited other ref')
        · exact absurd old (answered ref')
    · rw [Function.update_of_ne same, accounted.remembered]
      refine or_congr_left ⟨fun ⟨other, waits⟩ => ⟨other, ?_⟩, fun ⟨other, waits⟩ => ⟨other, ?_⟩⟩
      · rw [awaited_turn, if_neg, waits]
        intro here
        rw [here, free] at waits
        cases waits
      · rw [awaited_turn] at waits
        split at waits
        · cases waits
          exact absurd rfl same
        · exact waits
  · rw [awaited_turn] at waits
    split at waits
    · next here =>
      cases waits
      exact ⟨here ▸ (congrFun (Function.update_self ..) _).trans slot, drawn⟩
    · next differ =>
      rw [slots_turn_ne s differ]
      exact accounted.slot other id' ref' waits
  · rw [awaited_turn] at first second
    split at first <;> split at second
    · next one two => exact one.trans two.symm
    · cases first
      exact absurd second (unawaited _ _)
    · cases second
      exact absurd first (unawaited _ _)
    · exact accounted.apart a b id' r r' first second
  · rw [passed]
    rw [awaited_turn] at waits
    split at waits
    · cases waits
      exact answered r'
    · exact accounted.unanswered other id' r r' waits
  · change orb.requestId2conn id' = some ref' at found
    rw [saved] at found
    rw [known]
    by_cases same : id' = id
    · exact same ▸ List.mem_cons_self
    · rw [Function.update_of_ne same] at found
      exact List.mem_cons_of_mem _ (accounted.drawn id' ref' found)

/-- A request is answered: its connection is forgotten. -/
theorem answered (accounted : Accounted past s) {context : ℕ} {id : Uuid} {ref : ConnRef}
    {e : RequestEvent} {orb : Orb} (waits : s.awaited context = some (id, ref))
    (quiet : sentId e = none ∧ passedRequest e = none)
    (forgets : orb.requestId2conn = Function.update s.contexts.orb.requestId2conn id none) :
    Accounted (e :: past) (s.turn context orb none) := by
  have passed : (e :: past).filterMap passedRequest = past.filterMap passedRequest :=
    List.filterMap_cons_none quiet.2
  have known : (e :: past).filterMap sentId = past.filterMap sentId :=
    List.filterMap_cons_none quiet.1
  have still {other : ℕ} {request : Uuid × ConnRef}
      (waits' : (s.turn context orb none).awaited other = some request) :
      other ≠ context ∧ s.awaited other = some request := by
    rw [awaited_turn] at waits'
    split at waits'
    · cases waits'
    · next differ => exact ⟨differ, waits'⟩
  have kept {id' : Uuid} {ref' : ConnRef} (found : orb.requestId2conn id' = some ref') :
      id' ≠ id ∧ s.contexts.orb.requestId2conn id' = some ref' := by
    rw [forgets] at found
    by_cases same : id' = id
    · rw [same, Function.update_self] at found
      cases found
    · rw [Function.update_of_ne same] at found
      exact ⟨same, found⟩
  refine ⟨fun id' ref' => ⟨fun found => ?_, fun found => ?_⟩, fun other id' ref' waits' => ?_,
    fun a b id' r r' first second => ?_, fun other id' r r' waits' => ?_, fun id' ref' found => ?_⟩
  · obtain ⟨differ, old⟩ := kept found
    rw [passed]
    refine ((accounted.remembered id' ref').mp old).imp_left fun ⟨other, waits'⟩ => ⟨other, ?_⟩
    rw [awaited_turn, if_neg, waits']
    intro here
    rw [here, waits] at waits'
    cases waits'
    exact differ rfl
  · rw [passed] at found
    have differ : id' ≠ id := by
      intro same
      subst same
      cases found with
      | inl awaited =>
        obtain ⟨other, waits'⟩ := awaited
        exact (still waits').1 (accounted.apart _ _ _ _ _ (still waits').2 waits)
      | inr old => exact accounted.unanswered _ _ _ _ waits old
    change orb.requestId2conn id' = some ref'
    rw [forgets, Function.update_of_ne differ, accounted.remembered]
    exact found.imp_left fun ⟨other, waits'⟩ => ⟨other, (still waits').2⟩
  · rw [slots_turn_ne s (still waits').1]
    exact accounted.slot _ _ _ (still waits').2
  · exact accounted.apart _ _ _ _ _ (still first).2 (still second).2
  · rw [passed]
    exact accounted.unanswered _ _ _ _ (still waits').2
  · rw [known]
    exact accounted.drawn _ _ (kept found).2

/-- A request ends without an answer: its connection stays. -/
theorem passed (accounted : Accounted past s) {context : ℕ} {id : Uuid} {ref : ConnRef}
    (waits : s.awaited context = some (id, ref)) :
    Accounted (.passed context id ref :: past)
      (s.turn context (receiveOther (s.contexts.view context)).2 none) := by
  have ended : (RequestEvent.passed context id ref :: past).filterMap passedRequest =
      (id, ref) :: past.filterMap passedRequest := rfl
  have known : (RequestEvent.passed context id ref :: past).filterMap sentId =
      past.filterMap sentId := rfl
  have still {other : ℕ} {request : Uuid × ConnRef}
      (waits' : (s.turn context (receiveOther (s.contexts.view context)).2 none).awaited other =
        some request) : other ≠ context ∧ s.awaited other = some request := by
    rw [awaited_turn] at waits'
    split at waits'
    · cases waits'
    · next differ => exact ⟨differ, waits'⟩
  refine ⟨fun id' ref' => ?_, fun other id' ref' waits' => ?_,
    fun a b id' r r' first second => ?_, fun other id' r r' waits' => ?_, fun id' ref' found => ?_⟩
  · refine (accounted.remembered id' ref').trans ?_
    rw [ended, List.mem_cons]
    refine ⟨fun found => ?_, fun found => ?_⟩
    · cases found with
      | inl awaited =>
        obtain ⟨other, waits'⟩ := awaited
        by_cases here : other = context
        · rw [here, waits] at waits'
          cases waits'
          exact .inr (.inl rfl)
        · exact .inl ⟨other, by rw [awaited_turn, if_neg here, waits']⟩
      | inr old => exact .inr (.inr old)
    · obtain ⟨other, waits'⟩ | new | old := found
      · exact .inl ⟨other, (still waits').2⟩
      · cases new
        exact .inl ⟨context, waits⟩
      · exact .inr old
  · rw [slots_turn_ne s (still waits').1]
    exact accounted.slot _ _ _ (still waits').2
  · exact accounted.apart _ _ _ _ _ (still first).2 (still second).2
  · rw [ended, List.mem_cons, not_or]
    refine ⟨fun new => ?_, accounted.unanswered _ _ _ _ (still waits').2⟩
    cases new
    exact (still waits').1 (accounted.apart _ _ _ _ _ (still waits').2 waits)
  · rw [known]
    exact accounted.drawn id' ref' found

theorem other (accounted : Accounted past s) {t : Contexts}
    (same : t.orb.requestId2conn = s.contexts.orb.requestId2conn)
    (kept : ∀ context, (s.awaited context).isSome →
      t.slots context .requestId = s.contexts.slots context .requestId) :
    Accounted (.other :: past) { s with contexts := t } where
  remembered id ref := same ▸ accounted.remembered id ref
  slot context id ref waits := by
    rw [kept context (by rw [waits]; rfl)]
    exact accounted.slot context id ref waits
  apart := accounted.apart
  unanswered := accounted.unanswered
  drawn id ref found := accounted.drawn id ref (same ▸ found)

end Accounted

variable {history : List RequestEvent} {s : Requests}

theorem accounted_run (run : Run requestMachine history s)
    (distinct : (history.filterMap sentId).Nodup) : Accounted history s := by
  induction run with
  | start init =>
    have idle (context : ℕ) (request : Uuid × ConnRef) :
        _ ≠ some request := fun waits => nomatch (init.2 context).symm.trans waits
    refine ⟨fun id ref => ?_, fun _ _ _ waits => absurd waits (idle _ _),
      fun _ _ _ _ _ waits => absurd waits (idle _ _), fun _ _ _ _ waits => absurd waits (idle _ _),
      fun id ref found => nomatch (init.1 id).symm.trans found⟩
    rw [init.1 id]
    refine ⟨nofun, fun found => ?_⟩
    cases found with
    | inl awaited => exact absurd awaited.choose_spec (idle _ _)
    | inr passed => cases passed
  | @step past s t e run step ih =>
    cases step with
    | sent world free drawn =>
      obtain ⟨fresh, distinct⟩ := List.nodup_cons.mp distinct
      refine (ih distinct).sent free drawn fresh rfl ?_
      simp [saveRequestConnection, Orb.setSlot]
    | replied waits attends =>
      obtain ⟨slot, drawn⟩ := (ih distinct).slot _ _ _ waits
      refine (ih distinct).answered waits ⟨rfl, rfl⟩ ?_
      rw [receiveReply_snd attends slot drawn]
      rfl
    | failed waits attends => exact (ih distinct).answered waits ⟨rfl, rfl⟩ rfl
    | passed waits => exact (ih distinct).passed waits
    | other same kept => exact (ih distinct).other same kept

/-- What a context waits for has been sent in it. -/
theorem sent_of_awaited (run : Run requestMachine history s) :
    ∀ context id ref, s.awaited context = some (id, ref) →
      RequestEvent.sent context id ref ∈ history := by
  refine run.invariant (fun history s => ∀ context id ref, s.awaited context = some (id, ref) →
    RequestEvent.sent context id ref ∈ history) (fun s init context id ref waits => ?_)
    fun past s e t _ ih step context id ref waits => ?_
  · rw [init.2] at waits
    cases waits
  · cases step with
    | sent world free drawn =>
      rw [awaited_turn] at waits
      split at waits
      · next here =>
        cases waits
        exact here ▸ List.mem_cons_self
      · exact List.mem_cons_of_mem _ (ih _ _ _ waits)
    | other same kept => exact List.mem_cons_of_mem _ (ih _ _ _ waits)
    | _ =>
      rw [awaited_turn] at waits
      split at waits
      · cases waits
      · exact List.mem_cons_of_mem _ (ih _ _ _ waits)

/-- The connections remembered are those of the requests which are awaited, and of those that have
ended without an answer. -/
theorem remembers_iff (run : Run requestMachine history s)
    (distinct : (history.filterMap sentId).Nodup) (id : Uuid) (ref : ConnRef) :
    s.contexts.orb.requestId2conn id = some ref ↔
      (∃ context, s.awaited context = some (id, ref)) ∨
        ∃ context, RequestEvent.passed context id ref ∈ history := by
  rw [(accounted_run run distinct).remembered]
  refine or_congr_right (List.mem_filterMap.trans ⟨fun ⟨e, ran, passed⟩ => ?_,
    fun ⟨context, ran⟩ => ⟨_, ran, rfl⟩⟩)
  cases e with
  | passed context id' ref' =>
    cases passed
    exact ⟨context, ran⟩
  | _ => cases passed

/-- The reaction to an exception, once the connection of its request is known. -/
def reaction (platform : Platform) (world : ClientWorld) (request : ClientRequest) (ref : ConnRef)
    (reply : ExceptionReply) : Action Orb Exception Unit :=
  if reply.completed ≠ .completedNo then pure ()
  else if reply.minor = invalidCredentialCode then
    installSession platform request ref reply.contexts
  else if reply.minor = invalidLoginCode then checkLogin world ref
  else if reply.minor = noLoginCode ∨ reply.minor = unavailableBusCode ∨
      reply.minor = invalidTargetCode ∨ reply.minor = invalidRemoteCode then
    throw (.noPermission invalidRemoteCode)
  else throw reply.exception

/-- Whatever has happened meanwhile, an exception is handled for the connection through which its
request has been sent. -/
theorem receiveException_awaited (run : Run requestMachine history s)
    (distinct : (history.filterMap sentId).Nodup) {context : ℕ} {id : Uuid} {ref : ConnRef}
    (waits : s.awaited context = some (id, ref))
    (attends : ignoreRequest (s.contexts.view context) = false) (platform : Platform)
    (world : ClientWorld) (request : ClientRequest) (reply : ExceptionReply) :
    RequestEvent.sent context id ref ∈ history ∧
      receiveException platform world request reply (s.contexts.view context) =
        reaction platform world request ref reply (forgotten id (s.contexts.view context)) := by
  have accounted := accounted_run run distinct
  obtain ⟨slot, drawn⟩ := accounted.slot context id ref waits
  have saved : ((s.contexts.view context).piCurrent .requestId).toUuid? = some id := by
    change (s.contexts.slots context .requestId).toUuid? = _
    rw [slot]
    rfl
  have found : (s.contexts.view context).requestId2conn id = some ref :=
    (accounted.remembered id ref).mpr (.inl ⟨context, waits⟩)
  exact ⟨sent_of_awaited run context id ref waits,
    receiveException_of_saved attends saved drawn found⟩

/-- An ORB before the first request. -/
def idle : Requests where
  contexts := ⟨.init (fun _ => .init ⟨[2]⟩ true) fun _ => true, fun _ _ => .empty, {0, 1}⟩
  awaited _ := none

/-- A world whose next identifier repeats an octet. -/
def drawing (octet : Octet) : ClientWorld where
  signChainFor _ _ _ := throw .invalidLogins
  getLoginValidity _ _ := pure 0
  onInvalidLogin _ _ _ := pure ()
  attempts := 0
  requestId := .replicate 16 octet

/-- Two contexts send a request each, through a connection of its own. -/
def sending : Requests :=
  let first := idle.turn 0 (saveRequestConnection (drawing 3) 5 (idle.contexts.view 0))
    (some (.replicate 16 3, 5))
  first.turn 1 (saveRequestConnection (drawing 4) 6 (first.contexts.view 1))
    (some (.replicate 16 4, 6))

theorem run_sending :
    Run requestMachine [.sent 1 (.replicate 16 4) 6, .sent 0 (.replicate 16 3) 5] sending := by
  have start : Run requestMachine [] idle := .start ⟨fun _ => rfl, fun _ => rfl⟩
  refine (start.step (.sent (drawing 3) rfl ?_)).step (.sent (drawing 4) rfl ?_)
  · decide
  · decide

/-- The second request ends without an answer: its connection stays beside that of the first. -/
theorem remembers_iff_passed :
    let left := sending.turn 1 (receiveOther (sending.contexts.view 1)).2 none
    left.awaited 1 = none ∧
      (left.contexts.orb.requestId2conn (.replicate 16 4) = some 6 ↔
        (∃ context, left.awaited context = some (.replicate 16 4, 6)) ∨
          ∃ context, RequestEvent.passed context (.replicate 16 4) 6 ∈
            [RequestEvent.passed 1 (.replicate 16 4) 6, .sent 1 (.replicate 16 4) 6,
              .sent 0 (.replicate 16 3) 5]) :=
  ⟨rfl, remembers_iff (run_sending.step (.passed rfl)) (by decide) _ _⟩

/-- While the second request is awaited still, a reset offers the first one a session. -/
theorem receiveException_awaited_other :
    receiveException referencePlatform (drawing 9) ⟨ascii "op", ascii "profile"⟩
        ⟨.noPermission, invalidCredentialCode, .completedNo, fun _ => none⟩
        (sending.contexts.view 0) =
      reaction referencePlatform (drawing 9) ⟨ascii "op", ascii "profile"⟩ 5
        ⟨.noPermission, invalidCredentialCode, .completedNo, fun _ => none⟩
        (forgotten (.replicate 16 3) (sending.contexts.view 0)) :=
  (receiveException_awaited run_sending (by decide) rfl rfl ..).2

end Requests

end OpenBus
