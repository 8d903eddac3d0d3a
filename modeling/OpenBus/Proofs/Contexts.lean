import OpenBus.Model.Contexts
import OpenBus.Proofs.ClientInterceptor
import OpenBus.Proofs.ServerInterceptor

/-! # What a step of a context does to the map of connections

Looking a connection up can add an empty entry for the slot, and dispatching a request adds one and
then sets a current connection. Nothing else touches the map or the slots of the current connections.
-/

namespace OpenBus

open Machine

namespace ClientInterceptor

/-- The map after a request has looked up the entry of its slot. -/
def lookedUp (orb : Orb) : Uuid → Option (Option ConnRef) :=
  match orb.currentId with
  | none => orb.id2conn
  | some id =>
      if orb.id2conn id = none then Function.update orb.id2conn id (some none) else orb.id2conn

theorem getCurrentConnection_snd_eq (orb : Orb) :
    (getCurrentConnection orb).2 = { orb with id2conn := lookedUp orb } := by
  unfold getCurrentConnection lookedUp Orb.currentId
  cases (orb.piCurrent .currentConnection).toUuid? with
  | none =>
    dsimp only
    split <;> rfl
  | some id =>
    rcases entry : orb.id2conn id with _ | pointer <;> dsimp only <;> split <;> simp_all

theorem lookedUp_ne_none {orb : Orb} {id : Uuid} (present : lookedUp orb id ≠ none) :
    orb.id2conn id ≠ none ∨ orb.currentId = some id := by
  cases current : orb.currentId with
  | none =>
    rw [lookedUp, current] at present
    exact .inl present
  | some own =>
    by_cases same : id = own
    · exact .inr (congrArg some same.symm)
    · simp only [lookedUp, current] at present
      split at present
      · rw [Function.update_of_ne same] at present
        exact .inl present
      · exact .inl present

/-- A lookup adds no entry with a connection. -/
theorem lookedUp_eq_some_iff {orb : Orb} {id : Uuid} {ref : ConnRef} :
    lookedUp orb id = some (some ref) ↔ orb.id2conn id = some (some ref) := by
  cases current : orb.currentId with
  | none => rw [lookedUp, current]
  | some own =>
    simp only [lookedUp, current]
    split
    · next absent =>
      by_cases same : id = own
      · subst same
        simp [absent]
      · rw [Function.update_of_ne same]
    · rfl

end ClientInterceptor

namespace Contexts

@[simp] theorem current_leave_self (s : Contexts) (context : ℕ) (orb : Orb) :
    (s.leave context orb).current context = orb.piCurrent .currentConnection := by
  simp [current, leave]

theorem current_leave_of_ne (s : Contexts) {context other : ℕ} (differ : other ≠ context)
    (orb : Orb) : (s.leave context orb).current other = s.current other := by
  simp [current, leave, Function.update_of_ne differ]

/-- A context that keeps the slot of its own connection leaves those of all contexts. -/
theorem current_leave_of_kept (s : Contexts) {context : ℕ} {orb : Orb}
    (kept : orb.piCurrent .currentConnection = s.current context) :
    (s.leave context orb).current = s.current := by
  funext other
  by_cases own : other = context
  · subst own
    rw [current_leave_self, kept]
  · exact current_leave_of_ne s own orb

@[simp] theorem orb_leave (s : Contexts) (context : ℕ) (orb : Orb) :
    (s.leave context orb).orb = orb := rfl

@[simp] theorem inUse_leave (s : Contexts) (context : ℕ) (orb : Orb) :
    (s.leave context orb).inUse = s.inUse := rfl

/-- An operation of a context that does not touch what finding a connection depends on. -/
theorem places_leave (s : Contexts) (context : ℕ) {orb : Orb} (alive : orb.alive = s.orb.alive)
    (default : orb.defConn = s.orb.defConn) (map : orb.id2conn = s.orb.id2conn)
    (slot : orb.piCurrent .currentConnection = s.current context) :
    (s.leave context orb).places = s.places := by
  simp only [places, orb_leave, inUse_leave, alive, default, map, current_leave_of_kept s slot]

theorem toUuid?_eq_some_iff {any : Any} {id : Uuid} : any.toUuid? = some id ↔ any = .uuid id := by
  cases any <;> simp [Any.toUuid?]

theorem currentId_view (s : Contexts) (context : ℕ) {id : Uuid} :
    (s.view context).currentId = some id ↔ s.current context = .uuid id :=
  toUuid?_eq_some_iff

end Contexts

namespace ServerInterceptor

variable {platform : Platform} {world : ServerWorld} {request : ServerRequest}

/-- All that finding a connection depends on, as the thread and the request of a dispatch see it. -/
def connectionPlaces (d : Dispatch) :=
  (d.orb.alive, d.orb.defConn, d.orb.id2conn, d.orb.piCurrent .currentConnection,
    d.slots .currentConnection)

theorem testBlind_connectionPlaces : TestBlind connectionPlaces :=
  ⟨fun _ _ _ => rfl, fun _ _ => rfl, fun _ _ _ => rfl⟩

/-- A callback that leaves the connections of the contexts alone and returns one it holds. -/
structure QuietCallback (world : ServerWorld) : Prop where
  keeps : ∀ callback, world.onCallDispatch = some callback → ∀ bus login operation,
    Action.Keeps connectionPlaces (Dispatch.onOrb (callback bus login operation))
  holds : ∀ callback, world.onCallDispatch = some callback → ∀ bus login operation s ref t,
    callback bus login operation s = (.ok (some ref), t) → t.alive ref = true

/-- The dispatch after the connection of a request has been saved, if one has been. -/
def saving (world : ServerWorld) (saved : Option ConnRef) (d : Dispatch) : Dispatch :=
  saved.elim d fun ref => saveDispatcherConnection world ref d

theorem connectionPlaces_saving {d s : Dispatch} (same : connectionPlaces d = connectionPlaces s)
    (saved : Option ConnRef) :
    connectionPlaces (saving world saved d) = connectionPlaces (saving world saved s) := by
  cases saved with
  | none => exact same
  | some ref =>
    simp only [connectionPlaces, Prod.mk.injEq] at same
    obtain ⟨alive, default, map, thread, slots⟩ := same
    simp only [connectionPlaces, saving, Option.elim_some, saveDispatcherConnection,
      Dispatch.updateOrb, Dispatch.setSlot, Orb.setCurrentConnection_some, Orb.setSlot, Orb.erased,
      Orb.currentId, alive, default, map, thread, Function.update_self]

/-- The connection that a callback chooses is one that it holds. -/
theorem alive_of_callDispatch (quiet : QuietCallback world) {busid login : Identifier}
    {s d : Dispatch} {ref : ConnRef}
    (called : callDispatch world request busid login s = (.ok (some ref), d)) :
    d.orb.alive ref = true := by
  cases registered : world.onCallDispatch with
  | none =>
    simp only [callDispatch, registered] at called
    cases called
  | some callback =>
    simp only [callDispatch, registered, Action.tryCatch_apply] at called
    rcases ran : callback busid login request.operation s.orb with ⟨e | chosen, t⟩
    · have raised : Dispatch.onOrb (callback busid login request.operation) s =
          (.error e, { s with orb := t }) := by
        simp [Dispatch.onOrb, Action.zoom, ran]
      simp only [raised] at called
      split at called <;> cases called
    · have returned : Dispatch.onOrb (callback busid login request.operation) s =
          (.ok chosen, { s with orb := t }) := by
        simp [Dispatch.onOrb, Action.zoom, ran]
      simp only [returned] at called
      cases called
      exact quiet.holds callback registered _ _ _ _ _ _ ran

variable (request) in
/-- The connection of a request is saved, or nothing is changed that its context depends on. -/
theorem getDispatcherConnection_places (quiet : QuietCallback world) (busid login : Identifier)
    (s : Dispatch) :
    ∃ saved : Option ConnRef, (∀ ref, saved = some ref → s.orb.alive ref = true) ∧
      connectionPlaces (getDispatcherConnection world request busid login s).2 =
        connectionPlaces (saving world saved s) := by
  have unsaved : ∀ ref, (none : Option ConnRef) = some ref → s.orb.alive ref = true := by simp
  rcases called : callDispatch world request busid login s with ⟨e | chosen, d⟩
  · have kept : connectionPlaces d = connectionPlaces s :=
      (callDispatch_keeps busid login quiet.keeps).of_run called
    refine ⟨none, unsaved, ?_⟩
    rw [getDispatcherConnection, Action.bind_apply_error called]
    exact kept
  · have kept : connectionPlaces d = connectionPlaces s :=
      (callDispatch_keeps busid login quiet.keeps).of_run called
    rw [getDispatcherConnection, Action.bind_apply_ok called]
    simp only [chooseConnection, Action.bind_apply, Action.get_apply]
    cases found : d.connectionFor chosen with
    | none => exact ⟨none, unsaved, kept⟩
    | some ref =>
      dsimp only
      split
      · exact ⟨none, unsaved, kept⟩
      · refine ⟨some ref, ?_, connectionPlaces_saving kept (some ref)⟩
        rintro _ ⟨⟩
        have alive : d.orb.alive = s.orb.alive := congrArg Prod.fst kept
        rw [← alive]
        cases chosen with
        | none =>
          have default : d.orb.lock d.orb.defConn = some ref := found
          exact (Option.filter_eq_some_iff.mp default).2
        | some chosen =>
          cases found
          exact alive_of_callDispatch quiet called

variable (request) in
/-- Judging a request changes no more for the contexts than its dispatch does. -/
theorem receiveRequestServiceContexts_places (codec : platform.CodecRefuses)
    (quiet : QuietCallback world) (s : Dispatch) :
    ∃ saved : Option ConnRef, (∀ ref, saved = some ref → s.orb.alive ref = true) ∧
      connectionPlaces (receiveRequestServiceContexts platform world request s).2 =
        connectionPlaces (saving world saved s) := by
  rw [receiveRequestServiceContexts_eq codec, receiveCredential_eq]
  cases getCredential platform request (judged request) with
  | error e => exact ⟨none, by simp, rfl⟩
  | ok credential =>
    obtain ⟨saved, held, dispatched⟩ := getDispatcherConnection_places request quiet
      credential.bus credential.login s
    refine ⟨saved, held, ?_⟩
    obtain ⟨u, kept, raised | accepted⟩ := handleCredential_keeps platform world request
      testBlind_connectionPlaces (judged request) credential s
    · obtain ⟨e, raised⟩ := raised
      change connectionPlaces (handleCredential platform world request _ credential s).2 = _
      rw [raised]
      exact kept.trans dispatched
    · change connectionPlaces (handleCredential platform world request _ credential s).2 = _
      rw [accepted]
      exact kept.trans dispatched

end ServerInterceptor

namespace Contexts

open ServerInterceptor (QuietCallback)

/-- What a thread leaves behind that has judged a request. -/
def judged (s : Contexts) (thread request : ℕ) (d : Dispatch) : Contexts where
  orb := d.orb
  slots := Function.update (Function.update s.slots thread d.orb.piCurrent) request d.slots
  inUse := s.inUse

/-- The contexts are found as some state has them that agrees with the dispatch. -/
theorem places_judged {s t : Contexts} {thread request : ℕ} (differ : thread ≠ request)
    {d : Dispatch} (orb : d.orb.alive = t.orb.alive ∧ d.orb.defConn = t.orb.defConn ∧
      d.orb.id2conn = t.orb.id2conn)
    (onThread : d.orb.piCurrent .currentConnection = t.current thread)
    (inRequest : d.slots .currentConnection = t.current request)
    (rest : ∀ context, context ≠ thread → context ≠ request →
      s.current context = t.current context)
    (inUse : s.inUse = t.inUse) : (s.judged thread request d).places = t.places := by
  have slots : (s.judged thread request d).current = t.current := by
    funext context
    by_cases served : context = request
    · subst served
      rw [← inRequest]
      simp [current, judged]
    · by_cases serving : context = thread
      · subst serving
        rw [← onThread]
        simp [current, judged, Function.update_of_ne served]
      · rw [← rest context serving served]
        simp [current, judged, Function.update_of_ne served, Function.update_of_ne serving]
  simp only [places, slots, Prod.mk.injEq, true_and]
  exact ⟨orb.1, orb.2.1, orb.2.2, inUse⟩

/-- To judge a request is to save its connection and to set the one of the thread, or neither. -/
theorem received_runs {history : List ServingEvent} {s : Contexts}
    (run : Run servingMachine history s) {thread request : ℕ} (onThread : thread ∈ s.inUse)
    (arrived : request ∈ s.inUse) (differ : thread ≠ request)
    (clear : s.current request = .empty) {platform : Platform} {world : ServerWorld}
    (codec : platform.CodecRefuses) (quiet : QuietCallback world)
    (unused : s.Unused world.currentId) (apart : world.currentId ≠ world.dispatchId)
    (serverRequest : ServerRequest) (replies : ServiceContexts) :
    ∃ more, Run servingMachine (more ++ history) (s.judged thread request
      (ServerInterceptor.receiveRequestServiceContexts platform world serverRequest
        ⟨s.view thread, s.slots request, replies⟩).2) := by
  obtain ⟨saved, held, found⟩ := ServerInterceptor.receiveRequestServiceContexts_places
    serverRequest codec quiet ⟨s.view thread, s.slots request, replies⟩
  generalize (ServerInterceptor.receiveRequestServiceContexts platform world serverRequest
    ⟨s.view thread, s.slots request, replies⟩).2 = d at found
  simp only [ServerInterceptor.connectionPlaces, Prod.mk.injEq] at found
  obtain ⟨alive, default, map, mine, own⟩ := found
  cases saved with
  | none =>
    have same : (s.judged thread request d).places = s.places :=
      places_judged differ ⟨alive, default, map⟩ mine own (fun _ _ _ => rfl) rfl
    exact ⟨[.context .other], run.step (.context (.other same))⟩
  | some ref =>
    have saved := run.step (.saved ref world.dispatchId arrived clear)
    generalize after : ({ s with
      orb := { s.orb with
        id2conn := Function.update s.orb.id2conn world.dispatchId (some (some ref)) }
      slots := Function.update s.slots request
        (Function.update (s.slots request) .currentConnection (.uuid world.dispatchId)) } :
        Contexts) = u at saved
    have slots (context : ℕ) (other : context ≠ request) : u.slots context = s.slots context := by
      rw [← after]
      exact Function.update_of_ne other ..
    have view : u.view thread = { s.view thread with
        id2conn := Function.update s.orb.id2conn world.dispatchId (some (some ref)) } := by
      rw [view, slots thread differ, ← after]
      rfl
    have still : u.Unused world.currentId := by
      rw [← after]
      refine ⟨(Function.update_of_ne apart ..).trans unused.1, fun context => ?_⟩
      by_cases served : context = request
      · subst served
        simp [current, Ne.symm apart]
      · simp only [current, Function.update_of_ne served]
        exact unused.2 context
    have here : thread ∈ u.inUse := by
      rw [← after]
      exact onThread
    have holds : u.Held (some ref) := by
      rw [← after]
      exact held
    have set := saved.step (.context (.setCurrent (some ref) world.currentId here holds still))
    have same : (s.judged thread request d).places =
        (u.leave thread ((u.view thread).setCurrentConnection world.currentId (some ref))).places := by
      rw [view]
      refine places_judged differ ⟨alive, default, map⟩ ?_ ?_ ?_ ?_
      · rw [current_leave_self]
        exact mine
      · rw [current_leave_of_ne _ (Ne.symm differ), current, ← after]
        exact own.trans (by simp [ServerInterceptor.saving,
          ServerInterceptor.saveDispatcherConnection, Dispatch.updateOrb, Dispatch.setSlot])
      · intro context other served
        rw [current_leave_of_ne _ other, current, current, slots context served]
      · rw [inUse_leave, ← after]
    exact ⟨[.context .other, .context (.setCurrent thread (some ref)), .saved request ref],
      set.step (.context (.other same))⟩

end Contexts

end OpenBus
