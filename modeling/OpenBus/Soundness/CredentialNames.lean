import OpenBus.Machine.Run
import OpenBus.Model.Login
import OpenBus.Model.ReferencePlatform
import OpenBus.Proofs.ClientInterceptor

/-! # The names in a credential

A thread logs in and out, switches connections and sends requests, one after another. Its slots
give a request a login and a bus other than those of its connection while a `logout` is in
progress. The guard of the login leaves the default login behind, which counts as none; the
guard of the bus leaves an empty string, which counts as a bus. A credential therefore names the
bus of its connection exactly if the thread has completed no `logout` before.
-/

namespace OpenBus

open Machine

namespace ClientInterceptor

/-- The slots which take precedence over the connection. -/
def scopedNames (orb : Orb) : Any × Any := (orb.piCurrent .login, orb.piCurrent .busid)

/-- The calls and the callback of a request leave these slots as they are, as any sequence of
operations does that completes no `logout`. -/
structure RequestQuiet (world : ClientWorld) : Prop where
  signing : ∀ ref, SigningKeeps scopedNames world ref
  callback : ∀ ref info calls, Action.Keeps scopedNames (world.onInvalidLogin ref info calls)
  validity : ∀ registry id, Action.Keeps scopedNames (world.getLoginValidity registry id)

inductive ThreadEvent where
  | login (ref : ConnRef)
  /-- A `logout` that has returned; it is complete if the connection was logged. -/
  | logout (ref : ConnRef) (completed : Bool)
  | request
  | reply
  | other

/-- One operation of the thread, or a change made by another one. -/
inductive ThreadStep (platform : Platform) : Orb → ThreadEvent → Orb → Prop
  | login {orb t : Orb} {ref : ConnRef} {answers : LoginAnswers} {result : Except Exception Unit}
      (ran : orb.loginBy ref answers = (result, t)) : ThreadStep platform orb (.login ref) t
  | logout {orb t : Orb} {ref : ConnRef} {world : LogoutWorld} {success : Bool}
      (ran : orb.logout platform world ref = (.ok success, t)) :
      ThreadStep platform orb (.logout ref ((orb.connections ref).state = .logged)) t
  | request {orb : Orb} {t : Invocation} {world : ClientWorld} {request : ClientRequest}
      {contexts : ServiceContexts} {result : Except Exception Unit} (quiet : RequestQuiet world)
      (ran : sendRequest platform world request ⟨orb, contexts⟩ = (result, t)) :
      ThreadStep platform orb .request t.orb
  | reply {orb t : Orb} {world : ClientWorld} {request : ClientRequest} {reply : ExceptionReply}
      {result : Except Exception Unit} (quiet : RequestQuiet world)
      (ran : receiveException platform world request reply orb = (result, t)) :
      ThreadStep platform orb .reply t
  | other {orb t : Orb} (same : scopedNames t = scopedNames orb) :
      ThreadStep platform orb .other t

/-- A thread and its ORB, from the time when none of the slots is set. -/
def threadMachine (platform : Platform) : Labeled Orb ThreadEvent where
  Init orb := orb.piCurrent .login = .empty ∧ orb.piCurrent .busid = .empty
  Step := ThreadStep platform

def CompletedLogout (history : List ThreadEvent) : Prop :=
  ∃ ref, ThreadEvent.logout ref true ∈ history

/-- What the slots of the thread hold after a run. -/
structure SlotsLeft (history : List ThreadEvent) (orb : Orb) : Prop where
  login : (orb.piCurrent .login).extractLoginInfo = default
  fresh : ¬ CompletedLogout history → (orb.piCurrent .busid).toString? = none
  left : CompletedLogout history → orb.piCurrent .busid = .string []

namespace Reference

/-- A bus that grants the login asked for. -/
def answers (id : Identifier) : LoginAnswers where
  component := .ok ReferencePlatform.facets
  secretBus := none
  grant := .ok ⟨id, ascii "C"⟩

def logoutWorld : LogoutWorld where
  logout _ := pure ()
  selfId := .replicate 16 1
  previousId := .replicate 16 2

def environment : ClientWorld where
  signChainFor _ _ _ := pure ⟨.replicate 256 1, [1]⟩
  getLoginValidity _ _ := pure 60
  onInvalidLogin _ _ _ := pure ()
  attempts := 0
  requestId := .replicate 16 3

def call : ClientRequest := ⟨ascii "op", ascii "profile"⟩

/-- One connection, not logged in, which every request goes through. -/
def start : Orb :=
  { Orb.init (fun _ => .init ⟨[2]⟩ false) (fun _ => true) with defConn := some 0 }

def first : Orb := (Orb.loginBy 0 (answers (ascii "c")) start).2

def loggedOut : Orb := (Orb.logout referencePlatform logoutWorld 0 first).2

def second : Orb := (Orb.loginBy 0 (answers (ascii "d")) loggedOut).2

/-- A request of the thread. -/
def sent (orb : Orb) : Invocation :=
  (sendRequest referencePlatform environment call ⟨orb, fun _ => none⟩).2

theorem quiet : RequestQuiet environment where
  signing _ _ _ _ := rfl
  callback _ _ _ _ := rfl
  validity _ _ _ := rfl

end Reference

variable {platform : Platform} {world : ClientWorld} {request : ClientRequest}

theorem SlotsLeft.of_same {history : List ThreadEvent} {orb t : Orb} {e : ThreadEvent}
    (slots : SlotsLeft history orb) (same : scopedNames t = scopedNames orb)
    (incomplete : ∀ ref, e ≠ .logout ref true) : SlotsLeft (e :: history) t := by
  obtain ⟨login, busid⟩ := Prod.mk.inj same
  have completed : CompletedLogout (e :: history) ↔ CompletedLogout history := by
    simp only [CompletedLogout, List.mem_cons]
    grind
  exact ⟨by rw [login]; exact slots.login, by rw [completed, busid]; exact slots.fresh,
    by rw [completed, busid]; exact slots.left⟩

/-- A guard of another slot leaves them alone if what it guards does. -/
theorem guarded_keeps {α : Type} {slot : Slot} {value reset : Any}
    {action : Action Orb Exception α} (login : slot ≠ .login) (busid : slot ≠ .busid)
    (keeps : Action.Keeps scopedNames action) :
    Action.Keeps scopedNames (Orb.guarded slot value reset action) := by
  refine Orb.guarded_keeps (fun value orb => ?_) keeps
  simp [scopedNames, Orb.setSlot, login.symm, busid.symm]

/-- Each credential among the contexts has the given bus and login, and there is one. -/
structure Named (platform : Platform) (bus login : Identifier) (contexts : ServiceContexts) : Prop where
  all : ∀ protocol data, contexts protocol.credentialContextId = some data →
    ∃ credential, data = platform.encodeValue (.credentialData protocol credential) ∧
      credential.bus = bus ∧ credential.login = login
  attached : ∃ protocol : Protocol, (contexts protocol.credentialContextId).isSome

end ClientInterceptor

end OpenBus
