import OpenBus.Model.Orb

/-! # What the operations of the context leave alone

The operations that set, find and dismantle a connection, by their effect on each part of the ORB.
The entry of the slot is dropped and a new one made where a connection is set; `logoutSection` works
on the connection and the caches alone.
-/

namespace OpenBus

namespace Orb

@[simp] theorem connections_updateConnection_self (ref : ConnRef) (f : Connection → Connection)
    (orb : Orb) : (orb.updateConnection ref f).connections ref = f (orb.connections ref) :=
  Function.update_self ..

theorem connections_updateConnection_of_ne {ref other : ConnRef} (differ : other ≠ ref)
    (f : Connection → Connection) (orb : Orb) :
    (orb.updateConnection ref f).connections other = orb.connections other :=
  Function.update_of_ne differ ..

@[simp] theorem connections_setProfile2login (ref : ConnRef)
    (cache : LRUCache HashValue Identifier) (orb : Orb) :
    (orb.setProfile2login ref cache).connections ref =
      { orb.connections ref with profile2login := cache } :=
  connections_updateConnection_self ..

@[simp] theorem connections_setLogin2session (ref : ConnRef)
    (cache : LRUCache Identifier SecretSession) (orb : Orb) :
    (orb.setLogin2session ref cache).connections ref =
      { orb.connections ref with login2session := cache } :=
  connections_updateConnection_self ..

@[simp] theorem connections_setInvalidLogin (ref : ConnRef) (login : Option LoginInfo) (orb : Orb) :
    (orb.setInvalidLogin ref login).connections ref =
      { orb.connections ref with invalidLogin := login } :=
  connections_updateConnection_self ..

/-- The id in the slot of the current connection. -/
def currentId (orb : Orb) : Option Uuid := (orb.piCurrent .currentConnection).toUuid?

/-- The map without the entry of the slot. -/
def erased (orb : Orb) : Uuid → Option (Option ConnRef) :=
  match orb.currentId with
  | none => orb.id2conn
  | some id => Function.update orb.id2conn id none

theorem setCurrentConnection_none (fresh : Uuid) (orb : Orb) :
    orb.setCurrentConnection fresh none = { orb with id2conn := orb.erased } := by
  unfold setCurrentConnection erased currentId
  split <;> simp_all

theorem setCurrentConnection_some (fresh : Uuid) (ref : ConnRef) (orb : Orb) :
    orb.setCurrentConnection fresh (some ref) =
      { orb with id2conn := Function.update orb.erased fresh (some (some ref)) }.setSlot
        .currentConnection (.uuid fresh) := by
  unfold setCurrentConnection erased currentId
  split <;> simp_all

theorem erased_of_ne {orb : Orb} {id : Uuid} (other : orb.currentId ≠ some id) :
    orb.erased id = orb.id2conn id := by
  cases current : orb.currentId with
  | none => rw [erased, current]
  | some own =>
    rw [erased, current]
    apply Function.update_of_ne
    rintro rfl
    exact other current

theorem erased_self {orb : Orb} {id : Uuid} (own : orb.currentId = some id) :
    orb.erased id = none := by
  rw [erased, own]
  exact Function.update_self ..

theorem erased_ne_none {orb : Orb} {id : Uuid} (present : orb.erased id ≠ none) :
    orb.id2conn id ≠ none ∧ orb.currentId ≠ some id := by
  have other : orb.currentId ≠ some id := fun own => present (erased_self own)
  rw [erased_of_ne other] at present
  exact ⟨present, other⟩

@[simp] theorem alive_setCurrentConnection (fresh : Uuid) (conn : Option ConnRef) (orb : Orb) :
    (orb.setCurrentConnection fresh conn).alive = orb.alive := by
  cases conn with
  | none => rw [setCurrentConnection_none]
  | some ref => rw [setCurrentConnection_some, setSlot]

@[simp] theorem defConn_setCurrentConnection (fresh : Uuid) (conn : Option ConnRef) (orb : Orb) :
    (orb.setCurrentConnection fresh conn).defConn = orb.defConn := by
  cases conn with
  | none => rw [setCurrentConnection_none]
  | some ref => rw [setCurrentConnection_some, setSlot]

/-- What `getCurrentConnection` reports, by the entry of the slot. -/
theorem getCurrentConnection_eq (orb : Orb) :
    orb.getCurrentConnection = match orb.currentId with
      | none => orb.getDefaultConnection
      | some id => (orb.id2conn id).bind orb.lock := by
  unfold getCurrentConnection currentId
  cases (orb.piCurrent .currentConnection).toUuid? with
  | none => rfl
  | some id =>
    cases entry : orb.id2conn id <;> simp only [entry] <;> rfl

/-- The slots of the chains have no say in which connection is current. -/
theorem getCurrentConnection_setSlot (orb : Orb) {slot : Slot} (value : Any)
    (other : slot ≠ .currentConnection) :
    (orb.setSlot slot value).getCurrentConnection = orb.getCurrentConnection := by
  simp [getCurrentConnection, setSlot, Function.update_of_ne (Ne.symm other),
    getDefaultConnection, lock]

@[simp] theorem sessionLRUCache_setCurrentConnection (fresh : Uuid) (conn : Option ConnRef)
    (orb : Orb) :
    (orb.setCurrentConnection fresh conn).sessionLRUCache = orb.sessionLRUCache := by
  cases conn with
  | none => rw [setCurrentConnection_none]
  | some ref => rw [setCurrentConnection_some, setSlot]

theorem alive_of_getCurrentConnection {orb : Orb} {conn : ConnRef}
    (current : orb.getCurrentConnection = some conn) : orb.alive conn = true := by
  have locked : ∃ pointer, orb.lock pointer = some conn := by
    rw [getCurrentConnection_eq] at current
    split at current
    · exact ⟨_, current⟩
    · obtain ⟨pointer, -, locked⟩ := Option.bind_eq_some_iff.mp current
      exact ⟨pointer, locked⟩
  obtain ⟨pointer, locked⟩ := locked
  exact (Option.filter_eq_some_iff.mp locked).2

/-- Setting a connection that is alive makes it current; a null one leaves an id with no entry. -/
theorem getCurrentConnection_setCurrentConnection {orb : Orb} {own : Uuid} (fresh : Uuid)
    (pinned : orb.currentId = some own) (conn : Option ConnRef)
    (alive : ∀ ref, conn = some ref → orb.alive ref = true) :
    (orb.setCurrentConnection fresh conn).getCurrentConnection = conn := by
  cases conn with
  | none =>
    have still : Orb.currentId { orb with id2conn := orb.erased } = some own := pinned
    simp only [setCurrentConnection_none, getCurrentConnection_eq, still, erased_self pinned,
      Option.bind_none]
  | some ref =>
    have entry : (orb.setCurrentConnection fresh (some ref)).currentId = some fresh := by
      simp [setCurrentConnection_some, setSlot, currentId, Any.toUuid?]
    rw [getCurrentConnection_eq, entry, setCurrentConnection_some]
    simp [setSlot, lock, alive ref rfl]

theorem currentId_setCurrentConnection {orb : Orb} (fresh : Uuid) (pinned : orb.currentId.isSome)
    (conn : Option ConnRef) : (orb.setCurrentConnection fresh conn).currentId.isSome := by
  cases conn with
  | none => rwa [setCurrentConnection_none]
  | some ref => simp [setCurrentConnection_some, setSlot, currentId, Any.toUuid?]

@[simp] theorem connections_setCurrentConnection (fresh : Uuid) (conn : Option ConnRef)
    (orb : Orb) : (orb.setCurrentConnection fresh conn).connections = orb.connections := by
  cases conn with
  | none => rw [setCurrentConnection_none]
  | some ref => rw [setCurrentConnection_some, setSlot]

theorem piCurrent_setCurrentConnection (fresh : Uuid) (conn : Option ConnRef) (orb : Orb)
    {slot : Slot} (other : slot ≠ .currentConnection) :
    (orb.setCurrentConnection fresh conn).piCurrent slot = orb.piCurrent slot := by
  cases conn with
  | none => rw [setCurrentConnection_none]
  | some ref => rw [setCurrentConnection_some, setSlot]; exact Function.update_of_ne other ..

@[simp] theorem piCurrent_logoutSection (ref : ConnRef) (orb : Orb) :
    (orb.logoutSection ref).piCurrent = orb.piCurrent := by
  unfold logoutSection
  split <;> rfl

@[simp] theorem id2conn_logoutSection (ref : ConnRef) (orb : Orb) :
    (orb.logoutSection ref).id2conn = orb.id2conn := by
  unfold logoutSection
  split <;> rfl

@[simp] theorem alive_logoutSection (ref : ConnRef) (orb : Orb) :
    (orb.logoutSection ref).alive = orb.alive := by
  unfold logoutSection
  split <;> rfl

@[simp] theorem defConn_logoutSection (ref : ConnRef) (orb : Orb) :
    (orb.logoutSection ref).defConn = orb.defConn := by
  unfold logoutSection
  split <;> rfl

theorem connections_logoutSection (ref : ConnRef) (orb : Orb) :
    (orb.logoutSection ref).connections ref = (orb.connections ref).logout := by
  unfold logoutSection
  split
  · next out => rw [Connection.logout_of_loggedOut out]
  · simp [clearCaches]

theorem connections_logoutSection_of_ne {ref conn : ConnRef} (other : conn ≠ ref) (orb : Orb) :
    (orb.logoutSection ref).connections conn = orb.connections conn := by
  unfold logoutSection
  split
  · rfl
  · exact connections_updateConnection_of_ne other _ _

theorem loginInfo_logoutSection_self {ref : ConnRef} {orb : Orb}
    (logged : (orb.connections ref).state = .logged) :
    ((orb.logoutSection ref).connections ref).loginInfo = none := by
  simp [connections_logoutSection, Connection.logout, logged]

@[simp] theorem getCurrentConnection_logoutSection (ref : ConnRef) (orb : Orb) :
    (orb.logoutSection ref).getCurrentConnection = orb.getCurrentConnection := by
  have lock : (orb.logoutSection ref).lock = orb.lock := by
    funext pointer
    simp [Orb.lock]
  simp only [getCurrentConnection_eq, currentId, piCurrent_logoutSection, id2conn_logoutSection,
    getDefaultConnection, defConn_logoutSection, lock]

end Orb

end OpenBus
