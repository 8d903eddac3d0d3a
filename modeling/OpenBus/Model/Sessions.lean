import OpenBus.Machine.Run
import OpenBus.Model.ClientInterceptor

/-! # The sessions of a connection

The steps are the sections of the interceptor and of the connection that use the sessions or the
login of one connection, in any order that the threads of an ORB may produce. A request is sent
under some login, and the session which is installed in answer to it has been agreed under that one.
-/

namespace OpenBus

open Machine

namespace ClientInterceptor

/-- What happens to the login and the sessions of a connection. -/
inductive SessionEvent where
  | login (info : LoginInfo)
  /-- `_logout`, and the login that it has found. -/
  | cleared (removed : Option LoginInfo)
  /-- A reset answered to a request sent under a login, and whether its session has found a place in
  the cache. -/
  | installed (under remoteId : Identifier) (stored : Bool)
  /-- A credential has been built with a login and a session of the cache. -/
  | built (login remoteId : Identifier)
  | other

/-- All that finding a session depends on, and the login. -/
def sessionPlaces (ref : ConnRef) (orb : Orb) :=
  ((orb.connections ref).loginInfo, (orb.connections ref).state,
    (orb.connections ref).login2session.find, (orb.connections ref).login2session.capacity)

inductive SessionStep (ref : ConnRef) : Orb → SessionEvent → Orb → Prop
  | login {orb : Orb} {info : LoginInfo} {conn : Connection}
      (free : (orb.connections ref).login info = some conn) :
      SessionStep ref orb (.login info) (orb.updateConnection ref fun _ => conn)
  | cleared {orb : Orb} :
      SessionStep ref orb (.cleared (orb.connections ref).loginInfo) (orb.logoutSection ref)
  | installed {orb : Orb} (under : Identifier) (session : SecretSession) :
      SessionStep ref orb
        (.installed under session.remoteId
          (decide (0 < (orb.connections ref).login2session.capacity)))
        (orb.setLogin2session ref
          ((orb.connections ref).login2session.insert session.remoteId session))
  | built {orb : Orb} {remoteId : Identifier} {session : SecretSession} (login : Identifier)
      (found : (orb.connections ref).login2session.find remoteId = some session) :
      SessionStep ref orb (.built login remoteId)
        (orb.setLogin2session ref ((orb.connections ref).login2session.assign remoteId
          { session with ticket := session.ticket + 1 }))
  | other {orb t : Orb} (same : sessionPlaces ref t = sessionPlaces ref orb) :
      SessionStep ref orb .other t

/-- The runs of an ORB with a connection that starts as a constructor leaves it. -/
def sessionMachine (ref : ConnRef) : Labeled Orb SessionEvent where
  Init orb := ∃ key legacySupport, orb.connections ref = .init key legacySupport
  Step := SessionStep ref

end ClientInterceptor

end OpenBus
