import OpenBus.Model.Idl

/-! # Caller chains

A chain of calls as the application sees it, together with what the bus signed for it in each
protocol version. Of the two constructors, the one for version 2.1 ignores its `busid` argument
and takes the bus from the chain. Equality looks at the bus, the originators and the caller, so
a chain which differs from the default one in none of them counts as absent.
-/

namespace OpenBus

structure CallerChain where
  busid : Identifier
  target : Identifier
  originators : List LoginInfo
  caller : LoginInfo
  signedChain : SignedData
  legacySignedChain : SignedData
deriving DecidableEq

namespace CallerChain

variable (platform : Platform)

/-- A default-constructed signed chain: no data under an uninitialized signature. -/
def unsigned : SignedData := ⟨platform.uninitialized, []⟩

/-- `CallerChain()`, the absence of a chain. -/
def none : CallerChain := ⟨[], [], [], default, unsigned platform, unsigned platform⟩

def ofCallChain (chain : CallChain) (target : Identifier) (signedChain : SignedData) :
    CallerChain :=
  ⟨chain.bus, target, chain.originators, chain.caller, signedChain, unsigned platform⟩

def ofLegacyCallChain (chain : LegacyCallChain) (busid target : Identifier)
    (signedChain : SignedData) : CallerChain :=
  ⟨busid, target, chain.originators, chain.caller, unsigned platform, signedChain⟩

/-- The two overloads of `signed_chain`. -/
def signed (chain : CallerChain) : Protocol → SignedData
  | .current => chain.signedChain
  | .legacy => chain.legacySignedChain

def isLegacy (chain : CallerChain) : Bool := decide (0 < chain.legacySignedChain.encoded.length)

/-- `operator==` -/
def equal (lhs rhs : CallerChain) : Bool :=
  lhs.busid == rhs.busid && LoginInfo.equalSeq lhs.originators rhs.originators &&
    lhs.caller.equal rhs.caller

end CallerChain

end OpenBus
