import OpenBus.Model.Orb

/-! # What the bus is asked to convert

A connection that supports version 2.0 has the converter of the bus make a login process or a signed
chain of that version out of one of version 2.1. Two operations do so: `startSharedAuth`, and
`makeChainFor`. The calls to the bus are actions.
-/

namespace OpenBus

open Machine

/-- The calls of one `makeChainFor`: the chain signed, and the one converted. -/
structure ChainWorld where
  signChainFor : ObjectRef → Identifier → Action Orb Exception SignedData
  convertChainFor : ObjectRef → Identifier → Action Orb Exception SignedData

namespace Orb

/-- Call the converter of a connection that supports version 2.0. A call on a nil reference is a
fault. -/
def ifSupported {α : Type} (ref : ConnRef) (convert : ObjectRef → Action Orb Exception α) :
    Action Orb Exception (Option α) := do
  let orb ← get
  if (orb.connections ref).legacySupport then
    match (orb.connections ref).legacyConverter with
    | none => throw .fault
    | some converter =>
      let converted ← convert converter
      return some converted
  else return none

/-- `makeChainFor`; the chain joined is read but not used. -/
def makeChainFor (platform : Platform) (world : ChainWorld) (entity : Identifier) :
    Action Orb Exception CallerChain := do
  let orb ← get
  match orb.getCurrentConnection with
  | none => return .none platform
  | some ref =>
    let _ ← Action.ofExcept (orb.getJoinedChain platform)
    match (orb.connections ref).accessControl with
    | none => throw .fault
    | some accessControl =>
      let signedChain ← world.signChainFor accessControl entity
      let legacyChain ← ifSupported ref fun converter => world.convertChainFor converter entity
      let chain ← Action.ofExcept (decodeChainData platform signedChain)
      let callerChain := CallerChain.ofCallChain platform chain chain.target signedChain
      return { callerChain with
        legacySignedChain := legacyChain.getD callerChain.legacySignedChain }

end Orb

end OpenBus
