import OpenBus.Model.ReferencePlatform
import OpenBus.Proofs.Exports
import OpenBus.Proofs.SharedAuth

/-! # What a decoded secret is good for

A secret that has been exported comes back with its bus, its login processes and its octets, so it
logs in as the original does. It cannot be cancelled: the decoder starts from the default
constructor and sets every field but the pointer to the initializer of the ORB, which `cancel` uses
first.
-/

namespace OpenBus

open Machine

namespace SharedAuth

open ChainExport

variable {platform : Platform}

theorem decodeSharedAuthSecret_encodeSharedAuthSecret (inverts : platform.CodecInverts)
    (secret : SharedAuthSecret) :
    decodeSharedAuthSecret platform (encodeSharedAuthSecret platform secret) =
      .ok { secret with orbInitializer := false } := by
  have tag : (magicTagSharedAuth.takeWhile (· ≠ 0)) = magicTagSharedAuth := by decide +kernel
  have current := decodeSharedAuth_sharedAuthEntry inverts .current exportVersion
    secret.loginProcess secret
  have legacy := decodeSharedAuth_sharedAuthEntry inverts .legacy legacyCurrentVersion
    secret.legacyLoginProcess secret
  have version (protocol : Protocol) (version : ULong) (attempt : Option ObjectRef) :
      (sharedAuthEntry platform protocol version attempt secret).version = version := rfl
  rw [decodeSharedAuthSecret, encodeSharedAuthSecret,
    decodeExportedVersions_encode inverts.entries (by decide +kernel), tag]
  simp [readEntry, version, current, legacy, legacyCurrentVersion_ne_exportVersion, secretRead,
    SharedAuthSecret.init, bind, Except.bind, pure, Except.pure]

variable (platform) in
/-- What a decoded secret keeps: what it says, the calls it leads to, and what it is exported as. -/
structure LogsInAs (original decoded : SharedAuthSecret) : Prop where
  busid : decoded.busid = original.busid
  loginProcess : decoded.loginProcess = original.loginProcess
  legacyLoginProcess : decoded.legacyLoginProcess = original.legacyLoginProcess
  secret : decoded.secret = original.secret
  request : ∀ world conn, loginRequest platform world conn decoded =
    loginRequest platform world conn original
  login : ∀ world ref, loginBySharedAuth platform world ref decoded =
    loginBySharedAuth platform world ref original
  exported : encodeSharedAuthSecret platform decoded = encodeSharedAuthSecret platform original

/-- With the initializer of the ORB, `cancel` has the bus cancel the login process. -/
structure Cancels (loginProcess : ObjectRef) (secret : SharedAuthSecret) : Prop where
  initializer : secret.orbInitializer = true
  cancel : ∀ world, cancel world secret =
    Orb.guarded .ignoreInterceptor (.boolean true) (.boolean false) (world.cancel loginProcess)

variable (platform) in
/-- Every operation on the decoded secret behaves as on the original. -/
structure AsGoodAs (original decoded : SharedAuthSecret) : Prop where
  login : LogsInAs platform original decoded
  cancel : ∀ loginProcess, original.loginProcess = some loginProcess → Cancels loginProcess decoded

theorem logsInAs_uninitialized (secret : SharedAuthSecret) :
    LogsInAs platform secret { secret with orbInitializer := false } :=
  ⟨rfl, rfl, rfl, rfl, fun _ _ => rfl, fun _ _ => rfl, rfl⟩

theorem cancels_of_initialized {secret : SharedAuthSecret} {loginProcess : ObjectRef}
    (initialized : secret.orbInitializer = true) (set : secret.loginProcess = some loginProcess) :
    Cancels loginProcess secret :=
  ⟨initialized, fun world => by simp only [cancel, initialized, if_true, set]⟩

/-- A secret that has been decoded logs in as the original does; the original cancels its login
process, and the decoded one does not. -/
theorem decoded_logsIn_only (inverts : platform.CodecInverts) {world : SharedAuthWorld}
    {ref : ConnRef} {orb : Orb} {run : SharedAuthRun} {secret : SharedAuthSecret}
    (started : startSharedAuth platform world ref (.start orb) = (.ok secret, run)) :
    (∃ decoded, decodeSharedAuthSecret platform (encodeSharedAuthSecret platform secret) =
        .ok decoded ∧ LogsInAs platform secret decoded) ∧
      AsGoodAs platform secret secret ∧
      ¬ ∃ decoded, decodeSharedAuthSecret platform (encodeSharedAuthSecret platform secret) =
        .ok decoded ∧ AsGoodAs platform secret decoded := by
  have decoded := decodeSharedAuthSecret_encodeSharedAuthSecret inverts secret
  obtain ⟨initialized, loginProcess, set⟩ := startSharedAuth_ok started
  refine ⟨⟨_, decoded, logsInAs_uninitialized secret⟩, ⟨?_, fun _ => ?_⟩, ?_⟩
  · exact ⟨rfl, rfl, rfl, rfl, fun _ _ => rfl, fun _ _ => rfl, rfl⟩
  · exact cancels_of_initialized initialized
  · rintro ⟨other, same, good⟩
    obtain rfl := Except.ok.inj (decoded.symm.trans same)
    cases (good.cancel loginProcess set).initializer

/-- A bus that starts a login and converts it. -/
def startingWorld : SharedAuthWorld where
  startLoginBySharedAuth _ := pure (⟨ascii "B", 1⟩, .replicate 256 7)
  convertSharedAuth _ _ := pure ⟨ascii "B", 2⟩
  cancel _ := pure ()
  selfId := .replicate 16 1
  previousId := .replicate 16 2

/-- A connection that is logged in, with or without support of version 2.0. -/
def loggedOrb (legacySupport : Bool) : Orb :=
  let conn := (Connection.init ⟨[]⟩ legacySupport).loginInit ReferencePlatform.facets
  .init (fun _ => { conn with loginInfo := some ⟨ascii "a", ascii "A"⟩, state := .logged })
    fun _ => true

def startedSecret : SharedAuthSecret :=
  ⟨ascii "B", some ⟨ascii "B", 1⟩, some ⟨ascii "B", 2⟩, .replicate 16 7, true⟩

theorem startSharedAuth_loggedOrb :
    (startSharedAuth referencePlatform startingWorld 0 (.start (loggedOrb true))).1 =
      .ok startedSecret := by
  rfl

theorem decoded_logsIn_only_startedSecret :
    (∃ decoded, decodeSharedAuthSecret referencePlatform
        (encodeSharedAuthSecret referencePlatform startedSecret) = .ok decoded ∧
        LogsInAs referencePlatform startedSecret decoded) ∧
      AsGoodAs referencePlatform startedSecret startedSecret ∧
      ¬ ∃ decoded, decodeSharedAuthSecret referencePlatform
        (encodeSharedAuthSecret referencePlatform startedSecret) = .ok decoded ∧
        AsGoodAs referencePlatform startedSecret decoded :=
  decoded_logsIn_only ReferencePlatform.codecInverts (Action.eq_of_fst startSharedAuth_loggedOrb)

/-- The decoded secret has no initializer, so its `cancel` is a fault. -/
theorem decoded_secret_not_cancelled :
    ∃ secret decoded, (startSharedAuth referencePlatform startingWorld 0
        (.start (loggedOrb true))).1 = .ok secret ∧
      decodeSharedAuthSecret referencePlatform
        (encodeSharedAuthSecret referencePlatform secret) = .ok decoded ∧
      (cancel startingWorld secret (loggedOrb true)).1 = .ok () ∧
      (cancel startingWorld decoded (loggedOrb true)).1 = .error .fault ∧
      ¬ AsGoodAs referencePlatform secret decoded := by
  refine ⟨startedSecret, { startedSecret with orbInitializer := false }, startSharedAuth_loggedOrb,
    decodeSharedAuthSecret_encodeSharedAuthSecret ReferencePlatform.codecInverts _, rfl, rfl, ?_⟩
  intro good
  cases (good.cancel ⟨ascii "B", 1⟩ rfl).initializer

end SharedAuth

end OpenBus
