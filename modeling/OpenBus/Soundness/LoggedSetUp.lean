import OpenBus.Model.ReferencePlatform
import OpenBus.Proofs.ConnectionThreads

/-! # What a logged connection holds

A login installs what the connection needs in `login_init` and becomes current in `login`, and
a `logout` takes both away. Between the two sections of one thread those of others can come, so
a login can become current on a connection that has been dismantled, or set up for another bus.
The connection is fully set up in every logged state exactly if no run of sections allows that.
-/

namespace OpenBus

open Machine

namespace ConnectionThreads

/-- The bus of the last `login_init` that no `logout` has undone. -/
def lastInit : List ThreadEvent → Option Identifier
  | [] => none
  | .init _ bus :: _ => some bus
  | .logout _ (some _) :: _ => none
  | .discarded _ _ (some _) :: _ => none
  | _ :: past => lastInit past

/-- The bus that has granted the current login. -/
def grantor : List ThreadEvent → Option Identifier
  | [] => none
  | .login _ _ bus :: _ => some bus
  | .logout _ (some _) :: _ => none
  | .discarded _ _ (some _) :: _ => none
  | _ :: past => grantor past

/-- A login becomes current after a `login_init` at its bus, with no `logout` in between, and while
it is current there is no `login_init` at another bus. -/
def InOrder (past : List ThreadEvent) : ThreadEvent → Prop
  | .login _ _ bus => lastInit past = some bus
  | .init _ bus => ∀ granting, grantor past = some granting → bus = granting
  | _ => True

/-- A connection with all that `login_init` installs, for one bus. -/
structure Installed (bus : Identifier) (conn : Connection) : Prop where
  loginCache : conn.loginCache.isSome
  buskey : conn.buskey.isSome
  accessControl : conn.accessControl.isSome
  loginRegistry : conn.loginRegistry.isSome
  offerRegistry : conn.offerRegistry.isSome
  busid : conn.busid = bus

/-- A connection that is fully set up for the bus that has granted its login. -/
structure SetUp (bus : Identifier) (conn : Connection) : Prop extends Installed bus conn where
  loginInfo : conn.loginInfo.isSome

/-- Every logged state on the way is fully set up. -/
def AlwaysSetUp (history : List ThreadEvent) : Prop :=
  ∀ past s, past <:+ history → Run threadMachine past s → s.conn.state = .logged →
    ∃ bus, grantor past = some bus ∧ SetUp bus s.conn

/-- What a history tells about the connection. -/
structure Told (past : List ThreadEvent) (conn : Connection) : Prop where
  logged : conn.state = .logged ↔ (grantor past).isSome
  login : conn.loginInfo.isSome ↔ (grantor past).isSome
  installed : ∀ bus, lastInit past = some bus → Installed bus conn
  dismantled : lastInit past = none → conn.accessControl = none

theorem Told.init (key : PrivateKey) (legacySupport : Bool) :
    Told [] (.init key legacySupport) where
  logged := by simp [Connection.init, grantor]
  login := by simp [Connection.init, grantor]
  installed := by simp [lastInit]
  dismantled _ := rfl

theorem Told.of_standing {past : List ThreadEvent} {conn after : Connection}
    (told : Told past conn) (same : standing after = standing conn) : Told past after := by
  simp only [standing, Prod.mk.injEq] at same
  obtain ⟨state, login, busid, buskey, accessControl, loginRegistry, offerRegistry, cache⟩ := same
  refine ⟨by rw [state]; exact told.logged, by rw [login]; exact told.login, fun bus last => ?_,
    fun none => accessControl.trans (told.dismantled none)⟩
  have installed := told.installed bus last
  exact ⟨by rw [cache]; exact installed.loginCache, by rw [buskey]; exact installed.buskey,
    by rw [accessControl]; exact installed.accessControl,
    by rw [loginRegistry]; exact installed.loginRegistry,
    by rw [offerRegistry]; exact installed.offerRegistry, busid.trans installed.busid⟩

theorem Told.logout {past : List ThreadEvent} {conn : Connection} (told : Told past conn)
    {e : ThreadEvent} (label : (∃ thread, e = .logout thread conn.loginInfo) ∨
      ∃ thread invalid, e = .discarded thread invalid conn.loginInfo) :
    Told (e :: past) conn.logout := by
  cases present : conn.loginInfo with
  | none =>
    have out : conn.state = .loggedOut := by
      have := told.logged
      have := told.login
      rcases state : conn.state <;> simp_all
    have same : lastInit (e :: past) = lastInit past ∧ grantor (e :: past) = grantor past := by
      rcases label with ⟨thread, rfl⟩ | ⟨thread, invalid, rfl⟩ <;> simp [present, lastInit, grantor]
    rw [Connection.logout_of_loggedOut out]
    exact ⟨by rw [same.2]; exact told.logged, by rw [same.2]; exact told.login,
      by rw [same.1]; exact told.installed, by rw [same.1]; exact told.dismantled⟩
  | some info =>
    have logged : conn.state = .logged := by
      have := told.logged
      have := told.login
      simp_all
    have none : lastInit (e :: past) = none ∧ grantor (e :: past) = none := by
      rcases label with ⟨thread, rfl⟩ | ⟨thread, invalid, rfl⟩ <;> simp [present, lastInit, grantor]
    exact ⟨by simp [none], by simp [none, Connection.logout, logged], by simp [none],
      by simp [Connection.logout, logged]⟩

theorem Told.of_same {past : List ThreadEvent} {conn : Connection} {e : ThreadEvent}
    (told : Told past conn) (last : lastInit (e :: past) = lastInit past)
    (granting : grantor (e :: past) = grantor past) : Told (e :: past) conn :=
  ⟨by rw [granting]; exact told.logged, by rw [granting]; exact told.login,
    by rw [last]; exact told.installed, by rw [last]; exact told.dismantled⟩

theorem Told.loginInit {past : List ThreadEvent} {conn : Connection} (told : Told past conn)
    (thread : ℕ) (facets : BusFacets) :
    Told (.init thread facets.accessControl.bus :: past) (conn.loginInit facets) where
  logged := told.logged
  login := told.login
  installed := by
    intro bus same
    obtain rfl := Option.some.inj same
    exact ⟨rfl, rfl, rfl, rfl, rfl, rfl⟩
  dismantled := by simp [lastInit]

theorem Told.login_free {past : List ThreadEvent} {conn after : Connection} (told : Told past conn)
    {thread : ℕ} {info : LoginInfo} {bus : Identifier} (free : conn.login info = some after) :
    Told (.login thread info bus :: past) after := by
  obtain ⟨-, rfl⟩ := Connection.login_eq_some_iff.mp free
  refine ⟨by simp [grantor], by simp [grantor], fun other last => ?_, told.dismantled⟩
  have installed := told.installed other last
  exact ⟨installed.loginCache, installed.buskey, installed.accessControl,
    installed.loginRegistry, installed.offerRegistry, installed.busid⟩

theorem told_of_run {history : List ThreadEvent} {s : Shared}
    (run : Run threadMachine history s) : Told history s.conn := by
  refine run.invariant (fun past s => Told past s.conn) ?_ ?_
  · rintro s ⟨⟨key, legacySupport, fresh⟩, -⟩
    rw [fresh]
    exact .init key legacySupport
  · rintro past s e t - told step
    rcases step.conn_cases with ⟨thread, facets, rfl, conn⟩ | ⟨thread, info, bus, rfl, free⟩ |
      ⟨label, conn⟩ | ⟨thread, invalid, rfl, conn⟩ | ⟨quiet, same, -⟩
    · rw [conn]
      exact told.loginInit thread facets
    · exact told.login_free free
    · rw [conn]
      exact told.logout label
    · have kept : Told past t.conn := told.of_standing (by rw [conn]; rfl)
      exact kept.of_same rfl rfl
    · refine (told.of_standing same).of_same ?_ ?_ <;>
        cases e <;> simp_all [ThreadEvent.isQuiet, lastInit, grantor]

/-- A connection that a history has logged in is set up if the last `login_init` was at the bus
of the login. -/
def Matches (past : List ThreadEvent) : Prop :=
  ∀ bus, grantor past = some bus → lastInit past = some bus

theorem matches_cons {past : List ThreadEvent} (matched : Matches past) (e : ThreadEvent) :
    Matches (e :: past) ↔ InOrder past e := by
  cases e with
  | init thread bus => simp [Matches, InOrder, lastInit, grantor]
  | login thread info bus => simp [Matches, InOrder, lastInit, grantor]
  | logout thread removed =>
    cases removed with
    | none => exact iff_of_true matched trivial
    | some info => simp [Matches, InOrder, grantor]
  | discarded thread invalid removed =>
    cases removed with
    | none => exact iff_of_true matched trivial
    | some info => simp [Matches, InOrder, grantor]
  | _ => exact iff_of_true matched trivial

theorem always_inOrder_iff (history : List ThreadEvent) :
    Always InOrder history ↔ ∀ past, past <:+ history → Matches past := by
  induction history with
  | nil => simp [Always, Matches, grantor]
  | cons e past ih =>
    constructor
    · rintro ⟨inOrder, before⟩ other suffix
      rcases List.suffix_cons_iff.mp suffix with rfl | earlier
      · exact (matches_cons (ih.mp before past (List.suffix_refl past)) e).mpr inOrder
      · exact ih.mp before other earlier
    · intro matched
      have before : ∀ other, other <:+ past → Matches other :=
        fun other suffix => matched other (suffix.trans (List.suffix_cons e past))
      exact ⟨(matches_cons (before past (List.suffix_refl past)) e).mp
        (matched _ (List.suffix_refl _)), ih.mpr before⟩

/-- A logged connection is fully set up exactly if its history has the order for it. -/
theorem Told.setUp_iff {past : List ThreadEvent} {conn : Connection} (told : Told past conn) :
    (conn.state = .logged → ∃ bus, grantor past = some bus ∧ SetUp bus conn) ↔ Matches past := by
  constructor
  · intro setUp bus granting
    obtain ⟨other, same, complete⟩ := setUp (told.logged.mpr (by simp [granting]))
    obtain rfl : other = bus := Option.some.inj (same.symm.trans granting)
    cases last : lastInit past with
    | none =>
      have present := complete.accessControl
      rw [told.dismantled last] at present
      cases present
    | some initial => rw [← (told.installed initial last).busid, complete.busid]
  · intro matched logged
    obtain ⟨bus, granting⟩ := Option.isSome_iff_exists.mp (told.logged.mp logged)
    refine ⟨bus, granting, told.installed bus (matched bus granting), ?_⟩
    rw [told.login, granting]
    rfl

/-- The connection is fully set up in every logged state of a run exactly if the sections of the
run come in the order for it. -/
theorem alwaysSetUp_iff {history : List ThreadEvent} {s : Shared}
    (run : Run threadMachine history s) : AlwaysSetUp history ↔ Always InOrder history := by
  rw [always_inOrder_iff]
  constructor
  · intro setUp past suffix
    obtain ⟨t, before⟩ := run.of_suffix suffix
    exact (told_of_run before).setUp_iff.mp (setUp past t suffix before)
  · intro matched past t suffix before
    exact (told_of_run before).setUp_iff.mpr (matched past suffix)

namespace Reference

open ReferencePlatform (facets)

def start : Shared := ⟨.init ⟨[2]⟩ false, fun _ => .idle⟩

theorem run_start : Run threadMachine [] start := .start ⟨⟨_, _, rfl⟩, fun _ => rfl⟩

/-- Two threads that have been granted a login each. -/
def both : Shared :=
  (start.act 0 (.granted ⟨ascii "a", ascii "C"⟩ (ascii "B")) (start.conn.loginInit facets)).act 1
    (.granted ⟨ascii "b", ascii "C"⟩ (ascii "B"))
    ((start.conn.loginInit facets).loginInit facets)

theorem run_both :
    Run threadMachine (granting 1 (ascii "B") (granting 0 (ascii "B") [])) both := by
  have first := run_granted run_start 0 rfl rfl none facets
    (fun bus impossible => by cases impossible) ⟨ascii "a", ascii "C"⟩
  exact run_granted first 1 rfl rfl none facets
    (fun bus impossible => by cases impossible) ⟨ascii "b", ascii "C"⟩

/-- One of them logs in and out again before the other one logs in. -/
def history : List ThreadEvent :=
  .login 0 ⟨ascii "a", ascii "C"⟩ (ascii "B") :: .logout 1 (some ⟨ascii "b", ascii "C"⟩) ::
    .login 1 ⟨ascii "b", ascii "C"⟩ (ascii "B") ::
    granting 1 (ascii "B") (granting 0 (ascii "B") [])

end Reference

open Reference ReferencePlatform in
/-- A login without interruption. -/
theorem alwaysSetUp_login :
    AlwaysSetUp (.login 0 ⟨ascii "a", ascii "C"⟩ (ascii "B") :: granting 0 (ascii "B") []) := by
  have run := run_login run_start 0 rfl rfl none facets
    (fun bus impossible => by cases impossible) ⟨ascii "a", ascii "C"⟩ rfl
  apply (alwaysSetUp_iff run).mpr
  simp [Always, InOrder, granting, lastInit, grantor]

open Reference in
/-- A login that becomes current after another thread has logged in and out leaves the connection
logged without facets. -/
theorem logged_without_facets :
    (∃ s, Run threadMachine history s ∧ s.conn.state = .logged ∧
      s.conn.loginInfo = some ⟨ascii "a", ascii "C"⟩ ∧ s.conn.accessControl = none ∧
      s.conn.loginRegistry = none ∧ s.conn.buskey = none ∧ s.conn.busid = []) ∧
    ¬ AlwaysSetUp history := by
  have other := run_both.step (.login (Shared.task_act_self ..) rfl)
  have out := other.step (.logout (Shared.task_act_self ..))
  have last : Run threadMachine history _ := out.step (.login rfl rfl)
  refine ⟨⟨_, last, rfl, rfl, rfl, rfl, rfl, rfl⟩, fun setUp => ?_⟩
  obtain ⟨bus, -, complete⟩ := setUp _ _ (List.suffix_refl _) last rfl
  cases complete.accessControl

end ConnectionThreads

end OpenBus
