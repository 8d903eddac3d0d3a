import OpenBus.Proofs.Contexts

/-! # The connection reported and the connection used

`getCurrentConnection` and the interceptor read the same slot and the same map. They part when the
slot has an id that leads to no connection: the one then reports none, and the other goes on to the
default connection. A history of the operations tells when that happens, since what a context finds
in the map is the connection it has set last.
-/

namespace OpenBus

open Machine

/-- The interceptor picks the connection that is reported, and none if none is. -/
def Orb.Agrees (orb : Orb) : Prop :=
  (ClientInterceptor.getCurrentConnection orb).1 = match orb.getCurrentConnection with
    | some ref => .ok ref
    | none => .error (.noPermission noLoginCode)

theorem Orb.agrees_iff (orb : Orb) :
    orb.Agrees ↔ (orb.getCurrentConnection = none → orb.getDefaultConnection = none) := by
  unfold Agrees
  rw [ClientInterceptor.getCurrentConnection_fst]
  cases orb.getCurrentConnection with
  | none =>
    rcases orb.getDefaultConnection with _ | ref <;> simp
  | some ref => simp

namespace Contexts

/-- The connection that a context has set last, if it has ever set one. To set none while there is
nothing in the slot leaves it so. -/
def lastSet : List ContextEvent → ℕ → Option (Option ConnRef)
  | [], _ => none
  | .setCurrent setter none :: past, context =>
      if setter = context then (lastSet past context).map fun _ => none else lastSet past context
  | .setCurrent setter (some ref) :: past, context =>
      if setter = context then some (some ref) else lastSet past context
  | _ :: past, context => lastSet past context

def lastDefault : List ContextEvent → Option ConnRef
  | [] => none
  | .setDefault conn :: _ => conn
  | _ :: past => lastDefault past

/-- A connection that has not been destroyed. -/
def Lives (past : List ContextEvent) (ref : ConnRef) : Prop := .destroyed ref ∉ past

/-- The context has never set a connection, or the one it has set last is still there, or there is
no default connection to fall back to. -/
def Consistent (past : List ContextEvent) (context : ℕ) : Prop :=
  lastSet past context = none ∨ (∃ ref, lastSet past context = some (some ref) ∧ Lives past ref) ∨
    ∀ ref, lastDefault past = some ref → ¬ Lives past ref

/-- A connection that some context, or all of them by default, may still find. -/
def Named (past : List ContextEvent) (ref : ConnRef) : Prop :=
  (∃ context, lastSet past context = some (some ref)) ∨ lastDefault past = some ref

/-- What a history tells about the contexts. -/
structure Told (past : List ContextEvent) (s : Contexts) : Prop where
  distinct : ∀ a b id, s.current a = .uuid id → s.current b = .uuid id → a = b
  unset : ∀ context, lastSet past context = none → s.current context = .empty
  set : ∀ context conn, lastSet past context = some conn → ∃ id, s.current context = .uuid id ∧
    ∀ ref, s.orb.id2conn id = some (some ref) ↔ conn = some ref
  default : s.orb.defConn = lastDefault past
  dead : ∀ ref, .destroyed ref ∈ past → s.orb.alive ref = false
  alive : ∀ ref, Named past ref → Lives past ref → s.orb.alive ref = true

theorem Told.of_init {s : Contexts} (init : contextMachine.Init s) : Told [] s where
  distinct := by
    intro a b id current
    rw [Contexts.current, init.2] at current
    cases current
  unset context _ := init.2 context _
  set := by simp [lastSet]
  default := by
    obtain ⟨⟨connections, alive, fresh⟩, -⟩ := init
    rw [fresh]
    rfl
  dead := by simp
  alive := by simp [Named, lastSet, lastDefault]

/-- A connection just named is alive, and so is one named before that still lives. -/
theorem Told.alive_of {past : List ContextEvent} {s : Contexts} {e : ContextEvent}
    (told : Told past s) {conn : Option ConnRef} (held : s.Held conn)
    (named : ∀ ref, Named (e :: past) ref → Named past ref ∨ conn = some ref) (ref : ConnRef)
    (now : Named (e :: past) ref) (lives : Lives (e :: past) ref) : s.orb.alive ref = true := by
  rcases named ref now with before | given
  · apply told.alive ref before
    exact fun destroyed => lives (List.mem_cons_of_mem _ destroyed)
  · exact held ref given

theorem Told.setDefault {past : List ContextEvent} {s : Contexts} (told : Told past s)
    {conn : Option ConnRef} (held : s.Held conn) :
    Told (.setDefault conn :: past) { s with orb := s.orb.setDefaultConnection conn } where
  distinct := told.distinct
  unset := told.unset
  set := told.set
  default := rfl
  dead := by
    intro ref destroyed
    exact told.dead ref (by simpa using destroyed)
  alive := by
    apply told.alive_of held
    rintro ref (⟨context, last⟩ | given)
    · exact .inl (.inl ⟨context, last⟩)
    · exact .inr given

theorem Told.destroyed {past : List ContextEvent} {s : Contexts} (told : Told past s)
    (ref : ConnRef) :
    Told (.destroyed ref :: past)
      { s with orb := { s.orb with alive := Function.update s.orb.alive ref false } } where
  distinct := told.distinct
  unset := told.unset
  set := told.set
  default := told.default
  dead := by
    intro other destroyed
    by_cases same : other = ref
    · subst same
      exact Function.update_self ..
    · have before : .destroyed other ∈ past := by simpa [same] using destroyed
      exact (Function.update_of_ne same ..).trans (told.dead other before)
  alive := by
    intro other named lives
    have differ : other ≠ ref := by
      rintro rfl
      exact lives List.mem_cons_self
    refine (Function.update_of_ne differ ..).trans (told.alive other named ?_)
    exact fun before => lives (List.mem_cons_of_mem _ before)

/-- A request adds at most an empty entry for the id of its slot. -/
theorem Told.request {past : List ContextEvent} {s : Contexts} (told : Told past s)
    (context : ℕ) :
    Told (.request context :: past)
      (s.leave context (ClientInterceptor.getCurrentConnection (s.view context)).2) := by
  rw [ClientInterceptor.getCurrentConnection_snd_eq]
  have slots (other : ℕ) : (s.leave context { s.view context with
      id2conn := ClientInterceptor.lookedUp (s.view context) }).current other = s.current other :=
    congrFun (current_leave_of_kept s rfl) other
  refine ⟨fun a b id => ?_, fun other last => ?_, fun other conn last => ?_, told.default,
    fun ref destroyed => told.dead ref (by simpa using destroyed), fun ref named lives => ?_⟩
  · rw [slots, slots]
    exact told.distinct a b id
  · rw [slots]
    exact told.unset other last
  · obtain ⟨id, current, entry⟩ := told.set other conn last
    refine ⟨id, (slots other).trans current, fun ref => ?_⟩
    exact ClientInterceptor.lookedUp_eq_some_iff.trans (entry ref)
  · apply told.alive ref named
    exact fun destroyed => lives (List.mem_cons_of_mem _ destroyed)

/-- A context drops the entry of no other one. -/
theorem Told.erased_of_current {past : List ContextEvent} {s : Contexts} (told : Told past s)
    {context other : ℕ} (differ : context ≠ other) {id : Uuid} (current : s.current other = .uuid id) :
    (s.view context).erased id = s.orb.id2conn id := by
  apply Orb.erased_of_ne
  intro own
  exact differ (told.distinct context other id ((currentId_view s context).mp own) current)

/-- Setting none drops the entry of the slot, which keeps its id. -/
theorem Told.setCurrent_none {past : List ContextEvent} {s : Contexts} (told : Told past s)
    (context : ℕ) (fresh : Uuid) :
    Told (.setCurrent context none :: past)
      (s.leave context ((s.view context).setCurrentConnection fresh none)) := by
  rw [Orb.setCurrentConnection_none]
  have slots (other : ℕ) :
      (s.leave context { s.view context with id2conn := (s.view context).erased }).current other =
        s.current other := congrFun (current_leave_of_kept s rfl) other
  have unnamed (ref : ConnRef) (named : Named (.setCurrent context none :: past) ref) :
      Named past ref := by
    rcases named with ⟨other, last⟩ | default
    · rw [lastSet] at last
      split at last
      · rcases before : lastSet past other <;> simp [before] at last
      · exact .inl ⟨other, last⟩
    · exact .inr default
  refine ⟨fun a b id => ?_, fun other last => ?_, fun other conn last => ?_, told.default,
    fun ref destroyed => told.dead ref (by simpa using destroyed), ?_⟩
  · rw [slots, slots]
    exact told.distinct a b id
  · rw [slots]
    apply told.unset
    rw [lastSet] at last
    split at last
    · simpa using last
    · exact last
  · rw [lastSet] at last
    split at last
    · next same =>
      subst same
      obtain ⟨before, earlier, rfl⟩ := Option.map_eq_some_iff.mp last
      obtain ⟨id, current, -⟩ := told.set context before earlier
      refine ⟨id, (slots context).trans current, fun ref => ?_⟩
      have dropped : (s.view context).erased id = none :=
        Orb.erased_self ((currentId_view s context).mpr current)
      simp [dropped]
    · next differ =>
      obtain ⟨id, current, entry⟩ := told.set other conn last
      refine ⟨id, (slots other).trans current, fun ref => ?_⟩
      have kept := told.erased_of_current differ current
      rw [← entry ref, ← kept]
      rfl
  · have held : s.Held none := by simp [Held]
    apply told.alive_of held
    exact fun ref named => .inl (unnamed ref named)

/-- Setting a connection moves the context to a new entry. -/
theorem Told.setCurrent_some {past : List ContextEvent} {s : Contexts} (told : Told past s)
    (context : ℕ) {ref : ConnRef} (held : s.Held (some ref)) {fresh : Uuid}
    (unused : s.Unused fresh) :
    Told (.setCurrent context (some ref) :: past)
      (s.leave context ((s.view context).setCurrentConnection fresh (some ref))) := by
  rw [Orb.setCurrentConnection_some]
  generalize after : s.leave context _ = t
  have own : t.current context = .uuid fresh := by
    rw [← after, current_leave_self]
    simp [Orb.setSlot]
  have others {other : ℕ} (differ : other ≠ context) : t.current other = s.current other := by
    rw [← after]
    exact current_leave_of_ne s differ _
  have map : t.orb.id2conn =
      Function.update (s.view context).erased fresh (some (some ref)) := by
    rw [← after]
    rfl
  refine ⟨fun a b id left right => ?_, fun other last => ?_, fun other conn last => ?_, ?_,
    fun gone destroyed => ?_, ?_⟩
  · by_cases inA : a = context <;> by_cases inB : b = context
    · exact inA.trans inB.symm
    · subst inA
      rw [own] at left
      rw [others inB, ← left] at right
      exact absurd right (unused.2 b)
    · subst inB
      rw [own] at right
      rw [others inA, ← right] at left
      exact absurd left (unused.2 a)
    · rw [others inA] at left
      rw [others inB] at right
      exact told.distinct a b id left right
  · rw [lastSet] at last
    split at last
    · cases last
    · next differ =>
      rw [others (Ne.symm differ)]
      exact told.unset other last
  · rw [lastSet] at last
    split at last
    · next same =>
      subst same
      cases last
      refine ⟨fresh, own, fun found => ?_⟩
      rw [map, Function.update_self]
      simp
    · next differ =>
      obtain ⟨id, current, entry⟩ := told.set other conn last
      refine ⟨id, (others (Ne.symm differ)).trans current, fun found => ?_⟩
      have notFresh : id ≠ fresh := by
        rintro rfl
        exact unused.2 other current
      rw [map, Function.update_of_ne notFresh, told.erased_of_current differ current]
      exact entry found
  · rw [← after]
    exact told.default
  · rw [← after]
    exact told.dead gone (by simpa using destroyed)
  · have alive : t.orb.alive = s.orb.alive := by
      rw [← after]
      rfl
    rw [alive]
    apply told.alive_of held
    rintro given (⟨other, last⟩ | default)
    · rw [lastSet] at last
      split at last
      · cases last
        exact .inr rfl
      · exact .inl (.inl ⟨other, last⟩)
    · exact .inl (.inr default)

theorem Told.other {past : List ContextEvent} {s t : Contexts} (told : Told past s)
    (same : t.places = s.places) : Told (.other :: past) t := by
  simp only [places, Prod.mk.injEq] at same
  obtain ⟨alive, default, map, slots, -⟩ := same
  refine ⟨?_, ?_, ?_, default.trans told.default, fun ref destroyed => ?_, ?_⟩
  · rw [slots]
    exact told.distinct
  · rw [slots]
    exact told.unset
  · rw [slots, map]
    exact told.set
  · rw [alive]
    exact told.dead ref (by simpa using destroyed)
  · rw [alive]
    intro ref named lives
    apply told.alive ref named
    exact fun destroyed => lives (List.mem_cons_of_mem _ destroyed)

theorem told_of_run {history : List ContextEvent} {s : Contexts}
    (run : Run contextMachine history s) : Told history s := by
  refine run.invariant Told (fun s init => .of_init init) ?_
  rintro past s e t - told step
  cases step with
  | setDefault conn held => exact told.setDefault held
  | @setCurrent context conn fresh here held unused =>
    cases conn with
    | none => exact told.setCurrent_none context fresh
    | some ref => exact told.setCurrent_some context held unused
  | destroyed ref => exact told.destroyed ref
  | request here => exact told.request _
  | other same => exact told.other same

theorem Told.lock_eq_none_iff {past : List ContextEvent} {s : Contexts} (told : Told past s)
    {ref : ConnRef} (named : Named past ref) : s.orb.lock (some ref) = none ↔ ¬ Lives past ref := by
  have locked : s.orb.lock (some ref) = none ↔ s.orb.alive ref = false := by
    simp [Orb.lock]
  rw [locked]
  constructor
  · intro gone lives
    rw [told.alive ref named lives] at gone
    cases gone
  · intro destroyed
    exact told.dead ref (not_not.mp destroyed)

/-- In every run, what a context is told is its connection is what its requests go through, exactly
if the connection it has set last is still there or there is no other one to go through. -/
theorem agrees_iff_consistent {history : List ContextEvent} {s : Contexts}
    (run : Run contextMachine history s) (context : ℕ) :
    (s.view context).Agrees ↔ Consistent history context := by
  have told := told_of_run run
  have fallback : (s.view context).getDefaultConnection = none ↔
      ∀ ref, lastDefault history = some ref → ¬ Lives history ref := by
    have named : (s.view context).getDefaultConnection = s.orb.lock (lastDefault history) := by
      rw [← told.default]
      rfl
    rw [named]
    cases last : lastDefault history with
    | none => simp [Orb.lock]
    | some ref =>
      rw [told.lock_eq_none_iff (.inr last)]
      simp
  rw [Orb.agrees_iff, fallback, Orb.getCurrentConnection_eq]
  unfold Consistent
  cases last : lastSet history context with
  | none =>
    -- Nothing has been set: the default connection is reported.
    have unset : (s.view context).currentId = none := by
      change (s.current context).toUuid? = none
      rw [told.unset context last]
      rfl
    rw [unset]
    simp only [true_or, iff_true]
    exact fallback.mp
  | some conn =>
    obtain ⟨id, current, entry⟩ := told.set context conn last
    rw [(currentId_view s context).mpr current]
    have found : ((s.view context).id2conn id).bind (s.view context).lock = s.orb.lock conn := by
      change (s.orb.id2conn id).bind s.orb.lock = _
      cases conn with
      | none =>
        rcases stored : s.orb.id2conn id with _ | _ | ref
        · rfl
        · rfl
        · exact absurd ((entry ref).mp stored) (by simp)
      | some ref =>
        rw [(entry ref).mpr rfl]
        rfl
    dsimp only
    rw [found]
    cases conn with
    | none => simp [Orb.lock]
    | some ref =>
      rw [told.lock_eq_none_iff (.inl ⟨context, last⟩)]
      simp only [Option.some.injEq, reduceCtorEq, false_or, exists_eq_left']
      tauto

namespace Reference

def start : Contexts := ⟨.init (fun _ => .init ⟨[2]⟩ false) fun _ => true, fun _ _ => .empty, {0}⟩

theorem run_start : Run contextMachine [] start := .start ⟨⟨_, _, rfl⟩, fun _ _ => rfl⟩

/-- A context that has set one connection, while another one is the default. -/
def both : Contexts :=
  let s : Contexts := { start with orb := start.orb.setDefaultConnection (some 0) }
  s.leave 0 ((s.view 0).setCurrentConnection (.replicate 16 1) (some 1))

def history : List ContextEvent := [.setCurrent 0 (some 1), .setDefault (some 0)]

theorem run_both : Run contextMachine history both := by
  have default := run_start.step (.setDefault (some 0) fun _ _ => rfl)
  apply default.step
  refine .setCurrent (some 1) (.replicate 16 1) (by decide) (fun _ _ => rfl) ⟨rfl, ?_⟩
  intro context unused
  cases unused

theorem unused_both : both.Unused (.replicate 16 2) := by
  refine ⟨by decide, fun context unused => ?_⟩
  by_cases own : context = 0
  · subst own
    revert unused
    decide
  · rw [both, current_leave_of_ne _ own] at unused
    cases unused

end Reference

open Reference in
theorem agrees_both : (both.view 0).Agrees :=
  (agrees_iff_consistent run_both 0).mpr
    (.inr (.inl ⟨1, rfl, by simp [Lives, Reference.history]⟩))

open Reference in
/-- After setting none, and after the connection set has been destroyed, no connection is reported
while requests go through the default one. -/
theorem reported_none_used_default :
    (∃ s, Run contextMachine (.setCurrent 0 none :: history) s ∧
      (s.view 0).getCurrentConnection = none ∧
      (ClientInterceptor.getCurrentConnection (s.view 0)).1 = .ok 0 ∧ ¬ (s.view 0).Agrees) ∧
    ∃ s, Run contextMachine (.destroyed 1 :: history) s ∧
      (s.view 0).getCurrentConnection = none ∧
      (ClientInterceptor.getCurrentConnection (s.view 0)).1 = .ok 0 ∧ ¬ (s.view 0).Agrees := by
  have cleared : ContextStep both (.setCurrent 0 none) _ :=
    .setCurrent none (.replicate 16 2) (by decide) (by simp [Held]) unused_both
  have destroyed : ContextStep both (.destroyed 1) _ := .destroyed 1
  refine ⟨⟨_, run_both.step cleared, by decide +kernel, by decide +kernel, ?_⟩,
    _, run_both.step destroyed, by decide +kernel, by decide +kernel, ?_⟩
  · rw [Orb.agrees_iff]
    decide +kernel
  · rw [Orb.agrees_iff]
    decide +kernel

end Contexts

end OpenBus
