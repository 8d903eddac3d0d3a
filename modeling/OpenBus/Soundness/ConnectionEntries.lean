import Mathlib.Data.Set.Card
import OpenBus.Proofs.Contexts

/-! # The entries of the map of connections

A context reaches its connection through the id in one of its slots. Whatever the contexts do about
their connections, an entry of the map is named by the slot of one that is in use. The entries that
nobody names any more come from the slots which an ORB drops: when a request ends, and when a thread
is handed those of a request.
-/

namespace OpenBus

open Machine

/-- The entry that a step leaves without a context. -/
def ServingEvent.lostEntry : ServingEvent → Option Uuid
  | .handed _ _ lost | .ended _ lost => lost
  | _ => none

namespace Contexts

/-- Every entry is named by the slot of a context in use. -/
def EveryKeyHeld (s : Contexts) : Prop :=
  ∀ id, s.orb.id2conn id ≠ none → ∃ context ∈ s.inUse, s.current context = .uuid id

/-- There are then no more entries than contexts. -/
theorem EveryKeyHeld.encard_le {s : Contexts} (held : s.EveryKeyHeld) :
    {id | s.orb.id2conn id ≠ none}.encard ≤ s.inUse.card := by
  let named (context : ℕ) : Uuid := ((s.current context).toUuid?).getD default
  have within : {id | s.orb.id2conn id ≠ none} ⊆ named '' (s.inUse : Set ℕ) := by
    intro id present
    obtain ⟨context, used, current⟩ := held id present
    refine ⟨context, used, ?_⟩
    simp [named, current, Any.toUuid?]
  calc {id | s.orb.id2conn id ≠ none}.encard
      ≤ (named '' (s.inUse : Set ℕ)).encard := Set.encard_le_encard within
    _ ≤ (s.inUse : Set ℕ).encard := Set.encard_image_le named _
    _ = s.inUse.card := Set.encard_coe_eq_coe_finsetCard _

theorem lost_eq_none_iff {s : Contexts} {context : ℕ} :
    s.lost context = none ↔ ∀ id, s.current context = .uuid id → s.orb.id2conn id ≠ none →
      ∃ other ∈ s.inUse, other ≠ context ∧ s.current other = .uuid id := by
  unfold lost
  cases slot : (s.current context).toUuid? with
  | none =>
    simp only [true_iff]
    intro id current
    rw [current] at slot
    cases slot
  | some id =>
    have current := toUuid?_eq_some_iff.mp slot
    simp only [current, Any.uuid.injEq, forall_eq']
    split
    · next fine => exact iff_of_true rfl fun present => fine.resolve_left present
    · next lost =>
      simp only [reduceCtorEq, false_iff]
      push Not at lost
      exact fun elsewhere => absurd (elsewhere lost.1) (by push Not; exact lost.2)

theorem of_lost_eq_some {s : Contexts} {context : ℕ} {id : Uuid}
    (lost : s.lost context = some id) : s.orb.id2conn id ≠ none ∧
      ∀ other ∈ s.inUse, other ≠ context → s.current other ≠ .uuid id := by
  unfold Contexts.lost at lost
  split at lost
  · cases lost
  · split at lost
    · cases lost
    · next named =>
      cases lost
      push Not at named
      exact named

/-- An entry that setting a connection does not drop is named by another context. -/
theorem EveryKeyHeld.of_erased {s : Contexts} (held : s.EveryKeyHeld) {context : ℕ} {id : Uuid}
    (present : (s.view context).erased id ≠ none) :
    ∃ holder ∈ s.inUse, holder ≠ context ∧ s.current holder = .uuid id := by
  obtain ⟨before, foreign⟩ := Orb.erased_ne_none present
  obtain ⟨holder, used, current⟩ := held id before
  refine ⟨holder, used, ?_, current⟩
  rintro rfl
  exact foreign ((currentId_view s holder).mpr current)

/-- So is every entry if a context may drop its slots. -/
theorem EveryKeyHeld.of_lost {s : Contexts} (held : s.EveryKeyHeld) {context : ℕ}
    (kept : s.lost context = none) {id : Uuid} (present : s.orb.id2conn id ≠ none) :
    ∃ holder ∈ s.inUse, holder ≠ context ∧ s.current holder = .uuid id := by
  obtain ⟨holder, used, current⟩ := held id present
  by_cases dropped : holder = context
  · subst dropped
    exact lost_eq_none_iff.mp kept id current present
  · exact ⟨holder, used, dropped, current⟩

/-- What the contexts do about their connections leaves every entry with its context. -/
theorem EveryKeyHeld.context_step {s t : Contexts} {e : ContextEvent} (held : s.EveryKeyHeld)
    (step : ContextStep s e t) : t.EveryKeyHeld := by
  cases step with
  | setDefault conn _ => exact held
  | destroyed ref => exact held
  | other same =>
    simp only [places, Prod.mk.injEq] at same
    obtain ⟨-, -, map, slots, used⟩ := same
    unfold EveryKeyHeld
    rw [map, slots, used]
    exact held
  | @setCurrent context conn fresh here =>
    intro id present
    cases conn with
    | none =>
      rw [Orb.setCurrentConnection_none] at present ⊢
      obtain ⟨holder, used, differ, current⟩ := held.of_erased present
      exact ⟨holder, used, (current_leave_of_ne s differ _).trans current⟩
    | some ref =>
      rw [Orb.setCurrentConnection_some] at present ⊢
      by_cases new : id = fresh
      · subst new
        refine ⟨context, here, ?_⟩
        rw [current_leave_self]
        simp [Orb.setSlot]
      · have kept : (s.view context).erased id ≠ none := by
          simpa [Orb.setSlot, Function.update_of_ne new] using present
        obtain ⟨holder, used, differ, current⟩ := held.of_erased kept
        exact ⟨holder, used, (current_leave_of_ne s differ _).trans current⟩
  | @request context here =>
    intro id present
    rw [ClientInterceptor.getCurrentConnection_snd_eq] at present ⊢
    have slots : (s.leave context { s.view context with
        id2conn := ClientInterceptor.lookedUp (s.view context) }).current = s.current :=
      current_leave_of_kept s rfl
    rw [slots]
    rcases ClientInterceptor.lookedUp_ne_none present with before | own
    · exact held id before
    · exact ⟨context, here, (currentId_view s context).mp own⟩

/-- A step that loses no entry leaves every entry with its context. -/
theorem EveryKeyHeld.step {s t : Contexts} {e : ServingEvent} (held : s.EveryKeyHeld)
    (step : ServingStep s e t) (kept : e.lostEntry = none) : t.EveryKeyHeld := by
  cases step with
  | context step => exact held.context_step step
  | @arrived request new =>
    intro id present
    obtain ⟨holder, used, current⟩ := held id present
    have differ : holder ≠ request := by
      rintro rfl
      exact new used
    refine ⟨holder, Finset.mem_insert_of_mem used, ?_⟩
    rw [← current]
    simp [Contexts.current, Function.update_of_ne differ]
  | @saved request ref id here clear =>
    intro key present
    by_cases new : key = id
    · subst new
      refine ⟨request, here, ?_⟩
      simp [Contexts.current]
    · have before : s.orb.id2conn key ≠ none := by
        simpa [Function.update_of_ne new] using present
      obtain ⟨holder, used, current⟩ := held key before
      have differ : holder ≠ request := by
        rintro rfl
        rw [clear] at current
        cases current
      refine ⟨holder, used, ?_⟩
      rw [← current]
      simp [Contexts.current, Function.update_of_ne differ]
  | @handed source target =>
    intro id present
    obtain ⟨holder, used, apart, current⟩ := held.of_lost kept present
    refine ⟨holder, used, ?_⟩
    rw [← current]
    simp [Contexts.current, Function.update_of_ne apart]
  | ended =>
    intro id present
    obtain ⟨holder, used, apart, current⟩ := held.of_lost kept present
    exact ⟨holder, Finset.mem_erase.mpr ⟨apart, used⟩, current⟩

/-- A step that loses an entry leaves it in the map, without a context. -/
theorem not_everyKeyHeld_of_lost {s t : Contexts} {e : ServingEvent} (step : ServingStep s e t)
    {id : Uuid} (lost : e.lostEntry = some id) : ¬ t.EveryKeyHeld := by
  intro held
  cases step with
  | context step => cases lost
  | arrived new => cases lost
  | saved ref id here clear => cases lost
  | @handed source target used _ differ =>
    obtain ⟨present, others⟩ := of_lost_eq_some lost
    obtain ⟨holder, inUse, current⟩ := held id present
    by_cases dropped : holder = target
    · subst dropped
      apply others source used differ
      rw [← current]
      simp [Contexts.current]
    · apply others holder inUse dropped
      rw [← current]
      simp [Contexts.current, Function.update_of_ne dropped]
  | ended here =>
    obtain ⟨present, others⟩ := of_lost_eq_some lost
    obtain ⟨holder, remains, current⟩ := held id present
    obtain ⟨differ, inUse⟩ := Finset.mem_erase.mp remains
    exact others holder inUse differ current

/-- On the way every entry is that of a context in use, and there are no more of them than
contexts. -/
def AlwaysHeld (history : List ServingEvent) : Prop :=
  ∀ past s, past <:+ history → Run servingMachine past s →
    s.EveryKeyHeld ∧ {id | s.orb.id2conn id ≠ none}.encard ≤ s.inUse.card

theorem everyKeyHeld_of_run {history : List ServingEvent} {s : Contexts}
    (run : Run servingMachine history s) (kept : ∀ e ∈ history, e.lostEntry = none) :
    s.EveryKeyHeld := by
  refine run.invariant_of_always (fun _ s => s.EveryKeyHeld) ?_ ?_
    ((always_iff_forall_mem (fun e => e.lostEntry = none) history).mpr kept)
  · rintro s ⟨⟨connections, alive, fresh⟩, -⟩ id present
    rw [fresh] at present
    exact absurd rfl present
  · rintro past before e t - held kept step
    exact held.step step kept

/-- There is no dead entry in any state of a run exactly if no slots are dropped whose entry is
still in the map and has no other context. -/
theorem alwaysHeld_iff {history : List ServingEvent} {s : Contexts}
    (run : Run servingMachine history s) :
    AlwaysHeld history ↔ ∀ e ∈ history, e.lostEntry = none := by
  constructor
  · intro held e mem
    obtain ⟨later, past, rfl⟩ := List.append_of_mem mem
    have suffix : e :: past <:+ later ++ e :: past := List.suffix_append later _
    obtain ⟨t, through⟩ := run.of_suffix suffix
    have heldThen := (held _ t suffix through).1
    cases through with
    | step before step =>
      cases lost : e.lostEntry with
      | none => rfl
      | some id => exact absurd heldThen (not_everyKeyHeld_of_lost step lost)
  · intro kept past t suffix before
    have held := everyKeyHeld_of_run before fun e mem => kept e (suffix.mem mem)
    exact ⟨held, held.encard_le⟩

namespace Reference

def serving : Contexts := ⟨.init (fun _ => .init ⟨[2]⟩ false) fun _ => true, fun _ _ => .empty, {0}⟩

/-- A request whose connection has been saved. -/
def served : Contexts where
  orb := { serving.orb with
    id2conn := Function.update serving.orb.id2conn (.replicate 16 1) (some (some 0)) }
  slots := Function.update (Function.update serving.slots 1 fun _ => .empty) 1
    (Function.update (fun _ => .empty) .currentConnection (.uuid (.replicate 16 1)))
  inUse := {1, 0}

theorem run_served : Run servingMachine [.saved 1 0, .arrived 1] served := by
  have start : Run servingMachine [] serving := .start ⟨⟨_, _, rfl⟩, fun _ _ => rfl⟩
  have arrived : ServingStep serving (.arrived 1) _ := .arrived (by decide)
  exact (start.step arrived).step (.saved 0 (.replicate 16 1) (by decide) rfl)

theorem unused_served : served.Unused (.replicate 16 2) := by
  refine ⟨by decide, fun context unused => ?_⟩
  by_cases own : context = 1
  · subst own
    revert unused
    decide
  · simp only [current, served, Function.update_of_ne own] at unused
    cases unused

/-- The request has set no connection, or its thread one. -/
def after (context : ℕ) (conn : Option ConnRef) : Contexts :=
  served.leave context ((served.view context).setCurrentConnection (.replicate 16 2) conn)

theorem run_after {context : ℕ} (used : context ∈ served.inUse) (conn : Option ConnRef) :
    Run servingMachine [.context (.setCurrent context conn), .saved 1 0, .arrived 1]
      (after context conn) :=
  run_served.step (.context (.setCurrent conn _ used (fun _ _ => rfl) unused_served))

end Reference

open Reference in
/-- A request that drops the connection of its context before it ends. -/
theorem alwaysHeld_dropped :
    AlwaysHeld [.ended 1 none, .context (.setCurrent 1 none), .saved 1 0, .arrived 1] := by
  have ended := (run_after (by decide) none).step (.ended (show 1 ∈ (after 1 none).inUse by decide))
  rw [show (after 1 none).lost 1 = none by decide +kernel] at ended
  apply (alwaysHeld_iff ended).mpr
  simp [ServingEvent.lostEntry]

open Reference in
/-- A request that is dispatched and ends leaves its entry in the map. -/
theorem entry_outlives_request :
    (∃ s, Run servingMachine [.ended 1 (some (.replicate 16 1)),
        .context (.setCurrent 0 (some 0)), .saved 1 0, .arrived 1] s ∧
      s.orb.id2conn (.replicate 16 1) = some (some 0) ∧
      ∀ context ∈ s.inUse, s.current context ≠ .uuid (.replicate 16 1)) ∧
    ¬ AlwaysHeld [.ended 1 (some (.replicate 16 1)), .context (.setCurrent 0 (some 0)),
      .saved 1 0, .arrived 1] := by
  have ended := (run_after (by decide) (some 0)).step
    (.ended (show 1 ∈ (after 0 (some 0)).inUse by decide))
  rw [show (after 0 (some 0)).lost 1 = some (.replicate 16 1) by decide +kernel] at ended
  have entry : (after 0 (some 0)).orb.id2conn (.replicate 16 1) = some (some 0) := by
    decide +kernel
  have unnamed : ∀ context ∈ (after 0 (some 0)).inUse.erase 1,
      (after 0 (some 0)).current context ≠ .uuid (.replicate 16 1) := by
    decide +kernel
  refine ⟨⟨_, ended, entry, unnamed⟩, fun held => ?_⟩
  have entries := (held _ _ (List.suffix_refl _) ended).1
  have present : (after 0 (some 0)).orb.id2conn (.replicate 16 1) ≠ none :=
    entry.symm ▸ Option.some_ne_none _
  obtain ⟨context, used, current⟩ := entries _ present
  exact unnamed context used current

end Contexts

end OpenBus
