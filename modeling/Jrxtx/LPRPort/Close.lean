import Jrxtx.Transition.System
import Mathlib.Data.List.Basic

/-!
# Closing a parallel port

`nativeClose` closes the descriptor in the field `fd`.  `close()` returns early for a negative
`fd`, and leaves 0 in it.  A listener may call `close()` from within `super.close()`, and
`super.close()` may throw; the descriptor stays in the field then.
-/

namespace Jrxtx.LPRPort

open Transition

/-- The life of an `LPRPort`: the descriptor that `open` has returned, if it has not thrown,
the field `fd`, how many calls of `close()` are in `super.close()`, the descriptors that
`nativeClose` has been called with, and whether `finalize()` has been called. -/
structure Life where
  opened : Option Int
  fd : Int
  closing : Nat
  nativeClosed : List Int
  finalized : Bool
  deriving DecidableEq, Repr

/-- What happens to a port: a call of `close()` up to `super.close()`, which then returns or
throws, the finalization, and every other call. -/
inductive Step where
  | close
  | superCloseReturns
  | superCloseThrows
  | finalize
  | otherCall
  deriving DecidableEq, Repr

namespace Life

/-- A new port; the field is still zero if `open` throws. -/
def start (opened : Option Int) : Life where
  opened := opened
  fd := opened.getD 0
  closing := 0
  nativeClosed := []
  finalized := false

variable (life : Life)

/-- `close()` up to `super.close()`. -/
def close : Life :=
  if life.fd < 0 then life
  else { life with nativeClosed := life.nativeClosed ++ [life.fd], closing := life.closing + 1 }

/-- A step; nobody has a port whose `open` has thrown, and a port is finalized once, when no
call is in it. -/
def step : Step → Option Life
  | .close => if life.opened.isSome then some life.close else none
  | .superCloseReturns =>
      if 0 < life.closing then some { life with fd := 0, closing := life.closing - 1 } else none
  | .superCloseThrows =>
      if 0 < life.closing then some { life with closing := life.closing - 1 } else none
  | .finalize =>
      if life.closing = 0 ∧ life.finalized = false then
        some { (if life.fd > 0 then life.close else life) with finalized := true }
      else none
  | .otherCall => if life.opened.isSome then some life else none

/-- `nativeClose` has been called at most once, and with the descriptor of this port. -/
def ClosesOwn : Prop :=
  life.nativeClosed = [] ∨ ∃ fd, life.opened = some fd ∧ life.nativeClosed = [fd]

end Life

/-- The lives of the ports. -/
def lives : System Life Step where
  start life := ∃ opened : Option Int, (∀ fd ∈ opened, 0 ≤ fd) ∧ life = .start opened
  step := Life.step

/-- The second of two steps in the life of a port does not close it once more. -/
def Apart (opened : Int) (one another : Step) : Prop :=
  ¬(one = .close ∧ another = .close) ∧
    (0 < opened →
      ¬(one = .finalize ∧ another = .close) ∧ ¬(one = .superCloseThrows ∧ another = .finalize))

instance (opened : Int) (one another : Step) : Decidable (Apart opened one another) :=
  inferInstanceAs (Decidable (_ ∧ _))

/-! ## Phases -/

/-- How far a port with the descriptor `opened` has got while it has been closed at most once:
it is open, in `super.close()`, closed, or `super.close()` has thrown. -/
inductive Phase where
  | untouched
  | closing
  | closed
  | thrown
  deriving DecidableEq, Repr

/-- The port in a phase. -/
def Phase.life (opened : Int) (finalized : Bool) : Phase → Life
  | .untouched => ⟨some opened, opened, 0, [], finalized⟩
  | .closing => ⟨some opened, opened, 1, [opened], finalized⟩
  | .closed => ⟨some opened, 0, 0, [opened], finalized⟩
  | .thrown => ⟨some opened, opened, 0, [opened], finalized⟩

/-- The steps that are left do not close the port once more. -/
def Harmless (opened : Int) (phase : Phase) (steps : List Step) : Prop :=
  steps.Pairwise (Apart opened) ∧ (phase ≠ .untouched → .close ∉ steps) ∧
    (phase = .thrown → 0 < opened → .finalize ∉ steps)

/-- The phase after a step; `none` if it closes the port once more. -/
def Phase.after (opened : Int) : Phase → Step → Option Phase
  | .untouched, .close => some .closing
  | _, .close => none
  | .closing, .superCloseReturns => some .closed
  | .closing, .superCloseThrows => some .thrown
  | .untouched, .finalize => if 0 < opened then some .closing else some .untouched
  | .thrown, .finalize => if 0 < opened then none else some .thrown
  | phase, _ => some phase

section Phases

variable {life next final : Life} {opened : Int} {phase : Phase} {label : Step}
  {labels : List Step} {finalized : Bool}

theorem close_nativeClosed (life : Life) :
    life.close.nativeClosed = life.nativeClosed ∨
      life.close.nativeClosed = life.nativeClosed ++ [life.fd] := by
  unfold Life.close
  split
  · exact .inl rfl
  · exact .inr rfl

/-- A step closes at most one descriptor more. -/
theorem nativeClosed_of_step (stepped : life.step label = some next) :
    next.nativeClosed = life.nativeClosed ∨
      next.nativeClosed = life.nativeClosed ++ [life.fd] := by
  cases label with
  | close =>
      rw [Life.step, Option.ite_none_right_eq_some] at stepped
      exact Option.some.inj stepped.2 ▸ close_nativeClosed life
  | superCloseReturns =>
      rw [Life.step, Option.ite_none_right_eq_some] at stepped
      exact .inl (Option.some.inj stepped.2 ▸ rfl)
  | superCloseThrows =>
      rw [Life.step, Option.ite_none_right_eq_some] at stepped
      exact .inl (Option.some.inj stepped.2 ▸ rfl)
  | finalize =>
      rw [Life.step, Option.ite_none_right_eq_some] at stepped
      obtain rfl := Option.some.inj stepped.2
      simp only
      split
      · exact close_nativeClosed life
      · exact .inl rfl
  | otherCall =>
      rw [Life.step, Option.ite_none_right_eq_some] at stepped
      exact .inl (Option.some.inj stepped.2 ▸ rfl)

/-- What has been closed twice stays so. -/
theorem not_closesOwn_of_two (twice : 2 ≤ life.nativeClosed.length)
    (ran : lives.run life labels = some final) : ¬final.ClosesOwn := by
  induction labels generalizing life with
  | nil =>
      obtain rfl := Option.some.inj ran
      rintro (none | ⟨fd, -, once⟩)
      · simp [none] at twice
      · simp [once] at twice
  | cons label labels ih =>
      obtain ⟨next, stepped, later⟩ := System.run_cons.mp ran
      refine ih ?_ later
      rcases nativeClosed_of_step stepped with same | more
      · rwa [same]
      · simp only [more, List.length_append]
        omega

/-- A step leads to the next phase, or closes the port once more. -/
theorem step_life (nonneg : 0 ≤ opened)
    (stepped : (phase.life opened finalized).step label = some next) :
    match phase.after opened label with
    | some after => ∃ finalized, next = after.life opened finalized
    | none => 2 ≤ next.nativeClosed.length := by
  have valid : ¬opened < 0 := Int.not_lt.mpr nonneg
  cases label with
  | close =>
      obtain rfl : (phase.life opened finalized).close = next := by
        cases phase <;> simpa [Life.step, Phase.life] using stepped
      cases phase with
      | untouched => exact ⟨finalized, by simp [Phase.life, Life.close, valid]⟩
      | closing => simp [Phase.after, Phase.life, Life.close, valid]
      | closed => simp [Phase.after, Phase.life, Life.close]
      | thrown => simp [Phase.after, Phase.life, Life.close, valid]
  | superCloseReturns =>
      cases phase <;> simp [Life.step, Phase.life] at stepped
      exact ⟨finalized, stepped.symm⟩
  | superCloseThrows =>
      cases phase <;> simp [Life.step, Phase.life] at stepped
      exact ⟨finalized, stepped.symm⟩
  | finalize =>
      rw [Life.step, Option.ite_none_right_eq_some] at stepped
      obtain ⟨⟨idle, -⟩, stepped⟩ := stepped
      obtain rfl := Option.some.inj stepped
      by_cases closes : 0 < opened
      · cases phase with
        | untouched => simp [Phase.after, closes, Phase.life, Life.close, valid]
        | closing => simp [Phase.life] at idle
        | closed => exact ⟨true, by simp [Phase.life]⟩
        | thrown => simp [Phase.after, closes, Phase.life, Life.close, valid]
      · cases phase with
        | untouched => simp [Phase.after, closes, Phase.life]
        | closing => simp [Phase.life] at idle
        | closed => exact ⟨true, by simp [Phase.life]⟩
        | thrown => simp [Phase.after, closes, Phase.life]
  | otherCall =>
      obtain rfl : phase.life opened finalized = next := by
        cases phase <;> simpa [Life.step, Phase.life] using stepped
      cases phase <;> exact ⟨finalized, rfl⟩

/-- What is left of a harmless run after a step. -/
theorem harmless_cons_iff (stepped : (phase.life opened finalized).step label = some next) :
    Harmless opened phase (label :: labels) ↔
      ∃ after, phase.after opened label = some after ∧ Harmless opened after labels := by
  simp only [Harmless, List.pairwise_cons, Apart, List.mem_cons, not_or]
  cases label with
  | close =>
      cases phase with
      | untouched =>
          simp [Phase.after]
          grind
      | closing => simp [Phase.after]
      | closed => simp [Phase.after]
      | thrown => simp [Phase.after]
  | superCloseReturns =>
      cases phase <;> simp [Life.step, Phase.life] at stepped
      simp [Phase.after]
  | superCloseThrows =>
      cases phase <;> simp [Life.step, Phase.life] at stepped
      simp [Phase.after]
      grind
  | finalize =>
      have idle : phase ≠ .closing := by
        rintro rfl
        simp [Life.step, Phase.life] at stepped
      by_cases closes : 0 < opened
      · cases phase with
        | untouched =>
            simp [Phase.after, closes]
            grind
        | closing => exact absurd rfl idle
        | closed =>
            simp [Phase.after, closes]
            grind
        | thrown => simp [Phase.after, closes]
      · cases phase with
        | untouched => simp [Phase.after, closes]
        | closing => exact absurd rfl idle
        | closed => simp [Phase.after, closes]
        | thrown => simp [Phase.after, closes]
  | otherCall => cases phase <;> simp [Phase.after]

theorem life_closesOwn (opened : Int) (finalized : Bool) (phase : Phase) :
    (phase.life opened finalized).ClosesOwn := by
  cases phase with
  | untouched => exact .inl rfl
  | closing => exact .inr ⟨opened, rfl, rfl⟩
  | closed => exact .inr ⟨opened, rfl, rfl⟩
  | thrown => exact .inr ⟨opened, rfl, rfl⟩

theorem closesOwn_iff_harmless (nonneg : 0 ≤ opened)
    (ran : lives.run (phase.life opened finalized) labels = some final) :
    final.ClosesOwn ↔ Harmless opened phase labels := by
  induction labels generalizing phase finalized with
  | nil =>
      obtain rfl := Option.some.inj ran
      exact iff_of_true (life_closesOwn opened finalized phase)
        ⟨.nil, fun _ => List.not_mem_nil, fun _ _ => List.not_mem_nil⟩
  | cons label labels ih =>
      obtain ⟨next, stepped, later⟩ := System.run_cons.mp ran
      have reached := step_life nonneg stepped
      rw [harmless_cons_iff stepped]
      cases isAfter : phase.after opened label with
      | none =>
          rw [isAfter] at reached
          exact iff_of_false (not_closesOwn_of_two reached later) (by simp)
      | some after =>
          rw [isAfter] at reached
          obtain ⟨finalized, rfl⟩ := reached
          simpa using ih later

/-- A port whose `open` has thrown is finalized at most, and nothing is closed. -/
theorem failed_run (ran : lives.run ⟨none, 0, 0, [], finalized⟩ labels = some final) :
    final.nativeClosed = [] ∧ ∀ label ∈ labels, label = .finalize := by
  induction labels generalizing finalized with
  | nil =>
      obtain rfl := Option.some.inj ran
      exact ⟨rfl, by simp⟩
  | cons label labels ih =>
      obtain ⟨next, stepped, later⟩ := System.run_cons.mp ran
      cases label with
      | close => simp [lives, Life.step] at stepped
      | superCloseReturns => simp [lives, Life.step] at stepped
      | superCloseThrows => simp [lives, Life.step] at stepped
      | finalize =>
          simp only [lives, Life.step, Option.ite_none_right_eq_some] at stepped
          obtain rfl := Option.some.inj stepped.2
          obtain ⟨nothing, only⟩ := ih later
          exact ⟨nothing, by simpa using only⟩
      | otherCall => simp [lives, Life.step] at stepped

/-- In every run, `nativeClose` is called at most once and with the descriptor of the port,
exactly if no two steps of the run close the port twice. -/
theorem closesOwn_iff {opened : Option Int} (nonneg : ∀ fd ∈ opened, 0 ≤ fd)
    (ran : lives.run (.start opened) labels = some final) :
    final.ClosesOwn ↔ labels.Pairwise (Apart (opened.getD 0)) := by
  cases opened with
  | none =>
      obtain ⟨nothing, only⟩ := failed_run ran
      refine iff_of_true (.inl nothing) (List.pairwise_of_forall_mem_list ?_)
      intro one isFirst another _
      simp [Apart, only one isFirst]
  | some opened =>
      have ran : lives.run (Phase.untouched.life opened false) labels = some final := ran
      rw [closesOwn_iff_harmless (nonneg opened rfl) ran]
      simp [Harmless]

end Phases

/-- A port that is closed, and finalized afterwards. -/
theorem closesOwn_iff_closed :
    (∃ final, lives.run (.start (some 3)) [.otherCall, .close, .superCloseReturns, .finalize] =
        some final ∧ final.nativeClosed = [3] ∧
      (final.ClosesOwn ↔
        [Step.otherCall, .close, .superCloseReturns, .finalize].Pairwise (Apart 3))) :=
  ⟨_, rfl, rfl, @closesOwn_iff _ _ (some 3) (by simp) rfl⟩

/-- A second `close()` closes the standard input of the process. -/
theorem second_close_closes_zero :
    ∃ final,
      lives.run (.start (some 3)) [.close, .superCloseReturns, .close, .superCloseReturns] =
          some final ∧
        final.nativeClosed = [3, 0] ∧ ¬final.ClosesOwn :=
  ⟨_, rfl, rfl, @not_closesOwn_of_two _ _ [] (by decide) rfl⟩

end Jrxtx.LPRPort
