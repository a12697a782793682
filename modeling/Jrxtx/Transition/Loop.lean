import Mathlib.Logic.Basic

/-!
# Loops

The body of a loop ends it with a result or goes on in another state.  `loop` evaluates a
loop for a bounded number of rounds, and `LoopsTo` says with which result it ends at all:
it has at most one, it has one if a variant decreases, and it has none if an invariant keeps
it going.
-/

namespace Jrxtx.Transition

universe u v

variable {State : Type u} {Result : Type v}

/-- The result of a loop, if at most `fuel` rounds lead to it. -/
def loop (body : State → Except Result State) : (fuel : Nat) → State → Option Result
  | 0, _ => none
  | fuel + 1, state =>
      match body state with
      | .error result => some result
      | .ok next => loop body fuel next

/-- The loop ends with the result. -/
def LoopsTo (body : State → Except Result State) (state : State) (result : Result) : Prop :=
  ∃ fuel, loop body fuel state = some result

variable {body : State → Except Result State} {state next : State} {result other : Result}

theorem loop_of_error (ends : body state = .error result) (fuel : Nat) :
    loop body (fuel + 1) state = some result := by
  rw [loop, ends]

theorem loop_of_ok (goesOn : body state = .ok next) (fuel : Nat) :
    loop body (fuel + 1) state = loop body fuel next := by
  rw [loop, goesOn]

/-- More fuel changes nothing. -/
theorem loop_mono {fuel more : Nat} (ends : loop body fuel state = some result)
    (le : fuel ≤ more) : loop body more state = some result := by
  induction fuel generalizing state more with
  | zero => simp [loop] at ends
  | succ fuel ih =>
      obtain ⟨more, rfl⟩ := Nat.exists_eq_add_one.mpr (Nat.lt_of_lt_of_le fuel.succ_pos le)
      cases round : body state with
      | error early => rw [loop_of_error round, ← ends, loop_of_error round]
      | ok next =>
          rw [loop_of_ok round] at ends ⊢
          exact ih ends (Nat.le_of_succ_le_succ le)

namespace LoopsTo

/-- A loop that ends does so with a bounded number of rounds. -/
theorem of_loop {fuel : Nat} (ends : loop body fuel state = some result) :
    LoopsTo body state result :=
  ⟨fuel, ends⟩

theorem of_error (ends : body state = .error result) : LoopsTo body state result :=
  ⟨1, loop_of_error ends 0⟩

theorem unique (one : LoopsTo body state result) (two : LoopsTo body state other) :
    result = other := by
  obtain ⟨fuel, ends⟩ := one
  obtain ⟨fuel', ends'⟩ := two
  have both := (loop_mono ends (Nat.le_max_left fuel fuel')).symm.trans
    (loop_mono ends' (Nat.le_max_right fuel fuel'))
  exact Option.some.inj both

/-- Partial correctness: an invariant of the rounds decides what the loop ends with. -/
theorem of_invariant (invariant : State → Prop) (post : Result → Prop)
    (ends : LoopsTo body state result) (initial : invariant state)
    (keeps : ∀ state next, invariant state → body state = .ok next → invariant next)
    (exits : ∀ state result, invariant state → body state = .error result → post result) :
    post result := by
  obtain ⟨fuel, ends⟩ := ends
  induction fuel generalizing state with
  | zero => simp [loop] at ends
  | succ fuel ih =>
      cases round : body state with
      | error early =>
          rw [loop_of_error round] at ends
          obtain rfl := Option.some.inj ends
          exact exits state early initial round
      | ok next =>
          rw [loop_of_ok round] at ends
          exact ih (keeps state next initial round) ends

end LoopsTo

/-- A loop ends if every round that goes on keeps an invariant and decreases a variant; fuel
above the variant suffices. -/
theorem exists_loop_of_variant (invariant : State → Prop) (variant : State → Nat)
    (initial : invariant state)
    (keeps : ∀ state next, invariant state → body state = .ok next →
      invariant next ∧ variant next < variant state)
    {fuel : Nat} (enough : variant state < fuel) :
    ∃ result, loop body fuel state = some result := by
  induction fuel generalizing state with
  | zero => simp at enough
  | succ fuel ih =>
      cases round : body state with
      | error result => exact ⟨result, loop_of_error round fuel⟩
      | ok next =>
          obtain ⟨kept, smaller⟩ := keeps state next initial round
          rw [loop_of_ok round]
          exact ih kept (Nat.lt_of_lt_of_le smaller (Nat.le_of_lt_succ enough))

/-- Total correctness: the loop ends, and with what the invariant says. -/
theorem exists_loop_post (invariant : State → Prop) (variant : State → Nat)
    (post : Result → Prop) (initial : invariant state)
    (keeps : ∀ state next, invariant state → body state = .ok next →
      invariant next ∧ variant next < variant state)
    (exits : ∀ state result, invariant state → body state = .error result → post result)
    {fuel : Nat} (enough : variant state < fuel) :
    ∃ result, loop body fuel state = some result ∧ post result := by
  obtain ⟨result, ends⟩ := exists_loop_of_variant invariant variant initial keeps enough
  have kept (state next : State) (holds : invariant state) (round : body state = .ok next) :
      invariant next :=
    (keeps state next holds round).1
  exact ⟨result, ends, (LoopsTo.of_loop ends).of_invariant invariant post initial kept exits⟩

/-- A loop does not end if an invariant makes every round go on. -/
theorem not_loopsTo (invariant : State → Prop) (initial : invariant state)
    (keeps : ∀ state, invariant state → ∃ next, body state = .ok next ∧ invariant next) :
    ¬LoopsTo body state result := by
  intro ends
  refine ends.of_invariant invariant (fun _ => False) initial ?_ ?_
  · intro state next holds round
    obtain ⟨other, goesOn, kept⟩ := keeps state holds
    obtain rfl := Except.ok.inj (round.symm.trans goesOn)
    exact kept
  · intro state result holds round
    obtain ⟨next, goesOn, -⟩ := keeps state holds
    simp [goesOn] at round

end Jrxtx.Transition
