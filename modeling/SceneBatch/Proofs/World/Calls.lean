import SceneBatch.Proofs.World.Maps

/-!
# Calls on a world

What a world went through since it was new, as its callers know it: the operations in the order of
the calls, each with its answer (`WorldLog`). Some calls fail, and entities come and go. What holds
of a new world, and survives every effect and every failure, holds after any calls
(`WorldLog.run_induction`).
-/

namespace SceneBatch

/-- An operation that was called, and what it answered. -/
structure WorldCall where
  step : WorldStep
  answer : Except Fault WorldAnswer

/-- A world, and the calls that it went through since it was new. -/
structure WorldLog (σ : Type) where
  world : WorldOver σ
  calls : List WorldCall

namespace WorldLog

variable {σ : Type} [HandleSupply σ]

/-- Call one more operation. -/
def call (x : WorldLog σ) (s : WorldStep) : WorldLog σ :=
  let (answer, world) := s.perform.outcome x.world
  ⟨world, x.calls ++ [⟨s, answer⟩]⟩

/-- Call operations on a new world, one after the other. -/
def run (steps : List WorldStep) : WorldLog σ := steps.foldl call ⟨.empty, []⟩

theorem call_cases (x : WorldLog σ) (s : WorldStep) :
    (∃ answer w', WorldStep.Effect x.world s answer w' ∧
        x.call s = ⟨w', x.calls ++ [⟨s, .ok answer⟩]⟩) ∨
      ∃ fault, x.call s = ⟨x.world, x.calls ++ [⟨s, .error fault⟩]⟩ := by
  rcases s.perform_cases x.world with ⟨answer, w', houtcome, e⟩ | ⟨fault, houtcome⟩
  · exact .inl ⟨answer, w', e, by rw [call, houtcome]⟩
  · exact .inr ⟨fault, by rw [call, houtcome]⟩

/-- Worlds stay consistent whatever is called, so what effects preserve may rely on that. -/
theorem run_induction {I : WorldLog σ → Prop} (new : I ⟨.empty, []⟩)
    (done : ∀ (x : WorldLog σ) s answer w', x.world.IsConsistent → I x →
      WorldStep.Effect x.world s answer w' → I ⟨w', x.calls ++ [⟨s, .ok answer⟩]⟩)
    (failed : ∀ (x : WorldLog σ) s fault, I x → I ⟨x.world, x.calls ++ [⟨s, .error fault⟩]⟩)
    (steps : List WorldStep) :
    (run steps : WorldLog σ).world.IsConsistent ∧ I (run steps) := by
  induction steps using List.reverseRecOn with
  | nil => exact ⟨.empty, new⟩
  | append_singleton steps s ih =>
      obtain ⟨hconsistent, hinvariant⟩ := ih
      have hrun : (run (steps ++ [s]) : WorldLog σ) = (run steps).call s := List.foldl_concat ..
      rw [hrun]
      rcases (run steps : WorldLog σ).call_cases s with ⟨answer, w', e, hcall⟩ | ⟨fault, hcall⟩
      · rw [hcall]
        exact ⟨hconsistent.effect e, done _ s answer w' hconsistent hinvariant e⟩
      · rw [hcall]
        exact ⟨hconsistent, failed _ s fault hinvariant⟩

end WorldLog

end SceneBatch
