import Flyover.Error
import Mathlib.Tactic

/-! Errors as trees: a question about an error is a question about its nodes. -/

namespace Flyover.Error

inductive Node : Error → Error → Prop
  | root (e : Error) : Node e e
  | source {n source : Error} (useCase : UseCase) (args : ErrorArgs) (h : Node n source) :
      Node n (inUseCase useCase args source)
  | member {n e : Error} {errors : List Error} (he : e ∈ errors) (h : Node n e) : Node n (nonRecoverable errors)

variable {n e source : Error} {errors : List Error} {useCase : UseCase} {args : ErrorArgs}

lemma node_inUseCase_iff : Node n (inUseCase useCase args source) ↔ n = inUseCase useCase args source ∨ Node n source := by
  constructor
  · rintro (_ | ⟨_, _, h⟩)
    · exact .inl rfl
    · exact .inr h
  · rintro (rfl | h)
    · exact .root _
    · exact .source useCase args h

lemma node_nonRecoverable_iff : Node n (nonRecoverable errors) ↔ n = nonRecoverable errors ∨ ∃ e ∈ errors, Node n e := by
  constructor
  · rintro (_ | _ | ⟨he, h⟩)
    · exact .inl rfl
    · exact .inr ⟨_, he, h⟩
  · rintro (rfl | ⟨e, he, h⟩)
    · exact .root _
    · exact .member he h

mutual

lemma contains_iff (p : Error → Bool) (e : Error) : e.contains p ↔ ∃ n, Node n e ∧ p n := by
  cases e with
  | inUseCase useCase args source =>
    rw [contains, Bool.or_eq_true, contains_iff p source]
    simp [node_inUseCase_iff, or_and_right, exists_or]
  | nonRecoverable errors =>
    rw [contains, Bool.or_eq_true, anyContains_iff p errors]
    simp only [node_nonRecoverable_iff, or_and_right, exists_or, exists_eq_left]
    exact or_congr_right ⟨fun ⟨e, he, n, hn, hp⟩ => ⟨n, ⟨e, he, hn⟩, hp⟩, fun ⟨n, ⟨e, he, hn⟩, hp⟩ => ⟨e, he, n, hn, hp⟩⟩
  | _ =>
    simp only [contains]
    refine ⟨fun h => ⟨_, .root _, h⟩, ?_⟩
    rintro ⟨n, ⟨⟩, h⟩
    exact h

lemma anyContains_iff (p : Error → Bool) (errors : List Error) :
    anyContains p errors ↔ ∃ e ∈ errors, ∃ n, Node n e ∧ p n := by
  match errors with
  | [] => simp [anyContains]
  | e :: errors =>
    rw [anyContains, Bool.or_eq_true, contains_iff p e, anyContains_iff p errors]
    simp

end

lemma isWaitingForBridge_iff : e.isWaitingForBridge ↔ Node waitingForBridge e := by
  rw [isWaitingForBridge, contains_iff]
  constructor
  · rintro ⟨n, hn, hp⟩
    cases n <;> first | exact hn | cases hp
  · exact fun h => ⟨_, h, rfl⟩

lemma Node.orWithin (h : Node n e) (useCase : UseCase) (args : ErrorArgs) : Node n (e.orWithin useCase args) := by
  cases e <;> first | exact h | exact .source useCase args h

lemma exists_orWithin_eq (e : Error) (useCase : UseCase) (args : ErrorArgs) :
    ∃ useCase' args' source, e.orWithin useCase args = inUseCase useCase' args' source := by
  cases e <;> exact ⟨_, _, _, rfl⟩

end Flyover.Error
