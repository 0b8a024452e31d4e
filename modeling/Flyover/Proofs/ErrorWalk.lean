import Flyover.Proofs.ErrorTree

/-! Questions about an error are answered by a walk of its nodes, and what is wrapped around an error changes no answer that
was found in it. -/

namespace Flyover.Error

mutual

/-- The nodes of an error in the order of a walk: a node stands before those that it holds, and these stand from left to
right. -/
def nodes : Error → List Error
  | inUseCase useCase args source => inUseCase useCase args source :: source.nodes
  | nonRecoverable errors => nonRecoverable errors :: nodesOf errors
  | e => [e]

def nodesOf : List Error → List Error
  | [] => []
  | e :: errors => e.nodes ++ nodesOf errors

end

def receipt? : Error → Option Receipt
  | contractReverted _ receipt => receipt
  | _ => none

mutual

lemma contains_eq_any_nodes (p : Error → Bool) (e : Error) : e.contains p = e.nodes.any p := by
  cases e with
  | inUseCase useCase args source => rw [contains, nodes, List.any_cons, contains_eq_any_nodes p source]
  | nonRecoverable errors => rw [contains, nodes, List.any_cons, anyContains_eq_any_nodesOf p errors]
  | _ => simp only [contains, nodes, List.any_cons, List.any_nil, Bool.or_false]

lemma anyContains_eq_any_nodesOf (p : Error → Bool) (errors : List Error) :
    anyContains p errors = (nodesOf errors).any p := by
  match errors with
  | [] => rfl
  | e :: errors =>
    rw [anyContains, nodesOf, List.any_append, contains_eq_any_nodes p e, anyContains_eq_any_nodesOf p errors]

end

mutual

lemma attemptedReceipt?_eq_findSome? (e : Error) : e.attemptedReceipt? = e.nodes.findSome? receipt? := by
  cases e with
  | inUseCase useCase args source =>
    rw [attemptedReceipt?, nodes, List.findSome?_cons_of_isNone rfl, attemptedReceipt?_eq_findSome? source]
  | nonRecoverable errors =>
    rw [attemptedReceipt?, nodes, List.findSome?_cons_of_isNone rfl, firstReceipt?_eq_findSome? errors]
  | contractReverted reason receipt => cases receipt <;> rfl
  | _ => rfl

lemma firstReceipt?_eq_findSome? (errors : List Error) : firstReceipt? errors = (nodesOf errors).findSome? receipt? := by
  match errors with
  | [] => rfl
  | e :: errors =>
    rw [firstReceipt?, nodesOf, List.findSome?_append, attemptedReceipt?_eq_findSome? e, firstReceipt?_eq_findSome? errors]

end

variable {n e e' e'' : Error}

open Classical in
lemma mem_nodes_iff : n ∈ e.nodes ↔ Node n e := by
  -- whether the walk meets a node is itself a question about the error
  have met := contains_eq_any_nodes (fun m => decide (m = n)) e
  rw [Bool.eq_iff_iff, contains_iff, List.any_eq_true] at met
  simpa using met.symm

/-- What is done to an error on its way up: a use case is named, also under arguments or only if none is named yet, or the
error is reported to an operator with others behind it, which may also join a report that is there. -/
inductive Wrapping
  | within (useCase : UseCase)
  | withArgs (useCase : UseCase) (args : ErrorArgs)
  | orWithin (useCase : UseCase) (args : ErrorArgs)
  | reported (others : List Error)
  | joined (others : List Error)

def wrap : Error → Wrapping → Error
  | e, .within useCase => e.within useCase
  | e, .withArgs useCase args => inUseCase useCase args e
  | e, .orWithin useCase args => e.orWithin useCase args
  | nonRecoverable errors, .joined others => nonRecoverable (errors ++ others)
  | e, .reported others | e, .joined others => nonRecoverable (e :: others)

structure Keeps (e e' : Error) : Prop where
  waiting : e.isWaitingForBridge → e'.isWaitingForBridge
  alarming : e.isNonRecoverable → e'.isNonRecoverable
  receipt : ∀ receipt, e.attemptedReceipt? = some receipt → e'.attemptedReceipt? = some receipt

def Leads (e e' : Error) : Prop :=
  ∃ before after, e'.nodes = before ++ e.nodes ++ after ∧ ∀ n ∈ before, n.receipt? = none

namespace Leads

lemma inUseCase (e : Error) (useCase : UseCase) (args : ErrorArgs) : Leads e (inUseCase useCase args e) :=
  ⟨[_], [], by rw [List.append_nil]; rfl, by rintro n (_ | ⟨_, ⟨⟩⟩); rfl⟩

lemma nonRecoverable (e : Error) (others : List Error) : Leads e (nonRecoverable (e :: others)) :=
  ⟨[_], nodesOf others, rfl, by rintro n (_ | ⟨_, ⟨⟩⟩); rfl⟩

lemma contains {p : Error → Bool} (h : Leads e e') (found : e.contains p) : e'.contains p := by
  obtain ⟨before, after, walk, -⟩ := h
  rw [contains_eq_any_nodes] at found ⊢
  rw [walk, List.any_append, List.any_append, found, Bool.or_true, Bool.true_or]

lemma attemptedReceipt? {receipt : Receipt} (h : Leads e e') (found : e.attemptedReceipt? = some receipt) :
    e'.attemptedReceipt? = some receipt := by
  obtain ⟨before, after, walk, clear⟩ := h
  rw [attemptedReceipt?_eq_findSome?] at found ⊢
  rw [walk, List.append_assoc, List.findSome?_append, List.findSome?_eq_none_iff.mpr clear, Option.none_or,
    List.findSome?_append, found, Option.some_or]

lemma keeps (h : Leads e e') : Keeps e e' where
  waiting := h.contains
  alarming := h.contains
  receipt _ := h.attemptedReceipt?

end Leads

lemma nodesOf_append (errors others : List Error) : nodesOf (errors ++ others) = nodesOf errors ++ nodesOf others := by
  induction errors with
  | nil => rfl
  | cons e errors ih => rw [List.cons_append, nodesOf, nodesOf, ih, List.append_assoc]

namespace Keeps

lemma refl (e : Error) : Keeps e e := ⟨id, id, fun _ => id⟩

lemma trans (h : Keeps e e') (h' : Keeps e' e'') : Keeps e e'' where
  waiting found := h'.waiting (h.waiting found)
  alarming found := h'.alarming (h.alarming found)
  receipt receipt found := h'.receipt receipt (h.receipt receipt found)

lemma append (errors others : List Error) : Keeps (nonRecoverable errors) (nonRecoverable (errors ++ others)) where
  waiting := by
    rw [isWaitingForBridge_iff, isWaitingForBridge_iff, node_nonRecoverable_iff, node_nonRecoverable_iff]
    rintro (other | ⟨e, he, met⟩)
    · cases other
    · exact .inr ⟨e, List.mem_append_left others he, met⟩
  alarming _ := by
    rw [isNonRecoverable, contains]
    rfl
  receipt receipt found := by
    rw [attemptedReceipt?, firstReceipt?_eq_findSome?] at found ⊢
    rw [nodesOf_append, List.findSome?_append, found, Option.some_or]

lemma wrap (e : Error) (w : Wrapping) : Keeps e (e.wrap w) := by
  cases w with
  | within useCase => exact (Leads.inUseCase e useCase ∅).keeps
  | withArgs useCase args => exact (Leads.inUseCase e useCase args).keeps
  | orWithin useCase args =>
    cases e with
    | inUseCase => exact refl _
    | _ => exact (Leads.inUseCase _ useCase args).keeps
  | reported others => exact (Leads.nonRecoverable e others).keeps
  | joined others =>
    cases e with
    | nonRecoverable errors => exact append errors others
    | _ => exact (Leads.nonRecoverable _ others).keeps

lemma foldl_wrap (e : Error) (ws : List Wrapping) : Keeps e (ws.foldl Error.wrap e) := by
  induction ws generalizing e with
  | nil => exact refl e
  | cons w ws ih => exact (wrap e w).trans (ih _)

end Keeps

lemma orWithin_orWithin (e : Error) (useCase useCase' : UseCase) (args args' : ErrorArgs) :
    (e.orWithin useCase args).orWithin useCase' args' = e.orWithin useCase args := by
  cases e <;> rfl

/-- A condition is looked for at every node, the receipt is that of the first node that has one, and no number of wrappings
hides what is found. -/
theorem questions_walk_the_tree (e : Error) :
    (∀ n, n ∈ e.nodes ↔ Node n e) ∧
      (∀ p, e.contains p ↔ ∃ n ∈ e.nodes, p n) ∧
      e.attemptedReceipt? = e.nodes.findSome? receipt? ∧
      (∀ ws : List Wrapping, Keeps e (ws.foldl wrap e)) ∧
      ∀ useCase useCase' args args',
        (e.orWithin useCase args).orWithin useCase' args' = e.orWithin useCase args := by
  refine ⟨fun n => mem_nodes_iff, fun p => ?_, attemptedReceipt?_eq_findSome? e, Keeps.foldl_wrap e,
    fun useCase useCase' args args' => orWithin_orWithin e useCase useCase' args args'⟩
  rw [contains_eq_any_nodes, List.any_eq_true]

end Flyover.Error
