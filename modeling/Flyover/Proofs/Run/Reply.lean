import Flyover.Proofs.Run.Success

/-! The questions that a run has asked, with their answers, read off its log. -/

namespace Flyover

structure Reply where
  question : Question
  answer : Except Error question.Answer

def Told (l : List Reply) (q : Question) (a : q.Answer) : Prop := l.filter (fun r => r.question = q) = [⟨q, .ok a⟩]

def Call.reply? (peers : Peers) : Call → Option Reply
  | .question q => some ⟨q, peers.answer q⟩
  | _ => none

def replies (peers : List Call → Peers) (before : List Call) : List Call → List Reply
  | [] => []
  | c :: cs => (c.reply? (peers before)).toList ++ replies peers (before ++ [c]) cs

variable (peers : List Call → Peers) (before cs ds : List Call)

lemma replies_append :
    replies peers before (cs ++ ds) = replies peers before cs ++ replies peers (before ++ cs) ds := by
  induction cs generalizing before with
  | nil => simp [replies]
  | cons c cs ih => simp [replies, ih, List.append_assoc]

@[simp] lemma replies_access (a : Access) : replies peers before [.access a] = [] := rfl

lemma question_mem_of_mem_replies {r : Reply} (h : r ∈ replies peers before cs) : .question r.question ∈ cs := by
  induction cs generalizing before with
  | nil => cases h
  | cons c cs ih =>
    rcases List.mem_append.mp h with h | h
    · cases c <;> simp [Call.reply?] at h
      subst h
      exact List.mem_cons_self
    · exact List.mem_cons_of_mem _ (ih _ h)

lemma exists_answer_of_mem_replies {r : Reply} (h : r ∈ replies peers before cs) :
    ∃ calls, r.answer = (peers calls).answer r.question := by
  induction cs generalizing before with
  | nil => cases h
  | cons c cs ih =>
    rcases List.mem_append.mp h with h | h
    · cases c <;> simp [Call.reply?] at h
      subst h
      exact ⟨before, rfl⟩
    · exact ih _ h

namespace Trace

def replies (σ : Surroundings) (t : Trace) : List Reply := Flyover.replies σ.peers [] t.calls

variable {σ : Surroundings} {t t' : Trace}

lemma exists_answer_of_filter {p : Reply → Bool} {r : Reply} (only : (t.replies σ).filter p = [r]) :
    ∃ calls, r.answer = (σ.peers calls).answer r.question := by
  have mem : r ∈ (t.replies σ).filter p := by
    rw [only]
    exact List.mem_singleton_self r
  exact exists_answer_of_mem_replies _ _ _ (List.mem_of_mem_filter mem)

lemma replies_noting_question (q : Question) :
    (t.noting (.question q)).replies σ = t.replies σ ++ [⟨q, (σ.peers t.calls).answer q⟩] :=
  replies_append σ.peers [] t.calls [.question q]

@[simp] lemma replies_start (s : Store) : (start s).replies σ = [] := rfl

@[simp] lemma replies_noting_access (a : Access) : (t.noting (.access a)).replies σ = t.replies σ := by
  rw [replies, calls_noting, replies_append, replies_access, List.append_nil]
  rfl

@[simp] lemma replies_noting_contractAddress : (t.noting .contractAddress).replies σ = t.replies σ := by
  rw [replies, calls_noting, replies_append]
  exact List.append_nil _

lemma replies_of_resume_ask {q : Question} {a : q.Answer} (h : (Run.ask q).resume σ t = ⟨.ok a, t'⟩) :
    t'.replies σ = t.replies σ ++ [⟨q, .ok a⟩] := by
  obtain ⟨answered, rfl⟩ := Run.resume_ask_eq_ok_iff.mp h
  rw [replies_noting_question, answered]

end Trace

end Flyover
