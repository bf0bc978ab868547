/-
No fault is lost. Whatever provider a step of a handler runs against, a fault that is not tolerated is
the last thing that the step is told, and its report carries it. A step that is told of no such fault
reports none, but for a check that finds nothing and versions that cannot come to the desired one.
-/
import IamConvergence.Proofs.Discipline

namespace IamConvergence

/-- A run of a step accounts for every fault. -/
structure Accountable {κ τ : Type} (gone : Bool) (classify : Classifier)
    (excuses : List IamExchange → Fault → Prop)
    (provider : Provider IamRequest IamRequest.Answer τ) (step : IamPass (Report κ)) (r : Run τ) :
    Prop where
  /-- What is answered with a fault that is not tolerated is the last call, and the report carries
  that fault. -/
  carried : ∀ cs c ds f, step.calls provider r = cs ++ c :: ds → c.answer = .error f →
    c.request.tolerates gone f = false →
      ds = [] ∧ (step.run provider r).1.Carries f classify
  /-- A fault that no call was answered with is one that the exchanges excuse. -/
  excused : r.cancelled = false → (∀ c ∈ step.calls provider r, c.reply.cancels = false) →
    (∀ c ∈ step.calls provider r, ∀ f, c.answer = .error f → c.request.tolerates gone f = true) →
      ∀ f, (step.run provider r).1.fault = some f →
        excuses ((step.calls provider r).map Call.exchange) f

variable {κ τ : Type}

/-- The runs of a disciplined step account for every fault. -/
theorem Disciplined.accountable {gone : Bool} {classify : Classifier}
    {excuses : List IamExchange → Fault → Prop} {step : IamPass (Report κ)}
    (h : Disciplined gone classify excuses step [])
    (provider : Provider IamRequest IamRequest.Answer τ) (r : Run τ) :
    Accountable gone classify excuses provider step r where
  carried _ _ _ _ hcalls hanswer hnot := h.ends_of_error provider r hcalls hanswer hnot
  excused hr hquiet hallows := h.closes_of_allows provider r hr hquiet hallows

/-- Against any provider every step of the handlers accounts for every fault. -/
theorem accountable_steps (provider : Provider IamRequest IamRequest.Answer τ) (r : Run τ)
    (role : RoleHandler) (policy : PolicyHandler) :
    (Accountable false role.classify NoExcuse provider role.deploy r ∧
      Accountable false role.classify role.NoRole provider role.checkDeployment r ∧
      Accountable false role.classify NoExcuse provider role.delete r ∧
      Accountable false role.classify NoExcuse provider role.checkDeleted r) ∧
    (Accountable false policy.classify policy.VersionsStuck provider policy.apply r ∧
      Accountable false policy.classify policy.NoPolicy provider policy.checkApplied r ∧
      Accountable true policy.classify NoExcuse provider policy.delete r ∧
      Accountable false policy.classify NoExcuse provider policy.checkDeleted r) :=
  ⟨⟨role.disciplined_deploy.accountable provider r,
      role.disciplined_checkDeployment.accountable provider r,
      role.disciplined_delete.accountable provider r,
      role.disciplined_checkDeleted.accountable provider r⟩,
    ⟨policy.disciplined_apply.accountable provider r,
      policy.disciplined_checkApplied.accountable provider r,
      policy.disciplined_delete.accountable provider r,
      policy.disciplined_checkDeleted.accountable provider r⟩⟩

end IamConvergence
