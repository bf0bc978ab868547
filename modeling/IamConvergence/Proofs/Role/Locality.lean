/-
What a step of a role's handler depends on: of the account only its id, its policies and what stands
under the name of the role. In two accounts that agree about these, undisturbed, the step goes the
same way call by call, and reports and leaves the same; only if it creates the role, the id and the
time that were issued differ.
-/
import IamConvergence.Proofs.Account.Refinement
import IamConvergence.Proofs.Role.Removal

namespace IamConvergence

open Account (Effect)

variable {α β : Type}

/-! ## Passes side by side -/

/-- Undisturbed, two passes run to their ends, each from its own account, and what they leave is
related. -/
def Paired (R : α → Account → α → Account → Prop) (p : IamPass α) (a : Account) (p' : IamPass α)
    (b : Account) : Prop :=
  ∃ x a' y b', Proceeds p a (.done x) a' ∧ Proceeds p' b (.done y) b' ∧ R x a' y b'

namespace Paired

variable {R : α → Account → α → Account → Prop} {a a' b b' : Account} {guarded : Bool}
  {resource : String} {q : IamRequest} {next next' : Except Fault q.Answer → IamPass α}

theorem done {x y : α} (h : R x a y b) : Paired R (.done x) a (.done y) b :=
  ⟨x, a, y, b, .refl _ _, .refl _ _, h⟩

/-- Both calls take effect. -/
theorem served {answer answer' : q.Answer} (h : Effect q a answer a') (h' : Effect q b answer' b')
    (rest : Paired R (next (.ok answer)) a' (next' (.ok answer')) b') :
    Paired R (.call guarded resource q next) a (.call guarded resource q next') b := by
  obtain ⟨x, a'', y, b'', hx, hy, hrelated⟩ := rest
  exact ⟨x, a'', y, b'', .served h hx, .served h' hy, hrelated⟩

/-- Both calls are refused. -/
theorem refused {f : Fault} (h : a.effect q = .error f) (h' : b.effect q = .error f)
    (rest : Paired R (next (.error f)) a (next' (.error f)) b) :
    Paired R (.call guarded resource q next) a (.call guarded resource q next') b := by
  obtain ⟨x, a', y, b', hx, hy, hrelated⟩ := rest
  exact ⟨x, a', y, b', .refused h hx, .refused h' hy, hrelated⟩

theorem bind {S : β → Account → β → Account → Prop} {p p' : IamPass β} {f f' : β → IamPass α}
    (h : Paired S p a p' b) (rest : ∀ {x a' y b'}, S x a' y b' → Paired R (f x) a' (f' y) b') :
    Paired R (p.bind f) a (p'.bind f') b := by
  obtain ⟨x, a', y, b', hx, hy, hrelated⟩ := h
  obtain ⟨x', a'', y', b'', hx', hy', hrelated'⟩ := rest hrelated
  exact ⟨x', a'', y', b'', (hx.bind f).trans hx', (hy.bind f').trans hy', hrelated'⟩

end Paired

/-! ## Accounts that agree about a role -/

namespace Account

variable {a b : Account} {name : String} {r s : Role}

/-- Two accounts have the same id and the same policies. -/
structure SamePolicies (a b : Account) : Prop where
  accountId : b.accountId = a.accountId
  policies : b.policies = a.policies

/-- Moreover the same stands under the name of a role, or nothing. -/
structure Agree (name : String) (a b : Account) : Prop extends SamePolicies a b where
  role : b.roles.find? name = a.roles.find? name

/-- Moreover a role stands under a name, with the same policies attached. -/
structure Twin (name : String) (r s : Role) (a b : Account) : Prop extends SamePolicies a b where
  attached : ∃ attached, a.roles.find? name = some ⟨r, attached⟩ ∧
    b.roles.find? name = some ⟨s, attached⟩

/-- The look-ups of the role answer the same. -/
theorem Agree.getRole {e : Option RoleEntry} (h : Agree name a b) (he : a.roles.find? name = e) :
    Effect (.getRole name) a (e.map (·.role)) a ∧ Effect (.getRole name) b (e.map (·.role)) b :=
  ⟨⟨by rw [he], rfl⟩, by rw [h.role, he], rfl⟩

theorem Agree.twin {e : RoleEntry} (h : Agree name a b) (he : a.roles.find? name = some e) :
    Twin name e.role e.role a b :=
  ⟨h.toSamePolicies, e.attached, he, h.role.trans he⟩

namespace SamePolicies

theorem missing_iff (h : SamePolicies a b) {arn : String} : b.Missing arn ↔ a.Missing arn := by
  unfold Missing ownsPolicy
  rw [h.policies, h.accountId]

/-- A draft becomes the same role, up to what is issued. -/
theorem exists_roleOf (h : SamePolicies a b) (d : RoleDraft) :
    ∃ id createdAt, b.roleOf d = { a.roleOf d with id := id, createdAt := createdAt } := by
  refine ⟨(b.roleOf d).id, (b.roleOf d).createdAt, ?_⟩
  unfold roleOf roleArn
  rw [h.accountId]

/-- Entries with the same policies attached are put under a name. -/
theorem putRole (h : SamePolicies a b) (name : String) (r s : Role) (attached : IdSet) :
    Twin name r s (a.putRole name ⟨r, attached⟩) (b.putRole name ⟨s, attached⟩) :=
  ⟨⟨h.accountId, h.policies⟩, attached, find?_putRole a name _, find?_putRole b name _⟩

end SamePolicies

namespace Twin

/-- A request about the attached policies is answered alike. -/
theorem attachmentEffect (h : Twin name r s a b) (q : AttachmentRequest) :
    (∃ answer a' b', Account.attachmentEffect name q a = .ok (answer, a') ∧
        Account.attachmentEffect name q b = .ok (answer, b') ∧ Twin name r s a' b') ∨
      ∃ f, Account.attachmentEffect name q a = .error f ∧
        Account.attachmentEffect name q b = .error f := by
  obtain ⟨attached, he, he'⟩ := h.attached
  -- in either account they are the same finite set
  have hrefusal : b.refusal = a.refusal := funext fun arn => by
    simp only [refusal, h.missing_iff]
  have ha := attachmentEffect_eq he q
  have hb := attachmentEffect_eq he' q
  rw [hrefusal] at hb
  cases hset : IdSet.effect a.refusal q attached with
  | ok x =>
    rw [hset] at ha hb
    exact .inl ⟨_, _, _, ha, hb, h.putRole name r s x.2⟩
  | error f =>
    rw [hset] at ha hb
    exact .inr ⟨f, ha, hb⟩

/-- A pass over the attached policies goes the same way, and leaves the same attached. -/
theorem paired (h : Twin name r s a b) (p : AttachmentPass α) :
    Paired (fun x a' y b' => y = x ∧ Twin name r s a' b') (p.adapt (roleAttachments name)) a
      (p.adapt (roleAttachments name)) b := by
  -- on the pass: the two accounts stay twins call by call
  induction p generalizing a b with
  | done x => exact .done ⟨rfl, h⟩
  | call guarded resource q next ih =>
    rcases h.attachmentEffect q with ⟨answer, a', b', ha, hb, htwin⟩ | ⟨f, ha, hb⟩
    · cases q with
      | list | attach | detach =>
        exact .served (effect_eq_ok_iff.mp ha) (effect_eq_ok_iff.mp hb) (ih _ htwin)
    · cases q with
      | list | attach | detach => exact .refused ha hb (ih _ h)

end Twin

end Account

/-! ## Up to what is issued -/

/-- A report without the id that the account issued. -/
def Report.unissued (report : Report RoleStatus) : Report RoleStatus :=
  { report with status := { report.status with id := "" } }

/-- A role's entry without the id that the account issued and the time of its creation. -/
def RoleEntry.unissued (e : RoleEntry) : RoleEntry :=
  { e with role := { e.role with id := "", createdAt := .ofSecond 0 } }

/-- Two reports are the same; about a role that was missing, up to the id that it was given. -/
def SameReport : Option RoleEntry → Report RoleStatus → Report RoleStatus → Prop
  | none, report, report' => report.unissued = report'.unissued
  | some _, report, report' => report = report'

/-- Two entries are the same; of a role that was missing, up to what was issued for it. -/
def SameEntry : Option RoleEntry → Option RoleEntry → Option RoleEntry → Prop
  | none, e, e' => e.map RoleEntry.unissued = e'.map RoleEntry.unissued
  | some _, e, e' => e = e'

theorem SameReport.refl : ∀ (before : Option RoleEntry) (report : Report RoleStatus),
    SameReport before report report
  | none, _ | some _, _ => rfl

theorem SameEntry.refl : ∀ before e : Option RoleEntry, SameEntry before e e
  | none, _ | some _, _ => rfl

theorem SameEntry.symm : ∀ {before e e' : Option RoleEntry}, SameEntry before e e' →
    SameEntry before e' e
  | none, _, _, h | some _, _, _, h => Eq.symm h

/-! ## Steps of a role's handler -/

/-- What changes a role. -/
inductive RoleOperation where
  | deploy
  | delete
  deriving DecidableEq

/-- The step of the handler. -/
def RoleOperation.step : RoleOperation → RoleHandler → RoleStep
  | .deploy => RoleHandler.deploy
  | .delete => RoleHandler.delete

namespace Account

variable {a : Account} {name document : String} {f : Fault}

/-- A draft with a document that is refused is refused for it, whatever else the account is. -/
theorem effect_createRole_of_error {d : RoleDraft} (hnone : a.roles.find? d.name = none)
    (hrefused : checkDocument d.name "CreateRole" d.trustPolicy = .error f) :
    a.effect (.createRole d) = .error f := by
  have hnew : ¬a.roles.contains d.name = true := Table.not_contains_iff.mpr hnone
  simp only [effect, createRole, if_neg hnew, hrefused]
  rfl

theorem effect_updateTrustPolicy_of_error
    (hrefused : checkDocument name "UpdateAssumeRolePolicy" document = .error f) :
    a.effect (.updateTrustPolicy name document) = .error f := by
  simp only [effect, updateTrustPolicy, hrefused]
  rfl

end Account

namespace RoleHandler

open Account (Agree SamePolicies Twin checkDocument_eq_ok_iff)

variable {h : RoleHandler} {a b : Account} {r s : Role} {before : Option RoleEntry}

/-- Two outcomes of a step are the same, up to what was issued if the role was missing. -/
structure SameOutcome (h : RoleHandler) (before : Option RoleEntry) (report : Report RoleStatus)
    (a : Account) (report' : Report RoleStatus) (b : Account) : Prop where
  report : SameReport before report report'
  entry : SameEntry before (a.roles.find? h.config.name) (b.roles.find? h.config.name)

theorem paired_attachments (htwin : Twin h.config.name r s a b) (desired : List String)
    (status status' : RoleStatus) (hattached : status'.attached = status.attached) :
    Paired (fun o a' o' b' => o' = o ∧ Twin h.config.name r s a' b')
      (h.attachments desired status) a (h.attachments desired status') b := by
  unfold attachments
  rw [hattached]
  exact htwin.paired _

theorem paired_converge (htwin : Twin h.config.name r s a b) {status status' : RoleStatus}
    {created : Bool} (hattached : status'.attached = status.attached)
    (hreport : ∀ o, SameReport before (h.settled status created o) (h.settled status' created o))
    (hentry : ∀ attached, SameEntry before (some ⟨r, attached⟩) (some ⟨s, attached⟩)) :
    Paired (h.SameOutcome before) (h.converge status created) a (h.converge status' created) b := by
  refine (paired_attachments htwin h.config.managedPolicies status status' hattached).bind ?_
  rintro o a' _ b' ⟨rfl, htwin'⟩
  obtain ⟨attached, he, he'⟩ := htwin'.attached
  refine .done ⟨hreport _, ?_⟩
  rw [he, he']
  exact hentry attached

/-- What is reported of a new role, up to its id. -/
theorem settled_unissued (h : RoleHandler) (status : RoleStatus) (created : Bool)
    (o : AttachmentOutcome) :
    (h.settled status created o).unissued = h.settled { status with id := "" } created o := by
  unfold settled
  cases o.fault <;> rfl

/-- A missing role is created as the same, up to what is issued. -/
theorem paired_create (hagree : Agree h.config.name a b)
    (hnone : a.roles.find? h.config.name = none) :
    Paired (h.SameOutcome none) h.deploy a h.deploy b := by
  have hnone' : b.roles.find? h.config.name = none := hagree.role.trans hnone
  obtain ⟨hget, hget'⟩ := hagree.getRole hnone
  refine .served hget hget' ?_
  cases hdocument : Account.checkDocument h.config.name "CreateRole" h.config.trustDocument with
  | error f =>
    refine .refused (Account.effect_createRole_of_error hnone hdocument)
      (Account.effect_createRole_of_error hnone' hdocument) (.done ⟨rfl, ?_⟩)
    rw [hnone, hnone']
    rfl
  | ok u =>
    have hparsed := checkDocument_eq_ok_iff.mp hdocument
    obtain ⟨id, createdAt, hrole⟩ := hagree.exists_roleOf h.draft
    have hcreate : Effect (.createRole h.draft) a (a.roleOf h.draft)
        (a.issued.putRole h.config.name ⟨a.roleOf h.draft, .empty⟩) := ⟨hnone, hparsed, rfl, rfl⟩
    have hcreate' : Effect (.createRole h.draft) b (b.roleOf h.draft)
        (b.issued.putRole h.config.name ⟨b.roleOf h.draft, .empty⟩) := ⟨hnone', hparsed, rfl, rfl⟩
    rw [hrole] at hcreate'
    -- from here on the two roles have the same policies attached, whatever their ids
    have hissued : SamePolicies a.issued b.issued := ⟨hagree.accountId, hagree.policies⟩
    refine .served hcreate hcreate' ?_
    refine paired_converge (hissued.putRole _ _ _ .empty) rfl (fun o => ?_) fun attached => ?_
    · show Report.unissued _ = Report.unissued _
      rw [settled_unissued, settled_unissued]
      rfl
    · rfl

theorem paired_deploy (hagree : Agree h.config.name a b) :
    Paired (h.SameOutcome (a.roles.find? h.config.name)) h.deploy a h.deploy b := by
  cases he : a.roles.find? h.config.name with
  | none => exact paired_create hagree he
  | some e =>
    have he' : b.roles.find? h.config.name = some e := hagree.role.trans he
    obtain ⟨hget, hget'⟩ := hagree.getRole he
    refine .served hget hget' ?_
    dsimp only [Option.map]
    split
    · exact paired_converge (hagree.twin he) rfl (fun _ => rfl) fun _ => rfl
    · cases hdocument : Account.checkDocument h.config.name "UpdateAssumeRolePolicy"
          h.config.trustDocument with
      | error f =>
        refine .refused (Account.effect_updateTrustPolicy_of_error hdocument)
          (Account.effect_updateTrustPolicy_of_error hdocument) (.done ⟨rfl, ?_⟩)
        rw [he, he']
        rfl
      | ok u =>
        have hparsed := checkDocument_eq_ok_iff.mp hdocument
        have hupdate : Effect (.updateTrustPolicy h.config.name h.config.trustDocument) a () _ :=
          ⟨hparsed, e, he, rfl⟩
        have hupdate' : Effect (.updateTrustPolicy h.config.name h.config.trustDocument) b () _ :=
          ⟨hparsed, e, he', rfl⟩
        exact .served hupdate hupdate' (paired_converge (hagree.putRole _ _ _ e.attached) rfl
          (fun _ => rfl) fun _ => rfl)

theorem paired_deleteDetached (htwin : Twin h.config.name r r a b) (status : RoleStatus) :
    Paired (h.SameOutcome before) (h.deleteDetached status) a (h.deleteDetached status) b := by
  obtain ⟨attached, he, he'⟩ := htwin.attached
  cases hempty : attached.isEmpty with
  | true =>
    have hdelete : Effect (.deleteRole h.config.name) a () _ := ⟨_, he, hempty, rfl⟩
    have hdelete' : Effect (.deleteRole h.config.name) b () _ := ⟨_, he', hempty, rfl⟩
    refine .served hdelete hdelete' (.done ⟨.refl _ _, ?_⟩)
    rw [Table.find?_erase_self, Table.find?_erase_self]
    exact .refl _ _
  | false =>
    refine .refused (Account.effect_deleteRole_of_attached he hempty)
      (Account.effect_deleteRole_of_attached he' hempty) (.done ⟨.refl _ _, ?_⟩)
    rw [he, he']
    exact .refl _ _

theorem paired_delete (hagree : Agree h.config.name a b) :
    Paired (h.SameOutcome (a.roles.find? h.config.name)) h.delete a h.delete b := by
  cases he : a.roles.find? h.config.name with
  | none =>
    have he' : b.roles.find? h.config.name = none := hagree.role.trans he
    obtain ⟨hget, hget'⟩ := hagree.getRole he
    refine .served hget hget' (.done ⟨rfl, ?_⟩)
    rw [he, he']
    rfl
  | some e =>
    have he' : b.roles.find? h.config.name = some e := hagree.role.trans he
    obtain ⟨hget, hget'⟩ := hagree.getRole he
    refine .served hget hget' ((paired_attachments (hagree.twin he) [] h.status h.status rfl).bind ?_)
    rintro o a' _ b' ⟨rfl, htwin⟩
    obtain ⟨attached, hrole, hrole'⟩ := htwin.attached
    dsimp only
    split
    · refine .done ⟨rfl, ?_⟩
      rw [hrole, hrole']
      rfl
    · exact paired_deleteDetached htwin _

/-- Undisturbed, a step leaves the same in two accounts that agree about the role. -/
theorem paired_step (p : RoleOperation) (hagree : Agree h.config.name a b) :
    Paired (h.SameOutcome (a.roles.find? h.config.name)) (p.step h) a (p.step h) b := by
  cases p with
  | deploy => exact paired_deploy hagree
  | delete => exact paired_delete hagree

end RoleHandler

end IamConvergence
