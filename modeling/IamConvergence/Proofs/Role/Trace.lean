/-
How the steps of a role's handler may go, against any provider: the rules tell the calls that are
made, in order, and the report that they leave. What a pass over the attached policies makes is told
by the rules of such a pass, under the names that its calls have about a role.
-/
import IamConvergence.Iam.RoleHandler
import IamConvergence.Proofs.Account.Adapters

namespace IamConvergence.RoleHandler

open Pass (Asked)

variable {σ : Type}

/-- A pass over the attached policies goes as the rules say. -/
theorem exists_reconciled (provider : Provider IamRequest IamRequest.Answer σ) (h : RoleHandler)
    (desired : List String) (status : RoleStatus) (r : Run σ) :
    ∃ cs o r', Attachment.Reconciled h.config.name desired status.attached r.cancelled cs o ∧
      (h.attachments desired status).run provider r = (o, r') ∧
      (h.attachments desired status).calls provider r =
        cs.map (AttachmentCall.onRole h.config.name) := by
  let members := attachmentsOf provider h.config.name
  let pass := Attachment.reconcile h.config.name desired status.attached
  have hrealizes := realizes_roleAttachments provider h.config.name
  refine ⟨pass.calls members r, (pass.run members r).1, (pass.run members r).2, ?_, ?_, ?_⟩
  · exact Attachment.reconciled members h.config.name desired status.attached r
  · exact Pass.run_adapt hrealizes pass r
  · exact Pass.calls_adapt hrealizes (renames_roleAttachments provider h.config.name) pass r

/-! ## Deploying -/

/-- What is reported once the attached policies of a role that exists were gone through. -/
def settled (h : RoleHandler) (status : RoleStatus) (created : Bool) (o : AttachmentOutcome) :
    Report RoleStatus :=
  .settle { status with attached := o.attached.toList } o.fault (deployDetails status created o)
    h.classify

theorem settled_status (h : RoleHandler) (status : RoleStatus) (created : Bool)
    (o : AttachmentOutcome) :
    (h.settled status created o).status = { status with attached := o.attached.toList } :=
  Report.settle_status ..

/-- How the attached policies of a role that exists may be brought to the configured ones: the
status so far, whether the role is new, whether a cancellation has arrived, the calls that are made
and the report. -/
inductive Converging (h : RoleHandler) (status : RoleStatus) (created cancelled : Bool) :
    List (IamCall σ) → Report RoleStatus → Prop where
  | settled {cs : List (AttachmentCall σ)} {o : AttachmentOutcome}
    (attachments : Attachment.Reconciled h.config.name h.config.managedPolicies status.attached
      cancelled cs o) :
    Converging h status created cancelled (cs.map (AttachmentCall.onRole h.config.name))
      (h.settled status created o)

/-- How a deployment may go: whether a cancellation has arrived, the calls that are made and the
report. -/
inductive Deployed (h : RoleHandler) : Bool → List (IamCall σ) → Report RoleStatus → Prop where
  | unread {cancelled cancelled' : Bool} {gs : List (IamCall σ)} {f : Fault}
    (get : Asked h.config.name (.getRole h.config.name) cancelled gs (.error f) cancelled') :
    Deployed h cancelled gs (h.fail h.status f)
  | uncreated {cancelled cancelled' cancelled'' : Bool} {gs ns : List (IamCall σ)} {f : Fault}
    (get : Asked h.config.name (.getRole h.config.name) cancelled gs (.ok none) cancelled')
    (create : Asked h.config.name (.createRole h.draft) cancelled' ns (.error f) cancelled'') :
    Deployed h cancelled (gs ++ ns) (h.fail h.status f)
  | created {cancelled cancelled' cancelled'' : Bool} {gs ns cs : List (IamCall σ)} {role : Role}
    {report : Report RoleStatus}
    (get : Asked h.config.name (.getRole h.config.name) cancelled gs (.ok none) cancelled')
    (create : Asked h.config.name (.createRole h.draft) cancelled' ns (.ok role) cancelled'')
    (converging : Converging h { h.status.identify role with attached := [] } true cancelled'' cs
      report) :
    Deployed h cancelled (gs ++ (ns ++ cs)) report
  | kept {cancelled cancelled' : Bool} {gs cs : List (IamCall σ)} {role : Role}
    {report : Report RoleStatus}
    (get : Asked h.config.name (.getRole h.config.name) cancelled gs (.ok (some role)) cancelled')
    (same : documentsEqual role.trustPolicy h.config.trustDocument = true)
    (converging : Converging h (h.status.identify role) false cancelled' cs report) :
    Deployed h cancelled (gs ++ cs) report
  | unupdated {cancelled cancelled' cancelled'' : Bool} {gs ns : List (IamCall σ)} {role : Role}
    {f : Fault}
    (get : Asked h.config.name (.getRole h.config.name) cancelled gs (.ok (some role)) cancelled')
    (drifted : documentsEqual role.trustPolicy h.config.trustDocument = false)
    (update : Asked h.config.name (.updateTrustPolicy h.config.name h.config.trustDocument)
      cancelled' ns (.error f) cancelled'') :
    Deployed h cancelled (gs ++ ns) (h.fail (h.status.identify role) f)
  | updated {cancelled cancelled' cancelled'' : Bool} {gs ns cs : List (IamCall σ)} {role : Role}
    {report : Report RoleStatus}
    (get : Asked h.config.name (.getRole h.config.name) cancelled gs (.ok (some role)) cancelled')
    (drifted : documentsEqual role.trustPolicy h.config.trustDocument = false)
    (update : Asked h.config.name (.updateTrustPolicy h.config.name h.config.trustDocument)
      cancelled' ns (.ok ()) cancelled'')
    (converging : Converging h (h.status.identify role) false cancelled'' cs report) :
    Deployed h cancelled (gs ++ (ns ++ cs)) report

theorem converging (provider : Provider IamRequest IamRequest.Answer σ) (h : RoleHandler)
    (status : RoleStatus) (created : Bool) (r : Run σ) :
    Converging h status created r.cancelled ((h.converge status created).calls provider r)
      ((h.converge status created).run provider r).1 := by
  obtain ⟨cs, o, r', hreconciled, hrun, hcalls⟩ :=
    exists_reconciled provider h h.config.managedPolicies status r
  unfold converge
  rw [Pass.calls_map, Pass.run_map, hrun, hcalls]
  exact .settled hreconciled

/-- A deployment goes as the rules say. -/
theorem deployed (provider : Provider IamRequest IamRequest.Answer σ) (h : RoleHandler)
    (r : Run σ) :
    Deployed h r.cancelled (h.deploy.calls provider r) (h.deploy.run provider r).1 := by
  unfold deploy lookUp
  obtain ⟨gs, answer, r', hget, -, hrun, hcalls⟩ := Pass.exists_asked provider h.config.name
    (.getRole h.config.name) _ r
  rw [hrun, hcalls]
  rcases answer with f | _ | role
  · rw [Pass.calls_done, List.append_nil]
    exact .unread hget
  · obtain ⟨ns, answer, r'', hcreate, -, hrun, hcalls⟩ := Pass.exists_asked provider h.config.name
      (.createRole h.draft) _ r'
    rw [hrun, hcalls]
    rcases answer with f | role
    · rw [Pass.calls_done, List.append_nil]
      exact .uncreated hget hcreate
    · exact .created hget hcreate (converging provider h _ true r'')
  · dsimp only
    cases hsame : documentsEqual role.trustPolicy h.config.trustDocument with
    | true => exact .kept hget hsame (converging provider h _ false r')
    | false =>
      obtain ⟨ns, answer, r'', hupdate, -, hrun, hcalls⟩ := Pass.exists_asked provider h.config.name
        (.updateTrustPolicy h.config.name h.config.trustDocument) _ r'
      rw [if_neg Bool.false_ne_true, hrun, hcalls]
      rcases answer with f | ⟨⟩
      · rw [Pass.calls_done, List.append_nil]
        exact .unupdated hget hsame hupdate
      · exact .updated hget hsame hupdate (converging provider h _ false r'')

/-! ## Deleting -/

/-- How a deletion may go: whether a cancellation has arrived, the calls that are made and the
report. -/
inductive Deleted (h : RoleHandler) : Bool → List (IamCall σ) → Report RoleStatus → Prop where
  | unread {cancelled cancelled' : Bool} {gs : List (IamCall σ)} {f : Fault}
    (get : Asked h.config.name (.getRole h.config.name) cancelled gs (.error f) cancelled') :
    Deleted h cancelled gs (h.fail h.status f)
  | absent {cancelled cancelled' : Bool} {gs : List (IamCall σ)}
    (get : Asked h.config.name (.getRole h.config.name) cancelled gs (.ok none) cancelled') :
    Deleted h cancelled gs
      (.success { h.status with attached := [] } s!"Role {h.config.name} already deleted")
  | undetached {cancelled cancelled' : Bool} {gs : List (IamCall σ)} {role : Role}
    {cs : List (AttachmentCall σ)} {o : AttachmentOutcome} {f : Fault}
    (get : Asked h.config.name (.getRole h.config.name) cancelled gs (.ok (some role)) cancelled')
    (attachments : Attachment.Reconciled h.config.name [] h.status.attached cancelled' cs o)
    (fault : o.fault = some f) :
    Deleted h cancelled (gs ++ cs.map (AttachmentCall.onRole h.config.name))
      (h.fail { h.status with attached := o.attached.toList } f)
  | undeleted {cancelled cancelled' cancelled'' cancelled''' : Bool} {gs ns : List (IamCall σ)}
    {role : Role} {cs : List (AttachmentCall σ)} {o : AttachmentOutcome}
    {answer : Except Fault (IamRequest.Answer (.deleteRole h.config.name))} {f : Fault}
    (get : Asked h.config.name (.getRole h.config.name) cancelled gs (.ok (some role)) cancelled')
    (attachments : Attachment.Reconciled h.config.name [] h.status.attached cancelled' cs o)
    (converged : o.fault = none)
    (delete : Asked h.config.name (.deleteRole h.config.name) cancelled'' ns answer cancelled''')
    (fault : removalFault? answer = some f) :
    Deleted h cancelled (gs ++ (cs.map (AttachmentCall.onRole h.config.name) ++ ns))
      (h.fail { h.status with attached := o.attached.toList } f)
  | deleted {cancelled cancelled' cancelled'' cancelled''' : Bool} {gs ns : List (IamCall σ)}
    {role : Role} {cs : List (AttachmentCall σ)} {o : AttachmentOutcome}
    {answer : Except Fault (IamRequest.Answer (.deleteRole h.config.name))}
    (get : Asked h.config.name (.getRole h.config.name) cancelled gs (.ok (some role)) cancelled')
    (attachments : Attachment.Reconciled h.config.name [] h.status.attached cancelled' cs o)
    (converged : o.fault = none)
    (delete : Asked h.config.name (.deleteRole h.config.name) cancelled'' ns answer cancelled''')
    (gone : removalFault? answer = none) :
    Deleted h cancelled (gs ++ (cs.map (AttachmentCall.onRole h.config.name) ++ ns))
      (.success { h.status with attached := o.attached.toList } s!"Deleted role {h.config.name}")

/-- A deletion goes as the rules say. -/
theorem deleted (provider : Provider IamRequest IamRequest.Answer σ) (h : RoleHandler)
    (r : Run σ) :
    Deleted h r.cancelled (h.delete.calls provider r) (h.delete.run provider r).1 := by
  unfold delete lookUp
  obtain ⟨gs, answer, r', hget, -, hrun, hcalls⟩ := Pass.exists_asked provider h.config.name
    (.getRole h.config.name) _ r
  rw [hrun, hcalls]
  rcases answer with f | _ | role
  · rw [Pass.calls_done, List.append_nil]
    exact .unread hget
  · rw [Pass.calls_done, List.append_nil]
    exact .absent hget
  · obtain ⟨cs, o, r'', hreconciled, hrun, hcalls⟩ := exists_reconciled provider h [] h.status r'
    dsimp only
    rw [Pass.calls_bind, Pass.run_bind, hrun, hcalls]
    cases hfault : o.fault with
    | some f =>
      rw [Pass.calls_done, List.append_nil]
      exact .undetached hget hreconciled hfault
    | none =>
      unfold deleteDetached
      obtain ⟨ns, answer, r''', hdelete, -, hrun, hcalls⟩ := Pass.exists_asked provider h.config.name
        (.deleteRole h.config.name) _ r''
      rw [hrun, hcalls]
      cases hgone : removalFault? answer with
      | some f =>
        rw [Pass.calls_done, List.append_nil]
        exact .undeleted hget hreconciled hfault hdelete hgone
      | none =>
        rw [Pass.calls_done, List.append_nil]
        exact .deleted hget hreconciled hfault hdelete hgone

end IamConvergence.RoleHandler
