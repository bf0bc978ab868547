/-
The deletion of a role that another deleter removes meanwhile. Once the role is gone, detaching from
it and deleting it are answered as not found, which counts as done; so a deletion converges with
nothing attached. Only between the look-up and the listing of what is attached it does not: that the
listing does not find the role is reported as a failure, with what the status told of.

The induction over the detaching calls is carried by what is left of the role: either it is gone, or
just the policies that are still to be detached are attached to it.
-/
import IamConvergence.Proofs.Attachment.Accounting
import IamConvergence.Proofs.Role.Deploy

namespace IamConvergence

/-! ## Roles that vanish -/

namespace Account

variable {a : Account} {name id : String} {ids : List String} {k : Nat}

/-- The account after another deleter has removed a role with its attachments. -/
def withoutRole (a : Account) (name : String) : Account := { a with roles := a.roles.erase name }

/-- What the next call finds of an account in which a role vanishes after `k` more calls. -/
def seen (name : String) : Account × Nat → Account
  | (a, 0) => a.withoutRole name
  | (a, _ + 1) => a

/-- The step of an account in which a role vanishes after `k` more calls. -/
def vanishing (name : String) (q : IamRequest) (s : Account × Nat) :
    Except Fault q.Answer × Account × Nat :=
  (((seen name s).perform q).1, ((seen name s).perform q).2, s.2 - 1)

/-- The operations by which a role is deleted. -/
def removals : List String :=
  ["GetRole", "ListAttachedRolePolicies", "DetachRolePolicy", "DeleteRole"]

/-- No failure is queued for the operations by which a role is deleted. -/
def Unhindered (a : Account) : Prop := ∀ f ∈ a.failures, f.1 ∉ removals

instance (a : Account) : Decidable a.Unhindered :=
  inferInstanceAs (Decidable (∀ f ∈ a.failures, f.1 ∉ removals))

namespace Unhindered

theorem serves (h : a.Unhindered) (q : IamRequest) (hq : q.operation ∈ removals) :
    Account.serves q a.quiet (a.perform q).1 (a.perform q).2.quiet := by
  rcases perform_cases q a with ⟨f, hf, -⟩ | hserved
  · exact absurd hq (h _ hf)
  · exact hserved

theorem perform (h : a.Unhindered) (q : IamRequest) : (a.perform q).2.Unhindered :=
  fun f hf => h f ((perform_failures_sublist q a).subset hf)

theorem seen (h : a.Unhindered) (name : String) (k : Nat) :
    (Account.seen name (a, k)).Unhindered := by
  cases k <;> exact h

end Unhindered

theorem find?_of_seen {e : RoleEntry} (h : (seen name (a, k)).roles.find? name = some e) :
    a.roles.find? name = some e := by
  cases k with
  | zero => exact Table.find?_of_find?_erase h
  | succ k => exact h

/-! ## What is left of a role -/

/-- Nothing hinders the deletion of a role, and if the role is still there, just some policies are
attached to it. -/
structure Remains (a : Account) (name : String) (ids : List String) : Prop where
  unhindered : a.Unhindered
  attached : ∀ e, a.roles.find? name = some e → e.attached.toList = ids

namespace Remains

theorem seen (h : a.Remains name ids) (k : Nat) : (Account.seen name (a, k)).Remains name ids :=
  ⟨h.unhindered.seen name k, fun e he => h.attached e (find?_of_seen he)⟩

/-- The next policy is detached, or the role is gone and the answer counts all the same. -/
theorem detach (h : a.Remains name (id :: ids)) :
    AttachmentRequest.tolerates (.detach id) (a.perform (.detach name id)).1 = true ∧
      (a.perform (.detach name id)).2.Remains name ids := by
  have hserved := h.unhindered.serves (.detach name id) (by simp [removals, IamRequest.operation])
  have hafter := h.unhindered.perform (.detach name id)
  cases he : a.roles.find? name with
  | none =>
    obtain ⟨hanswer, hquiet⟩ := eq_of_serves_refusal hserved rfl ((effect_of_no_role he).2.1 id)
    have hroles : (a.perform (.detach name id)).2.quiet.roles = a.roles := by rw [hquiet]; rfl
    rw [hanswer]
    refine ⟨rfl, hafter, fun e he' => ?_⟩
    have hnone : some e = none := he'.symm.trans ((congrArg (Table.find? · name) hroles).trans he)
    cases hnone
  | some e =>
    have hlist := h.attached e he
    have hmem : id ∈ e.attached := IdSet.mem_toList.mp (hlist ▸ List.mem_cons_self)
    have heffect : Effect (.detach name id) a ()
        (a.putRole name { e with attached := e.attached.erase id }) := ⟨e, he, hmem, rfl⟩
    obtain ⟨hanswer, hquiet⟩ := eq_of_serves hserved rfl heffect
    have hroles : (a.perform (.detach name id)).2.quiet.roles =
        a.roles.insert name { e with attached := e.attached.erase id } := by rw [hquiet]; rfl
    rw [hanswer]
    refine ⟨rfl, hafter, fun e' he' => ?_⟩
    have hfound : (a.roles.insert name { e with attached := e.attached.erase id }).find? name =
        some e' := (congrArg (Table.find? · name) hroles).symm.trans he'
    rw [Table.find?_insert_self] at hfound
    cases hfound
    -- members are listed once, so the detached one is not among the others
    have hnot : id ∉ ids := (List.nodup_cons.mp (hlist ▸ e.attached.nodup)).1
    show e.attached.toList.filter (· != id) = ids
    rw [hlist, List.filter_cons_of_neg (by simp)]
    exact List.filter_eq_self.mpr fun x hx => bne_iff_ne.mpr fun heq => hnot (heq ▸ hx)

/-- A role from which everything is detached is deleted, or it is gone already. -/
theorem deleteRole (h : a.Remains name []) :
    removalFault? (a.perform (.deleteRole name)).1 = none := by
  have hserved := h.unhindered.serves (.deleteRole name) (by simp [removals, IamRequest.operation])
  cases he : a.roles.find? name with
  | none =>
    obtain ⟨hanswer, -⟩ := eq_of_serves_refusal hserved rfl (effect_of_no_role he).2.2
    rw [hanswer]
    rfl
  | some e =>
    have hempty : e.attached.isEmpty = true := by rw [IdSet.isEmpty, h.attached e he]; rfl
    have heffect : Effect (.deleteRole name) a () { a with roles := a.roles.erase name } :=
      ⟨e, he, hempty, rfl⟩
    obtain ⟨hanswer, -⟩ := eq_of_serves hserved rfl heffect
    rw [hanswer]
    rfl

end Remains

/-! ## Detaching -/

/-- Whenever the role vanishes, every detaching counts. -/
theorem Remains.run_carryOut (h : a.Remains name ids) (k : Nat) (o : AttachmentOutcome) :
    ∃ a' k', a'.Remains name [] ∧
      (Attachment.carryOut name (ids.map .detach) o).run
          (attachmentsOf (.ofStep (vanishing name)) name) ⟨false, (a, k)⟩ =
        ((ids.map AttachmentRequest.detach).foldl .settle o, ⟨false, (a', k')⟩) := by
  induction ids generalizing a k o with
  | nil => exact ⟨a, k, h, rfl⟩
  | cons id ids ih =>
    obtain ⟨htolerated, hrest⟩ := (h.seen k).detach
    obtain ⟨a', k', hdone, hrun⟩ := ih hrest (k - 1) (o.settle (.detach id))
    refine ⟨a', k', hdone, ?_⟩
    rw [List.map_cons, Attachment.carryOut, Pass.run_ask_made _ _ _ _ rfl]
    have hanswer : ((attachmentsOf (.ofStep (vanishing name)) name (.detach id) (a, k)).1.answer
        name) = ((Account.seen name (a, k)).perform (.detach name id)).1 := rfl
    rw [hanswer, htolerated]
    exact hrun

end Account

/-! ## Deleting -/

/-- To desire nothing is to detach everything. -/
theorem Attachment.plan_nil (s : IdSet) : plan (.ofList []) s = s.toList.map .detach := by
  have hgone : s.diff (.ofList []) = s := IdSet.ext_mem fun x => by simp
  have hnew : (IdSet.ofList []).diff s = .ofList [] := IdSet.ext_mem fun x => by simp
  rw [plan, hgone, hnew]
  exact List.append_nil _

/-- Of a membership from which every member was detached nothing is left. -/
theorem Attachment.toList_of_detached (s : IdSet) :
    ((s.toList.map AttachmentRequest.detach).foldl .settle
      (AttachmentOutcome.unchanged s none)).attached.toList = [] := by
  refine List.eq_nil_iff_forall_not_mem.mpr fun x hx => ?_
  obtain ⟨hmem, -, -⟩ := foldl_settle_detach s.toList (.unchanged s none)
  obtain ⟨hin, hnot⟩ := (hmem x).mp hx
  exact hnot hin

namespace RoleHandler

open Account (Effect Remains Unhindered noRole removals seen vanishing)

variable {a : Account} {e : RoleEntry} {k : Nat}

/-- The look-up tells whether the role is still there, and changes nothing. -/
theorem exists_run_lookUp (h : RoleHandler) (hunhindered : a.Unhindered) (k : Nat)
    (next : Except Fault (Option Role) → RoleStep) :
    ∃ a', a'.Unhindered ∧ a'.roles = (seen h.config.name (a, k)).roles ∧
      (h.lookUp next).run (.ofStep (vanishing h.config.name)) ⟨false, (a, k)⟩ =
        (next (.ok (((seen h.config.name (a, k)).roles.find? h.config.name).map (·.role)))).run
          (.ofStep (vanishing h.config.name)) ⟨false, (a', k - 1)⟩ := by
  have hseen := hunhindered.seen h.config.name k
  have hserved := hseen.serves (.getRole h.config.name) (by simp [removals, IamRequest.operation])
  have heffect : Effect (.getRole h.config.name) (seen h.config.name (a, k)) _
      (seen h.config.name (a, k)) := ⟨rfl, rfl⟩
  obtain ⟨hanswer, hquiet⟩ := Account.eq_of_serves hserved rfl heffect
  have hroles : ((seen h.config.name (a, k)).perform (.getRole h.config.name)).2.quiet.roles =
      (seen h.config.name (a, k)).quiet.roles := congrArg Account.roles hquiet
  exact ⟨_, hseen.perform _, hroles, Pass.run_call_ofStep (Prod.ext hanswer rfl)⟩

/-- Once everything attached to it is listed, a role may vanish at any time: everything is
detached. -/
theorem run_attachments (h : RoleHandler) (hunhindered : a.Unhindered)
    (he : a.roles.find? h.config.name = some e) (k : Nat) :
    ∃ a' k' o, a'.Remains h.config.name [] ∧ o.fault = none ∧ o.attached.toList = [] ∧
      (h.attachments [] h.status).run (.ofStep (vanishing h.config.name)) ⟨false, (a, k + 1)⟩ =
        (o, ⟨false, (a', k')⟩) := by
  have hserved := hunhindered.serves (.listAttached h.config.name)
    (by simp [removals, IamRequest.operation])
  have heffect : Effect (.listAttached h.config.name) a e.attached.toList a := ⟨⟨e, he, rfl⟩, rfl⟩
  obtain ⟨hanswer, hquiet⟩ := Account.eq_of_serves hserved rfl heffect
  let listed := (a.perform (.listAttached h.config.name)).2
  have hremains : listed.Remains h.config.name e.attached.toList := by
    refine ⟨hunhindered.perform _, fun e' he' => ?_⟩
    have hroles : listed.quiet.roles = a.roles := by rw [hquiet]; rfl
    have hsame : some e = some e' :=
      he.symm.trans ((congrArg (Table.find? · _) hroles).symm.trans he')
    cases hsame
    rfl
  obtain ⟨a', k', hdone, hrun⟩ := hremains.run_carryOut k (.unchanged e.attached none)
  refine ⟨a', k', _, hdone, AttachmentOutcome.foldl_settle_fault _ _,
    Attachment.toList_of_detached e.attached, ?_⟩
  have hlist : (attachmentsOf (.ofStep (vanishing h.config.name)) h.config.name .list
      (a, k + 1)).1.answer h.config.name = .ok e.attached.toList := hanswer
  unfold attachments
  rw [Pass.run_adapt (realizes_roleAttachments _ _), Attachment.reconcile_eq,
    Pass.run_ask_made _ _ _ _ rfl, hlist]
  dsimp only
  rw [IdSet.ofList_toList, Attachment.plan_nil]
  exact hrun

/-- Of a role that has vanished before nothing is listed, and that is a failure. -/
theorem run_attachments_vanished (h : RoleHandler) (hunhindered : a.Unhindered) :
    ((h.attachments [] h.status).run (.ofStep (vanishing h.config.name)) ⟨false, (a, 0)⟩).1 =
      .unchanged (.ofList h.status.attached) (some (noRole h.config.name)) := by
  have hserved := (hunhindered.seen h.config.name 0).serves (.listAttached h.config.name)
    (by simp [removals, IamRequest.operation])
  have hnone : (seen h.config.name (a, 0)).roles.find? h.config.name = none :=
    Table.find?_erase_self a.roles h.config.name
  obtain ⟨hanswer, -⟩ := Account.eq_of_serves_refusal hserved rfl (Account.effect_of_no_role hnone).1
  have hlist : (attachmentsOf (.ofStep (vanishing h.config.name)) h.config.name .list
      (a, 0)).1.answer h.config.name = .error (noRole h.config.name) := hanswer
  unfold attachments
  rw [Pass.run_adapt (realizes_roleAttachments _ _), Attachment.reconcile_eq,
    Pass.run_ask_made _ _ _ _ rfl, hlist]
  rfl

/-- A role from which everything was detached is deleted, whenever it vanishes. -/
theorem run_deleteDetached (h : RoleHandler) (hremains : a.Remains h.config.name []) (k : Nat)
    (status : RoleStatus) :
    ((h.deleteDetached status).run (.ofStep (vanishing h.config.name)) ⟨false, (a, k)⟩).1 =
      .success status s!"Deleted role {h.config.name}" := by
  have hgone := (hremains.seen k).deleteRole
  unfold deleteDetached
  rw [Pass.run_ask_made _ _ _ _ rfl]
  have hanswer : (Provider.ofStep (vanishing h.config.name) (.deleteRole h.config.name)
      (a, k)).1.answer h.config.name =
        ((seen h.config.name (a, k)).perform (.deleteRole h.config.name)).1 := rfl
  rw [hanswer, hgone]
  rfl

/-- A deletion converges with nothing attached if the role vanishes while it is under way, or is not
there; but if it vanishes after the look-up and before the listing, that is reported as a
failure. -/
theorem delete_vanishing (h : RoleHandler) (k : Nat) (hunhindered : a.Unhindered) :
    let e := Pass.episode (.ofStep (vanishing h.config.name)) delete h false (a, k)
    (k ≠ 1 ∨ a.roles.find? h.config.name = none →
        e.result.phase = .converged ∧ e.result.status = { h.status with attached := [] }) ∧
      (k = 1 ∧ a.roles.find? h.config.name ≠ none →
        e.result = h.fail { h.status with attached := (IdSet.ofList h.status.attached).toList }
          (noRole h.config.name)) := by
  intro e
  have hresult : e.result =
      (h.delete.run (.ofStep (vanishing h.config.name)) ⟨false, (a, k)⟩).1 := rfl
  obtain ⟨looked, hunhindered', hroles, hrun⟩ := exists_run_lookUp h hunhindered k _
  unfold delete at hresult
  rw [hrun] at hresult
  cases hseen : (seen h.config.name (a, k)).roles.find? h.config.name with
  | none =>
    rw [hseen] at hresult
    rw [hresult]
    refine ⟨fun _ => ⟨rfl, rfl⟩, ?_⟩
    rintro ⟨rfl, hthere⟩
    exact absurd hseen hthere
  | some found =>
    have hthere : a.roles.find? h.config.name = some found := Account.find?_of_seen hseen
    have hlooked : looked.roles.find? h.config.name = some found := hroles ▸ hseen
    rw [hseen] at hresult
    replace hresult := hresult.trans (congrArg Prod.fst (Pass.run_bind ..))
    -- the listing is the call before which the role must not vanish
    rcases k with _ | _ | k
    · cases (Table.find?_erase_self a.roles h.config.name).symm.trans hseen
    · refine ⟨?_, fun _ => ?_⟩
      · rintro (hne | hnone)
        · exact absurd rfl hne
        · cases hthere.symm.trans hnone
      · rw [hresult, run_attachments_vanished h hunhindered']
        rfl
    · obtain ⟨a', k', o, hremains, hfault, hnone, hrun⟩ := run_attachments h hunhindered' hlooked k
      refine ⟨fun _ => ?_, fun hboth => absurd hboth.1 (by omega)⟩
      rw [Nat.add_sub_cancel, hrun] at hresult
      rw [hresult]
      dsimp only
      rw [hfault, hnone]
      dsimp only
      rw [run_deleteDetached h hremains]
      exact ⟨rfl, rfl⟩

/-- The role vanishes between its two detaching calls. -/
theorem delete_vanishing_detaching :
    let h : RoleHandler := ⟨.plain "app" ["arn:aws:iam::aws:policy/ReadOnlyAccess"],
      ⟨"arn:aws:iam::123456789012:role/app", "AROA0000000000000001", "app",
        ["arn:aws:iam::aws:policy/ReadOnlyAccess"]⟩, Fault.defaultClass⟩
    let a := (Account.perform (.attach "app" "arn:aws:iam::aws:policy/SecurityAudit")
      (Account.perform (.attach "app" "arn:aws:iam::aws:policy/ReadOnlyAccess")
        (Account.perform (.createRole h.draft) {}).2).2).2
    let e := Pass.episode (.ofStep (vanishing h.config.name)) delete h false (a, 3)
    a.Unhindered ∧ e.calls.length = 5 ∧ e.result.phase = .converged ∧
      e.result.status = { h.status with attached := [] } := by
  intro h a e
  have hunhindered : a.Unhindered := by decide +kernel
  obtain ⟨hconverged, -⟩ := delete_vanishing h 3 hunhindered
  exact ⟨hunhindered, by decide +kernel, hconverged (.inl (by decide))⟩

/-- The role vanishes just before what is attached to it is listed: the deletion fails for good. -/
theorem delete_vanishing_unlisted :
    let h : RoleHandler := ⟨.plain "app" ["arn:aws:iam::aws:policy/ReadOnlyAccess"],
      ⟨"arn:aws:iam::123456789012:role/app", "AROA0000000000000001", "app",
        ["arn:aws:iam::aws:policy/ReadOnlyAccess"]⟩, Fault.defaultClass⟩
    let a := (Account.perform (.createRole h.draft) {}).2
    let e := Pass.episode (.ofStep (vanishing h.config.name)) delete h false (a, 1)
    a.Reachable ∧ a.failures = [] ∧ e.result.phase = .permanentFailure ∧
      e.result.status.attached = ["arn:aws:iam::aws:policy/ReadOnlyAccess"] := by
  intro h a e
  exact ⟨(Account.Reachable.empty _).performed _, by decide +kernel, by decide +kernel,
    by decide +kernel⟩

end RoleHandler

end IamConvergence
