/-
The policies attached to a role of a reachable account with nothing queued, by way of the handlers'
adapter: they are a finite set, to which just the policies of the account that do not exist cannot be
added. A pass over the adapter runs as one over the set. Together with the versions of policies, this
is what the passes rely on.
-/
import IamConvergence.Proofs.Account.VersionAdapter
import IamConvergence.Proofs.Role.Healing

namespace IamConvergence

/-! ## Finite sets as providers -/

namespace IdSet

/-- The fault of an identifier that is not there to be taken away. -/
def notThere (id : String) : Fault := .notFound id s!"NoSuchEntity: Policy {id} was not found."

/-- What the requests about a membership do to a finite set, to which some identifiers cannot be
added. -/
def effect (refusal : String → Option Fault) :
    (q : AttachmentRequest) → IdSet → Except Fault (q.Answer × IdSet)
  | .list, s => .ok (s.toList, s)
  | .attach id, s =>
    match refusal id with
    | some f => .error f
    | none => .ok ((), s.insert id)
  | .detach id, s => if id ∈ s then .ok ((), s.erase id) else .error (notThere id)

/-- The provider of a finite set. -/
def provider (refusal : String → Option Fault) :
    Provider AttachmentRequest AttachmentRequest.Answer IdSet :=
  .ofStep fun q s =>
    match effect refusal q s with
    | .ok (answer, s') => (.ok answer, s')
    | .error f => (.error f, s)

end IdSet

/-! ## Attached policies as a finite set -/

namespace Account

variable {a a' : Account} {name arn : String} {r : RoleEntry}

/-- Why a policy cannot be attached: it is missing. -/
def refusal (a : Account) (arn : String) : Option Fault :=
  if a.Missing arn then some (noPolicy arn) else none

/-- The account when just some policies are attached to a role. -/
def withAttached (a : Account) (name : String) (r : RoleEntry) (attached : IdSet) : Account :=
  a.putRole name { r with attached := attached }

/-- Of two sets of attached policies the last one counts. -/
theorem withAttached_quiet (a : Account) (name : String) (r : RoleEntry) (s s' : IdSet) :
    (a.withAttached name r s).quiet.withAttached name { r with attached := s } s' =
      (a.withAttached name r s').quiet := by
  simp only [withAttached, putRole, quiet, Table.insert_insert]

/-- A request about the policies attached to a role does to them what it does to a finite set. -/
theorem attachmentEffect_eq (hr : a.roles.find? name = some r) (q : AttachmentRequest) :
    attachmentEffect name q a = (IdSet.effect a.refusal q r.attached).map fun x =>
      (x.1, a.withAttached name r x.2) := by
  have hentry : a.roleEntry name = .ok r := roleEntry_eq_ok_iff.mpr hr
  cases q with
  | list =>
    have hsame : a.withAttached name r r.attached = a := by
      show { a with roles := a.roles.insert name r } = a
      rw [Table.insert_of_find? hr]
    simp only [attachmentEffect, Account.effect, hentry, IdSet.effect, Except.map, hsame]
  | attach id =>
    by_cases hmissing : a.Missing id
    · obtain ⟨howns, hnone⟩ := hmissing
      have hrefusal : a.refusal id = some (noPolicy id) := if_pos ⟨howns, hnone⟩
      simp only [attachmentEffect, Account.effect, Account.attach, howns, if_true,
        policyEntry_of_none hnone, IdSet.effect, hrefusal]
      rfl
    · have hattach : Effect (.attach name id) a () (a.withAttached name r (r.attached.insert id)) :=
        ⟨not_missing_iff.mp hmissing, r, hr, rfl⟩
      have hrefusal : a.refusal id = none := if_neg hmissing
      simp only [attachmentEffect, effect_eq_ok_iff.mpr hattach, IdSet.effect, hrefusal]
      rfl
  | detach id =>
    simp only [attachmentEffect, Account.effect, Account.detach, hentry, IdSet.effect, bind,
      Except.bind]
    split <;> rfl

/-- Undisturbed, a request about the policies attached to a role is served. -/
theorem served_attachmentsOf (h : a.failures = []) (name : String) (q : AttachmentRequest) :
    ∃ answer, (attachmentsOf undisturbed name q a).1 = .completed answer false ∧
      Service.ofEffect (attachmentEffect name) q a.quiet answer
        (attachmentsOf undisturbed name q a).2.quiet ∧
      (attachmentsOf undisturbed name q a).2.failures = [] := by
  cases q with
  | list =>
    have hserved := served_of_serves (attachmentEffect name) .list
      (serves_perform (.listAttached name) h) id (fun _ _ h => h) (fun _ h => h)
    rw [map_id_eq] at hserved
    exact ⟨_, rfl, hserved, perform_failures _ h⟩
  | attach policy =>
    have hserved := served_of_serves (attachmentEffect name) (.attach policy)
      (serves_perform (.attach name policy) h) id (fun _ _ h => h) (fun _ h => h)
    rw [map_id_eq] at hserved
    exact ⟨_, rfl, hserved, perform_failures _ h⟩
  | detach policy =>
    have hserved := served_of_serves (attachmentEffect name) (.detach policy)
      (serves_perform (.detach name policy) h) id (fun _ _ h => h) (fun _ h => h)
    rw [map_id_eq] at hserved
    exact ⟨_, rfl, hserved, perform_failures _ h⟩

/-- An account in which just the policies of a set are attached to a role, apart from the log. -/
structure Attaches (a : Account) (name : String) (r : RoleEntry) (b : Account) (s : IdSet) :
    Prop where
  unqueued : b.failures = []
  quiet : b.quiet = (a.withAttached name r s).quiet

/-- A call about the policies attached to a role goes as one to the set. -/
theorem Attaches.step {b : Account} {s : IdSet} (h : Attaches a name r b s) (q : AttachmentRequest) :
    (attachmentsOf undisturbed name q b).1 = (IdSet.provider a.refusal q s).1 ∧
      Attaches a name r (attachmentsOf undisturbed name q b).2 (IdSet.provider a.refusal q s).2 := by
  obtain ⟨answer, hreply, hserved, hunqueued⟩ := served_attachmentsOf h.unqueued name q
  have hfound : (a.withAttached name r s).quiet.roles.find? name = some { r with attached := s } :=
    find?_putRole a name _
  have heffect : attachmentEffect name q b.quiet = (IdSet.effect a.refusal q s).map fun x =>
      (x.1, (a.withAttached name r x.2).quiet) := by
    rw [h.quiet, attachmentEffect_eq hfound]
    simp only [withAttached_quiet]
    rfl
  rw [hreply]
  cases hset : IdSet.effect a.refusal q s with
  | ok x =>
    rw [hset] at heffect
    have hdone : Service.ofEffect (attachmentEffect name) q b.quiet (.ok x.1)
        (a.withAttached name r x.2).quiet := heffect
    obtain ⟨rfl, hquiet⟩ := Service.ofEffect_unique hserved hdone
    simp only [IdSet.provider, Provider.ofStep, hset]
    exact ⟨trivial, hunqueued, hquiet⟩
  | error f =>
    rw [hset] at heffect
    have hrefused : Service.ofEffect (attachmentEffect name) q b.quiet (.error f) b.quiet :=
      ⟨heffect, rfl⟩
    obtain ⟨rfl, hquiet⟩ := Service.ofEffect_unique hserved hrefused
    simp only [IdSet.provider, Provider.ofStep, hset]
    exact ⟨trivial, hunqueued, hquiet.trans h.quiet⟩

theorem attaches_self (hr : a.roles.find? name = some r) (h : a.failures = []) :
    Attaches a name r a r.attached := by
  refine ⟨h, ?_⟩
  have hsame : a.roles.insert name r = a.roles := Table.insert_of_find? hr
  show a.quiet = { a with roles := a.roles.insert name r }.quiet
  rw [hsame]

/-- A pass over the adapter runs as one over the set. -/
theorem run_attachments {α : Type} (hr : a.roles.find? name = some r) (h : a.failures = [])
    (p : Pass AttachmentRequest AttachmentRequest.Answer α) (cancelled : Bool) :
    let run := (p.adapt (roleAttachments name)).run undisturbed ⟨cancelled, a⟩
    let run' := p.run (IdSet.provider a.refusal) ⟨cancelled, r.attached⟩
    run.1 = run'.1 ∧ run.2.cancelled = run'.2.cancelled ∧
      Attaches a name r run.2.state run'.2.state := by
  rw [Pass.run_adapt (realizes_roleAttachments undisturbed name)]
  exact Pass.run_related (R := Attaches a name r) (fun q _ _ h => h.step q) p (attaches_self hr h)

/-! ## The contract -/

/-- What is promised of the policies attached to a role: they are a finite set. -/
structure AttachmentContract (a : Account) (name : String) (r : RoleEntry)
    (ask : (q : AttachmentRequest) → Account → Except Fault q.Answer × Account) : Prop where
  listed : (ask .list a).1 = .ok r.attached.toList ∧ (ask .list a).2.quiet = a.quiet
  attached : ∀ arn, ¬a.Missing arn → (ask (.attach arn) a).1 = .ok () ∧
    (ask (.attach arn) a).2.quiet = (a.withAttached name r (r.attached.insert arn)).quiet
  /-- Only a policy of the account that does not exist is refused. -/
  refused : ∀ arn, a.Missing arn →
    (∃ f, (ask (.attach arn) a).1 = .error f) ∧ (ask (.attach arn) a).2.quiet = a.quiet
  detached : ∀ arn ∈ r.attached, (ask (.detach arn) a).1 = .ok () ∧
    (ask (.detach arn) a).2.quiet = (a.withAttached name r (r.attached.erase arn)).quiet
  absent : ∀ arn, arn ∉ r.attached →
    (∃ f, (ask (.detach arn) a).1 = .error f ∧ f.isNotFound = true) ∧
      (ask (.detach arn) a).2.quiet = a.quiet

/-- A call about attached policies by way of the adapter answers and leaves what the set does. -/
theorem adapted_roleAttachments (hr : a.roles.find? name = some r) (h : a.failures = [])
    (guarded : Bool) (resource : String) (q : AttachmentRequest) :
    (adapted (roleAttachments name) guarded resource q a).1 =
        (IdSet.provider a.refusal q r.attached).1.answer resource ∧
      (adapted (roleAttachments name) guarded resource q a).2.quiet =
        (a.withAttached name r (IdSet.provider a.refusal q r.attached).2).quiet := by
  obtain ⟨hreply, hattaches⟩ := (attaches_self hr h).step q
  rw [adapted_eq (realizes_roleAttachments undisturbed name), hreply]
  exact ⟨rfl, hattaches.quiet⟩

theorem attachmentContract (hr : a.roles.find? name = some r) (h : a.failures = [])
    (guarded : Bool) (resource : String) :
    AttachmentContract a name r (adapted (roleAttachments name) guarded resource) := by
  have hcall := adapted_roleAttachments hr h guarded resource
  have hsame : a.quiet = (a.withAttached name r r.attached).quiet := (attaches_self hr h).quiet
  have hkept : ∀ {q : AttachmentRequest} {f : Fault}, IdSet.effect a.refusal q r.attached = .error f →
      (adapted (roleAttachments name) guarded resource q a).1 = .error f ∧
        (adapted (roleAttachments name) guarded resource q a).2.quiet = a.quiet := by
    intro q f heffect
    have hq := hcall q
    simp only [IdSet.provider, Provider.ofStep, heffect] at hq
    rwa [hsame]
  have hdone : ∀ {q : AttachmentRequest} {x : q.Answer × IdSet},
      IdSet.effect a.refusal q r.attached = .ok x →
      (adapted (roleAttachments name) guarded resource q a).1 = .ok x.1 ∧
        (adapted (roleAttachments name) guarded resource q a).2.quiet =
          (a.withAttached name r x.2).quiet := by
    intro q x heffect
    have hq := hcall q
    simp only [IdSet.provider, Provider.ofStep, heffect] at hq
    exact hq
  constructor
  · rw [hsame]
    exact hdone (q := .list) rfl
  · intro arn hthere
    exact hdone (q := .attach arn) (x := ((), r.attached.insert arn)) (by
      simp only [IdSet.effect, refusal, if_neg hthere])
  · intro arn hmissing
    obtain ⟨hanswer, hquiet⟩ := hkept (q := .attach arn) (f := noPolicy arn) (by
      simp only [IdSet.effect, refusal, if_pos hmissing])
    exact ⟨⟨_, hanswer⟩, hquiet⟩
  · intro arn hmem
    exact hdone (q := .detach arn) (x := ((), r.attached.erase arn)) (by
      simp only [IdSet.effect, if_pos hmem])
  · intro arn hnot
    obtain ⟨hanswer, hquiet⟩ := hkept (q := .detach arn) (f := IdSet.notThere arn) (by
      simp only [IdSet.effect, if_neg hnot])
    exact ⟨⟨_, hanswer, rfl⟩, hquiet⟩

/-- Over a reachable account with nothing queued both adapters keep their contracts, and passes over
them run as passes over a store of versions, and over a finite set. -/
theorem adapters_refine (hreachable : a.Reachable) (hunqueued : a.failures = []) :
    (∀ guarded resource arn,
        VersionContract a arn (adapted (policyVersions arn) guarded resource)) ∧
      (∀ guarded resource name r, a.roles.find? name = some r →
        AttachmentContract a name r (adapted (roleAttachments name) guarded resource)) ∧
      (∀ {α : Type} (p : Pass VersionRequest VersionRequest.Answer α) arn cancelled,
        let run := (p.adapt (policyVersions arn)).run undisturbed ⟨cancelled, a⟩
        let run' := p.run (histories arn).provider ⟨cancelled, ⟨a, hreachable, hunqueued⟩⟩
        run.1 = run'.1 ∧ run.2.cancelled = run'.2.cancelled ∧ run.2.state = run'.2.state.1) ∧
      (∀ {α : Type} (p : Pass AttachmentRequest AttachmentRequest.Answer α) name r cancelled,
        a.roles.find? name = some r →
          let run := (p.adapt (roleAttachments name)).run undisturbed ⟨cancelled, a⟩
          let run' := p.run (IdSet.provider a.refusal) ⟨cancelled, r.attached⟩
          run.1 = run'.1 ∧ run.2.cancelled = run'.2.cancelled ∧
            Attaches a name r run.2.state run'.2.state) := by
  have hcalm : a.Calm := ⟨hreachable, hunqueued⟩
  refine ⟨hcalm.versionContract, fun guarded resource name r hr => ?_, fun p arn cancelled => ?_,
    fun p name r cancelled hr => ?_⟩
  · exact attachmentContract hr hunqueued guarded resource
  · exact run_histories arn p cancelled ⟨a, hcalm⟩
  · exact run_attachments hr hunqueued p cancelled

/-- A policy with two versions, attached to a role. -/
theorem adapters_refine_attached :
    let arn := "arn:aws:iam::123456789012:policy/read"
    let trust := "\x7b\x7d"
    let a := (Account.perform (.attach "app" arn)
      (Account.perform (.createRole ⟨"app", trust, "/", "", 0, .empty⟩)
        (Account.perform (.createVersion arn "2" true)
          (Account.perform (.createPolicy ⟨"read", "1", "/", "", .empty⟩) {}).2).2).2).2
    let e : RoleEntry := ⟨{ a.roleOf ⟨"app", trust, "/", "", 0, .empty⟩ with
      id := "AROA0000000000000002", createdAt := .ofSecond (clockStart + 3) }, .ofList [arn]⟩
    a.Reachable ∧ a.failures = [] ∧ a.roles.find? "app" = some e ∧
      (adapted (policyVersions arn) true arn (.create "3") a).1 = .ok "v3" ∧
      VersionContract a arn (adapted (policyVersions arn) true arn) ∧
      AttachmentContract a "app" e (adapted (roleAttachments "app") true "app") := by
  intro arn trust a e
  have hreachable : a.Reachable :=
    ((((Account.Reachable.empty _).performed _).performed _).performed _).performed _
  have hunqueued : a.failures = [] := by decide +kernel
  have hrole : a.roles.find? "app" = some e := by decide +kernel
  obtain ⟨hversions, hattachments, -⟩ := adapters_refine hreachable hunqueued
  exact ⟨hreachable, hunqueued, hrole, by decide +kernel, hversions true arn arn,
    hattachments true "app" "app" e hrole⟩

end Account

end IamConvergence
