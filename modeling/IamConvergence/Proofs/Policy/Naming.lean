/-
What a policy goes by. A lookup compares its path and its name, but it stands under the resource
name, which runs the two together, so two pairs of a path and a name may claim one place. A creation
is refused as existing if the policy is found or if another one claims its place. None does where
paths end with a slash and names have none: such a resource name divides in one way only.
-/
import Mathlib.Data.List.Basic
import IamConvergence.Proofs.Account.Identity
import IamConvergence.Proofs.Policy.Convergence

namespace IamConvergence

/-! ## Paths and names -/

/-- Where the path ends and the name begins can be seen: the last slash ends the path. -/
structure Divided (path name : String) : Prop where
  closed : path.toList.getLast? = some '/'
  plain : '/' ∉ name.toList

/-- The last of some separators is in one place only. -/
theorem eq_of_append_cons_eq {α : Type} {c : α} {xs ys xs' ys' : List α} (hys : c ∉ ys)
    (hys' : c ∉ ys') (h : xs ++ c :: ys = xs' ++ c :: ys') : xs = xs' ∧ ys = ys' := by
  rcases List.append_eq_append_iff.mp h with ⟨zs, rfl, hzs⟩ | ⟨zs, rfl, hzs⟩
  · cases zs with
    | nil => exact ⟨(List.append_nil _).symm, (List.cons.inj hzs).2⟩
    | cons z zs =>
      rw [(List.cons.inj hzs).2] at hys
      exact absurd (List.mem_append_right zs List.mem_cons_self) hys
  · cases zs with
    | nil => exact ⟨List.append_nil _, (List.cons.inj hzs).2.symm⟩
    | cons z zs =>
      rw [(List.cons.inj hzs).2] at hys'
      exact absurd (List.mem_append_right zs List.mem_cons_self) hys'

theorem Divided.eq_of_append_eq {path name path' name' : String} (h : Divided path name)
    (h' : Divided path' name') (heq : path ++ name = path' ++ name') :
    path = path' ∧ name = name' := by
  obtain ⟨cs, hcs⟩ := List.getLast?_eq_some_iff.mp h.closed
  obtain ⟨cs', hcs'⟩ := List.getLast?_eq_some_iff.mp h'.closed
  have hlist : cs ++ '/' :: name.toList = cs' ++ '/' :: name'.toList := by
    have := congrArg String.toList heq
    simpa [String.toList_append, hcs, hcs'] using this
  obtain ⟨rfl, hname⟩ := eq_of_append_cons_eq h.plain h'.plain hlist
  exact ⟨String.toList_inj.mp (hcs.trans hcs'.symm), String.toList_inj.mp hname⟩

namespace Account

variable {a a' : Account} {d : PolicyDraft} {f : Fault}

/-- Two paths and names make one resource name if they run together to one text. -/
theorem policyArn_inj {path name path' name' : String} :
    a.policyArn path name = a.policyArn path' name' ↔ path ++ name = path' ++ name' := by
  have hjoined : ∀ path name,
      a.policyArn path name = "arn:aws:iam::" ++ a.accountId ++ ":policy" ++ (path ++ name) := by
    intro path name
    show "arn:aws:iam::" ++ a.accountId ++ ":policy" ++ path ++ name = _
    rw [String.append_assoc]
  rw [hjoined, hjoined]
  exact String.append_right_inj _

/-! ## Looking up and creating -/

/-- The fault of a policy of which the place is taken. -/
def policyTaken (a : Account) (path name : String) : Fault :=
  .refusal (a.policyArn path name) "CreatePolicy"
    s!"EntityAlreadyExists: A policy called {name} already exists."

theorem createPolicy_of_stands {e : PolicyEntry}
    (he : a.policies.find? (a.policyArn d.path d.name) = some e) :
    a.effect (.createPolicy d) = .error (a.policyTaken d.path d.name) := by
  have hcontains : a.policies.contains (a.policyArn d.path d.name) = true := by
    rw [Table.contains, he]
    rfl
  simp only [effect, createPolicy, hcontains, if_true]
  rfl

/-- A policy with a document that can be read is refused only because its place is taken. -/
theorem stands_of_createPolicy_error (hdocument : (Document.parse? d.document).isSome = true)
    (h : a.effect (.createPolicy d) = .error f) :
    (∃ e, a.policies.find? (a.policyArn d.path d.name) = some e) ∧
      f = a.policyTaken d.path d.name := by
  cases he : a.policies.find? (a.policyArn d.path d.name) with
  | none =>
    have hcreated : Effect (.createPolicy d) a (a.policyOf d) _ := ⟨he, hdocument, rfl, rfl⟩
    cases h.symm.trans (effect_eq_ok_iff.mpr hcreated)
  | some e =>
    cases h.symm.trans (createPolicy_of_stands he)
    exact ⟨⟨e, rfl⟩, rfl⟩

/-! ## Places that are not shared -/

/-- The resource name of every policy divides into its path and its name. -/
def PoliciesDivided (a : Account) : Prop :=
  ∀ arn e, a.policies.find? arn = some e → Divided e.policy.path e.policy.name

namespace PoliciesDivided

theorem of_subset (h : a.PoliciesDivided)
    (hsub : ∀ arn e, a'.policies.find? arn = some e → a.policies.find? arn = some e) :
    a'.PoliciesDivided :=
  fun arn e he => h arn e (hsub arn e he)

theorem putPolicy {arn : String} {e : PolicyEntry} (h : a.PoliciesDivided)
    (hdivided : Divided e.policy.path e.policy.name) : (a.putPolicy arn e).PoliciesDivided := by
  intro arn' e' he'
  rcases Table.find?_insert_eq_some_iff.mp he' with ⟨-, rfl⟩ | ⟨-, he'⟩
  · exact hdivided
  · exact h arn' e' he'

theorem of_effect {q : IamRequest} {answer : q.Answer} (h : a.PoliciesDivided)
    (hq : ∀ d, q = .createPolicy d → Divided d.path d.name) (heffect : Effect q a answer a') :
    a'.PoliciesDivided := by
  cases q with
  | getRole | listAttached | findPolicy | getPolicy | getVersion | listVersions =>
    obtain ⟨-, rfl⟩ := heffect
    exact h
  | createRole =>
    obtain ⟨-, -, -, rfl⟩ := heffect
    exact h.of_subset fun _ _ he => he
  | updateTrustPolicy | attach =>
    obtain ⟨-, e, -, rfl⟩ := heffect
    exact h.of_subset fun _ _ he => he
  | deleteRole | detach =>
    obtain ⟨e, -, -, rfl⟩ := heffect
    exact h.of_subset fun _ _ he => he
  | createPolicy d =>
    obtain ⟨-, -, rfl, rfl⟩ := heffect
    exact putPolicy (h.of_subset fun _ _ he => he) (hq d rfl)
  | deletePolicy =>
    obtain ⟨e, -, -, -, rfl⟩ := heffect
    exact h.of_subset fun _ _ he => Table.find?_of_find?_erase he
  | createVersion arn =>
    obtain ⟨e, he, -, -, rfl, rfl⟩ := heffect
    refine putPolicy (h.of_subset fun _ _ he => he) ?_
    rw [e.push_policy]
    exact h arn e he
  | deleteVersion arn =>
    obtain ⟨e, he, v, -, -, rfl⟩ := heffect
    exact h.putPolicy (h arn e he)

/-- A command keeps it that creates no other policy. -/
theorem obey {c : Command} (h : a.PoliciesDivided)
    (hc : ∀ d, c = .call (.createPolicy d) → Divided d.path d.name) :
    (a.obey c).PoliciesDivided := by
  cases c with
  | call q =>
    show (a.perform q).2.quiet.PoliciesDivided
    cases hanswer : (a.perform q).1 with
    | ok answer =>
      have hquiet : a.quiet.PoliciesDivided := h
      exact hquiet.of_effect (fun d hq => hc d (congrArg _ hq)) (effect_of_perform hanswer)
    | error f =>
      rw [quiet_of_perform_error hanswer]
      exact h
  | queue | clear => exact h

theorem after {cs : List Command} (h : a.PoliciesDivided)
    (hcs : ∀ d, .call (.createPolicy d) ∈ cs → Divided d.path d.name) :
    (a.after cs).PoliciesDivided := by
  induction cs generalizing a with
  | nil => exact h
  | cons c cs ih =>
    refine ih (h.obey fun d hc => hcs d ?_) fun d hd => hcs d (List.mem_cons_of_mem _ hd)
    rw [hc]
    exact List.mem_cons_self

end PoliciesDivided

end Account

open Account (Effect effect_of_asked live_eq_of_asked serves undisturbed unfailing)

/-! ## The place of a configured policy -/

namespace PolicyConfig

variable {c : PolicyConfig} {a : Account}

/-- Something stands in the place if the policy is found or if another one claims the place. -/
theorem exists_stands_iff (hwell : a.WellFormed) :
    (∃ e, a.policies.find? (a.policyArn c.path c.name) = some e) ↔
      (∃ p, a.findPolicy c.name c.path = some p) ∨ ¬c.Unclaimed a := by
  constructor
  · rintro ⟨e, he⟩
    by_cases hsame : e.policy.path = c.path ∧ e.policy.name = c.name
    · exact .inl ⟨e.policy, hwell.findPolicy_eq_some_iff.mpr ⟨e, he, rfl, hsame.2, hsame.1⟩⟩
    · exact .inr fun hplace => hsame (hplace e he)
  · rintro (⟨p, hp⟩ | hclaimed)
    · obtain ⟨e, he, -⟩ := hwell.findPolicy_eq_some_iff.mp hp
      exact ⟨e, he⟩
    · cases he : a.policies.find? (a.policyArn c.path c.name) with
      | some e => exact ⟨e, rfl⟩
      | none => exact absurd (fun e he' => nomatch he.symm.trans he') hclaimed

/-- A policy that is claimed by another one is not found. -/
theorem findPolicy_of_claimed (hwell : a.WellFormed) (h : ¬c.Unclaimed a) :
    a.findPolicy c.name c.path = none := by
  refine Option.eq_none_iff_forall_ne_some.mpr fun p hp => h fun e he => ?_
  obtain ⟨e', he', rfl, hname, hpath⟩ := hwell.findPolicy_eq_some_iff.mp hp
  cases he.symm.trans he'
  exact ⟨hpath, hname⟩

/-- Where all resource names divide, only the policy itself may stand in the place. -/
theorem unclaimed_of_divided (hwell : a.WellFormed) (hdivided : a.PoliciesDivided)
    (h : Divided c.path c.name) : c.Unclaimed a := fun e he =>
  (hdivided _ e he).eq_of_append_eq h (Account.policyArn_inj.mp (hwell _ e he).key)

/-- A policy that might be created for a configuration: whatever its document says, it can be
read. -/
structure Drafts (c : PolicyConfig) (d : PolicyDraft) : Prop where
  name : d.name = c.name
  path : d.path = c.path
  readable : (Document.parse? d.document).isSome = true

/-- How an account tells the configured policy when it looks it up and when it creates it. -/
structure Placed (c : PolicyConfig) (a : Account) : Prop where
  looked : ∃ p?, (a.perform (.findPolicy c.name c.path)).1 = .ok p?
  /-- What is found is in the place, and goes by the name and the path. -/
  found : ∀ p, (a.perform (.findPolicy c.name c.path)).1 = .ok (some p) ↔
    ∃ e, a.policies.find? (a.policyArn c.path c.name) = some e ∧ e.policy = p ∧
      p.name = c.name ∧ p.path = c.path
  refused : ∀ d, c.Drafts d →
    ((a.perform (.createPolicy d)).1 = .error (a.policyTaken c.path c.name) ↔
      (∃ p, (a.perform (.findPolicy c.name c.path)).1 = .ok (some p)) ∨ ¬c.Unclaimed a)
  created : ∀ d, c.Drafts d → (a.perform (.findPolicy c.name c.path)).1 = .ok none →
    c.Unclaimed a → (a.perform (.createPolicy d)).1 = .ok (a.policyOf d)
  /-- Another policy is in the same place if its path and its name run together to the same. -/
  shared : ∀ path name, a.policyArn path name = a.policyArn c.path c.name ↔
    path ++ name = c.path ++ c.name
  apart : Divided c.path c.name → ∀ path name, Divided path name →
    a.policyArn path name = a.policyArn c.path c.name → path = c.path ∧ name = c.name

theorem placed (c : PolicyConfig) (hwell : a.WellFormed) (hfailures : a.failures = []) :
    c.Placed a := by
  have hlook : (a.perform (.findPolicy c.name c.path)).1 = .ok (a.findPolicy c.name c.path) :=
    (Account.answer_eq_ok_iff hfailures).mpr ⟨a, rfl, rfl⟩
  have hfound : ∀ p, (a.perform (.findPolicy c.name c.path)).1 = .ok (some p) ↔
      a.findPolicy c.name c.path = some p := by
    intro p
    rw [hlook, Except.ok.injEq]
  constructor
  case looked => exact ⟨_, hlook⟩
  case found => exact fun p => (hfound p).trans hwell.findPolicy_eq_some_iff
  case refused =>
    rintro d ⟨hname, hpath, hreadable⟩
    rw [Account.answer_eq_error_iff hfailures, exists_congr hfound, ← exists_stands_iff hwell,
      ← hname, ← hpath]
    constructor
    · intro hrefused
      exact (Account.stands_of_createPolicy_error hreadable hrefused).1
    · rintro ⟨e, he⟩
      exact Account.createPolicy_of_stands he
  case created =>
    rintro d ⟨hname, hpath, hreadable⟩ hnone hplace
    have hfree : a.policies.find? (a.policyArn d.path d.name) = none := by
      rw [hname, hpath]
      refine Option.eq_none_iff_forall_ne_some.mpr fun e he => ?_
      rcases (exists_stands_iff hwell).mp ⟨e, he⟩ with ⟨p, hp⟩ | hclaimed
      · cases hnone.symm.trans ((hfound p).mpr hp)
      · exact hclaimed hplace
    exact (Account.answer_eq_ok_iff hfailures).mpr ⟨_, hfree, hreadable, rfl, rfl⟩
  case shared => exact fun path name => Account.policyArn_inj
  case apart =>
    exact fun hdivided path name hdivided' harn =>
      hdivided'.eq_of_append_eq hdivided (Account.policyArn_inj.mp harn)

end PolicyConfig

/-! ## Applications -/

namespace PolicyHandler

variable {h : PolicyHandler} {a : Account} {τ : Type}

/-- A creation fails only if it is cancelled or the place is taken. -/
theorem fault_create (u : Unreliable serves (fun _ _ _ => False) τ) (r : Run τ)
    (hdocument : (Document.parse? h.config.document).isSome = true) :
    let a := u.live r.state
    let fault := (h.create.run u.provider r).1.fault
    fault = none ∨ fault = some (.cancelled h.config.name) ∨
      (∃ e, a.policies.find? (a.policyArn h.config.path h.config.name) = some e) ∧
        fault = some (a.policyTaken h.config.path h.config.name) := by
  unfold create
  obtain ⟨ns, answer, r', hcreate, hcourse, hrun, -⟩ := u.exists_asked h.config.name
    (.createPolicy h.draft) _ r
  rw [hrun]
  rcases answer with f | policy
  · obtain ⟨reply, hcall, hanswer⟩ := hcourse.exists_disturbed hcreate
    rcases hcall.cause_of_error hanswer with ⟨hrefused, -⟩ | ⟨hadmits, -⟩ | ⟨rfl, -⟩
    · have hreadable : (Document.parse? h.draft.document).isSome = true := hdocument
      obtain ⟨hstands, rfl⟩ := Account.stands_of_createPolicy_error hreadable hrefused
      exact .inr (.inr ⟨hstands, rfl⟩)
    · exact hadmits.elim
    · exact .inr (.inl rfl)
  · exact .inl rfl

/-- An application that found nothing creates the policy, unless it is cancelled or another policy
claims the place. -/
theorem fault_of_missed (u : Unreliable serves (fun _ _ _ => False) τ) (r : Run τ)
    (hwell : (u.live r.state).WellFormed)
    (hdocument : (Document.parse? h.config.document).isSome = true)
    (hmissed : Call.Answered (h.apply.calls u.provider r)
      (.findPolicy h.config.name h.config.path) (.ok none)) :
    let a := u.live r.state
    let fault := (h.apply.run u.provider r).1.fault
    fault = none ∨ fault = some (.cancelled h.config.name) ∨
      ¬h.config.Unclaimed a ∧ fault = some (a.policyTaken h.config.path h.config.name) := by
  unfold apply at hmissed ⊢
  obtain ⟨fs, answer, r', hfind, hcourse, hrun, hcalls⟩ := u.exists_asked h.config.name
    (.findPolicy h.config.name h.config.path) _ r
  rw [hcalls] at hmissed
  rw [hrun]
  rcases answer with f | _ | policy
  · rw [Pass.calls_done, List.append_nil] at hmissed
    cases hfind.answer_eq hmissed
  · obtain ⟨hnone, hkept⟩ := effect_of_asked hcourse hfind
    rw [← hkept] at hwell hnone ⊢
    refine (fault_create u r' hdocument).imp_right (Or.imp_right (And.imp_left fun hstands => ?_))
    refine ((PolicyConfig.exists_stands_iff hwell).mp hstands).resolve_left ?_
    rintro ⟨p, hp⟩
    cases hnone.trans hp
  · rcases Call.answered_append.mp hmissed with hmissed | hmissed
    · cases hfind.answer_eq hmissed
    · have hversions := onVersions_update u.provider h (h.status.identify policy) r'
      exact absurd hmissed (not_answered_of_onVersions hversions id _)

/-- Where another policy claims the place, nothing is found and creation is refused. -/
theorem proceeds_apply_claimed (hwell : a.WellFormed) (hclaimed : ¬h.config.Unclaimed a) :
    Proceeds h.apply a
      (.done (h.fail h.status (a.policyTaken h.config.path h.config.name))) a := by
  obtain ⟨e, he⟩ := (PolicyConfig.exists_stands_iff hwell).mpr (.inr hclaimed)
  have hfind : Effect (.findPolicy h.config.name h.config.path) a none a :=
    ⟨(PolicyConfig.findPolicy_of_claimed hwell hclaimed).symm, rfl⟩
  exact .served hfind (.refused (Account.createPolicy_of_stands he) (.refl _ _))

/-- **A policy is refused as existing if it is found, or if another one claims its place.** The
latter takes a path and a name that run together to the same text. It is the only reason for which
an application that found nothing ends so, and there is none as long as only policies are created
of which the resource names divide. -/
theorem found_or_claimed (h : PolicyHandler) {raw : Value}
    (hconfig : PolicyConfig.resolve raw = .ok h.config) (hreachable : a.Reachable)
    (hfailures : a.failures = []) :
    h.config.Placed a ∧
      (∀ cancelled ds,
        let e := Pass.episode unfailing.provider apply h cancelled (⟨a, hfailures⟩, ds)
        Call.Answered e.calls (.findPolicy h.config.name h.config.path) (.ok none) →
          e.result.fault = none ∨ e.result.fault = some (.cancelled h.config.name) ∨
            ¬h.config.Unclaimed a ∧
              e.result.fault = some (a.policyTaken h.config.path h.config.name)) ∧
      (¬h.config.Unclaimed a → (Pass.episode undisturbed apply h false a).result.fault =
        some (a.policyTaken h.config.path h.config.name)) ∧
      ∀ versionLimit cs, a = ({ versionLimit := versionLimit } : Account).after cs →
        (∀ d, .call (.createPolicy d) ∈ cs → Divided d.path d.name) →
          Divided h.config.path h.config.name → h.config.Unclaimed a := by
  have hwell := hreachable.wellFormed
  refine ⟨h.config.placed hwell hfailures, ?missed, ?claimed, ?divided⟩
  case missed =>
    intro cancelled ds e hmissed
    exact fault_of_missed unfailing ⟨cancelled, ⟨a, hfailures⟩, ds⟩ hreachable.quiet.wellFormed
      (PolicyConfig.document_of_resolve hconfig) hmissed
  case claimed =>
    intro hclaimed
    rw [((proceeds_apply_claimed hwell hclaimed).episode hfailures).1]
    rfl
  case divided =>
    rintro versionLimit cs rfl hcs hdivided
    refine PolicyConfig.unclaimed_of_divided hwell (Account.PoliciesDivided.after ?_ hcs) hdivided
    nofun

/-- Policies of one name under two paths stand apart. -/
theorem found_or_claimed_apart :
    let raw : Value := .ofMembers [("policyName", .text "app"), ("policyDocument", .text "[]"),
      ("path", .text "/team/")]
    let h : PolicyHandler := ⟨⟨"app", "[]", "", "/team/", .empty⟩, {}, Fault.defaultClass, 5⟩
    let d : PolicyDraft := { h.draft with path := "/team/ops/" }
    let a := ({} : Account).after [.call (.createPolicy d)]
    let e := Pass.episode undisturbed apply h false a
    PolicyConfig.resolve raw = .ok h.config ∧ a.Reachable ∧ a.failures = [] ∧ h.config.Placed a ∧
      h.config.Unclaimed a ∧ e.result.phase = .converged ∧
      e.after.policies.values.map (·.policy.arn) =
        ["arn:aws:iam::123456789012:policy/team/app",
          "arn:aws:iam::123456789012:policy/team/ops/app"] := by
  intro raw h d a e
  have hconfig : PolicyConfig.resolve raw = .ok h.config := rfl
  have hreachable : a.Reachable := (Account.Reachable.empty _).performed _
  have hfailures : a.failures = [] := by decide +kernel
  obtain ⟨hplaced, -, -, hdivided⟩ := found_or_claimed h hconfig hreachable hfailures
  have hplace : h.config.Unclaimed a := by
    refine hdivided _ _ rfl (fun d' hd' => ?_) ⟨by decide +kernel, by decide +kernel⟩
    cases List.mem_singleton.mp hd'
    exact ⟨by decide +kernel, by decide +kernel⟩
  exact ⟨hconfig, hreachable, hfailures, hplaced, hplace, by decide +kernel, by decide +kernel⟩

/-- Nothing forbids a slash in a name or at any place of a path: two policies may claim one place,
and the second one is refused though it is not found. -/
theorem found_or_claimed_shared :
    let raw : Value := .ofMembers [("policyName", .text "a/b"), ("policyDocument", .text "[]")]
    let raw' : Value := .ofMembers [("policyName", .text "b"), ("policyDocument", .text "[]"),
      ("path", .text "/a/")]
    let h : PolicyHandler := ⟨⟨"a/b", "[]", "", "/", .empty⟩, {}, Fault.defaultClass, 5⟩
    let h' : PolicyHandler := ⟨⟨"b", "[]", "", "/a/", .empty⟩, {}, Fault.defaultClass, 5⟩
    let a := (Pass.episode undisturbed apply h false {}).after
    let e := Pass.episode undisturbed apply h' false a
    PolicyConfig.resolve raw = .ok h.config ∧ PolicyConfig.resolve raw' = .ok h'.config ∧
      a.Reachable ∧ a.failures = [] ∧ h'.config.Drafts h'.draft ∧
      (a.perform (.findPolicy "b" "/a/")).1 = .ok none ∧
      (a.perform (.createPolicy h'.draft)).1 = .error (a.policyTaken "/a/" "b") ∧
      a.policyArn "/" "a/b" = a.policyArn "/a/" "b" ∧
      Call.Answered e.calls (.findPolicy "b" "/a/") (.ok none) ∧
      e.result.fault = some (a.policyTaken "/a/" "b") := by
  intro raw raw' h h' a e
  have hreachable : a.Reachable := (Account.Reachable.empty _).run (r := ⟨false, _⟩) h.apply
  exact ⟨rfl, rfl, hreachable, by decide +kernel, ⟨rfl, rfl, by decide +kernel⟩, by decide +kernel,
    by decide +kernel, by decide +kernel, by decide +kernel, by decide +kernel⟩

end PolicyHandler

end IamConvergence
