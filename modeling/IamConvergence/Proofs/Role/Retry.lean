/-
Deployments that are tried again. A deployment looks at the role before it writes it, so along any
number of them a role goes from missing to standing, and its trust policy from drifted to corrected,
once and for good: no deployment, wherever it was cut off, leads back.
-/
import IamConvergence.Proofs.Idempotence

namespace IamConvergence

open Account (serves admits Effect)
open Pass (Asked)

variable {τ : Type} {truthful : List String} {u : Unreliable serves (admits truthful) τ}
  {config : RoleConfig} {a a' : Account}

/-! ## How a role stands -/

namespace RoleConfig

/-- The role exists and its trust policy says what is configured. -/
def Trusted (c : RoleConfig) (a : Account) : Prop :=
  ∃ e, a.roles.find? c.name = some e ∧ documentsEqual e.role.trustPolicy c.trustDocument = true

/-- Whether there is a role, and whether its trust policy says what is configured. -/
def standing (c : RoleConfig) (a : Account) : Option Bool :=
  (a.roles.find? c.name).map fun e => documentsEqual e.role.trustPolicy c.trustDocument

theorem standing_of_find? {e : RoleEntry} (h : a.roles.find? config.name = some e) :
    config.standing a = some (documentsEqual e.role.trustPolicy config.trustDocument) := by
  rw [standing, h]
  rfl

theorem trusted_iff : config.Trusted a ↔ config.standing a = some true :=
  Option.map_eq_some_iff.symm

theorem standing_eq_none_iff : config.standing a = none ↔ a.roles.find? config.name = none :=
  Option.map_eq_none_iff

end RoleConfig

/-! ## The calls of a deployment -/

/-- The requests that a deployment of a role makes in an account: they look the role up, concern its
attached policies, create it, or correct a trust policy that has drifted. -/
inductive Warranted (config : RoleConfig) (a : Account) : IamRequest → Prop where
  | get : Warranted config a (.getRole config.name)
  | create (d : RoleDraft) (name : d.name = config.name)
    (trust : d.trustPolicy = config.trustDocument) : Warranted config a (.createRole d)
  | update (drifted : config.standing a = some false) :
    Warranted config a (.updateTrustPolicy config.name config.trustDocument)
  | attachment (q : AttachmentRequest) : Warranted config a (q.onRole config.name)

/-- What a request that takes effect makes of the role: it is created with the configured trust
policy, or that is corrected, or nothing of the kind. -/
inductive Turned (config : RoleConfig) (q : IamRequest) (a a' : Account) : Prop where
  | created (operation : q.operation = "CreateRole") (missing : config.standing a = none)
    (trusted : config.standing a' = some true)
  | corrected (operation : q.operation = "UpdateAssumeRolePolicy")
    (drifted : config.standing a = some false) (trusted : config.standing a' = some true)
  | kept (other : q.operation ∉ ["CreateRole", "UpdateAssumeRolePolicy"])
    (same : config.standing a' = config.standing a)

theorem Warranted.turned {q : IamRequest} {answer : q.Answer} (h : Warranted config a q)
    (heffect : Effect q a answer a') : Turned config q a a' := by
  cases h with
  | get =>
    obtain ⟨-, rfl⟩ := heffect
    exact .kept (by simp [IamRequest.operation]) rfl
  | create d name trust =>
    obtain ⟨hmissing, hdocument, rfl, rfl⟩ := heffect
    rw [name] at hmissing
    refine .created rfl (RoleConfig.standing_eq_none_iff.mpr hmissing) ?_
    rw [name, RoleConfig.standing_of_find? (Account.find?_putRole ..)]
    show some (documentsEqual d.trustPolicy config.trustDocument) = some true
    rw [← trust, documentsEqual_self hdocument]
  | update drifted =>
    obtain ⟨hdocument, e, -, rfl⟩ := heffect
    refine .corrected rfl drifted ?_
    rw [RoleConfig.standing_of_find? (Account.find?_putRole ..), documentsEqual_self hdocument]
  | attachment q =>
    have hother : (q.onRole config.name).operation ∉ ["CreateRole", "UpdateAssumeRolePolicy"] := by
      cases q <;> simp [AttachmentRequest.onRole, IamRequest.operation]
    refine .kept hother ?_
    cases q with
    | list =>
      obtain ⟨-, rfl⟩ := heffect
      rfl
    | attach arn =>
      obtain ⟨-, e, he, rfl⟩ := heffect
      rw [RoleConfig.standing_of_find? (Account.find?_putRole ..), RoleConfig.standing_of_find? he]
    | detach arn =>
      obtain ⟨e, he, -, rfl⟩ := heffect
      rw [RoleConfig.standing_of_find? (Account.find?_putRole ..), RoleConfig.standing_of_find? he]

namespace RoleHandler

variable {h : RoleHandler} {cancelled created : Bool} {cs : List (IamCall τ)} {t t' : τ}
  {s : RoleStatus} {report : Report RoleStatus}

/-- A call that a deployment makes where it is warranted. -/
abbrev Proper (u : Unreliable serves (admits truthful) τ) (config : RoleConfig) (c : IamCall τ) :
    Prop :=
  u.Explains c ∧ Warranted config (u.live c.before) c.request

theorem Converging.warranted (hconverging : Converging h s created cancelled cs report) :
    ∀ c ∈ cs, Warranted h.config (u.live c.before) c.request := by
  intro c hc
  cases hconverging with
  | settled =>
    obtain ⟨⟨resource, q, reply, b, b'⟩, -, rfl⟩ := List.mem_map.mp hc
    cases q with
    | list => exact .attachment .list
    | attach arn => exact .attachment (.attach arn)
    | detach arn => exact .attachment (.detach arn)

/-- What a look-up found is how the role stands. -/
theorem standing_of_asked {cancelled' : Bool} {role : Role}
    (hasked : Asked h.config.name (.getRole h.config.name) cancelled cs (.ok (some role)) cancelled')
    (hcourse : u.Course t cs t') : h.config.standing (u.live t') =
      some (documentsEqual role.trustPolicy h.config.trustDocument) := by
  obtain ⟨hget, hkept⟩ := Account.effect_of_asked hcourse hasked
  obtain ⟨e, he, rfl⟩ := Option.map_eq_some_iff.mp hget.symm
  rw [hkept]
  exact RoleConfig.standing_of_find? he

/-- A deployment makes only calls that are warranted where it makes them. -/
theorem Deployed.warranted (hdeployed : Deployed h cancelled cs report) (hcourse : u.Course t cs t') :
    ∀ c ∈ cs, Warranted h.config (u.live c.before) c.request := by
  have get : ∀ {cancelled cancelled' : Bool} {gs : List (IamCall τ)} {answer},
      Asked h.config.name (.getRole h.config.name) cancelled gs answer cancelled' →
      ∀ c ∈ gs, Warranted h.config (u.live c.before) c.request := fun hasked c hc => by
    rw [hasked.request_eq c hc]
    exact .get
  have create : ∀ {cancelled cancelled' : Bool} {ns : List (IamCall τ)} {answer},
      Asked h.config.name (.createRole h.draft) cancelled ns answer cancelled' →
      ∀ c ∈ ns, Warranted h.config (u.live c.before) c.request := fun hasked c hc => by
    rw [hasked.request_eq c hc]
    exact .create h.draft rfl rfl
  -- the role that is corrected is the one that was looked up, as nothing comes between
  have update : ∀ {cancelled cancelled' : Bool} {ns : List (IamCall τ)} {answer} {m m' : τ},
      Asked h.config.name (.updateTrustPolicy h.config.name h.config.trustDocument) cancelled ns
        answer cancelled' → u.Course m ns m' → h.config.standing (u.live m) = some false →
      ∀ c ∈ ns, Warranted h.config (u.live c.before) c.request :=
    fun hasked hcourse hdrifted c hc => by
      rw [hasked.request_eq c hc, hasked.before_eq hcourse.lead c hc]
      exact .update hdrifted
  cases hdeployed with
  | unread hget => exact get hget
  | uncreated hget hcreate => exact List.forall_mem_append.mpr ⟨get hget, create hcreate⟩
  | created hget hcreate hconverging =>
    exact List.forall_mem_append.mpr
      ⟨get hget, List.forall_mem_append.mpr ⟨create hcreate, hconverging.warranted⟩⟩
  | kept hget same hconverging =>
    exact List.forall_mem_append.mpr ⟨get hget, hconverging.warranted⟩
  | unupdated hget drifted hupdate =>
    obtain ⟨m, hgets, hupdates⟩ := hcourse.split
    have hdrifted := standing_of_asked hget hgets
    rw [drifted] at hdrifted
    exact List.forall_mem_append.mpr ⟨get hget, update hupdate hupdates hdrifted⟩
  | updated hget drifted hupdate hconverging =>
    obtain ⟨m, hgets, hrest⟩ := hcourse.split
    obtain ⟨m', hupdates, -⟩ := hrest.split
    have hdrifted := standing_of_asked hget hgets
    rw [drifted] at hdrifted
    exact List.forall_mem_append.mpr ⟨get hget, List.forall_mem_append.mpr
      ⟨update hupdate hupdates hdrifted, hconverging.warranted⟩⟩

/-! ## What calls make of the role -/

section

variable {c : IamCall τ}

theorem Proper.turned (hproper : Proper u config c) :
    u.live c.after = u.live c.before ∨
      Turned config c.request (u.live c.before) (u.live c.after) := by
  obtain ⟨hcall, hwarranted⟩ := hproper
  rcases Account.eq_or_effect hcall with hkept | ⟨answer, heffect⟩
  · exact .inl hkept
  · exact .inr (hwarranted.turned heffect)

/-- Whatever becomes of a call, the role stands as before or as it should. -/
theorem Proper.standing_eq (hproper : Proper u config c) :
    config.standing (u.live c.after) = some true ∨
      config.standing (u.live c.after) = config.standing (u.live c.before) := by
  rcases hproper.turned with hkept | hturned
  · exact .inr (congrArg config.standing hkept)
  · cases hturned with
    | created _ _ trusted => exact .inl trusted
    | corrected _ _ trusted => exact .inl trusted
    | kept _ same => exact .inr same

/-- A role that stands as it should does so from then on. -/
theorem trusted_of_lead (hlead : Call.Lead t cs t') (hproper : ∀ c ∈ cs, Proper u config c)
    (htrusted : config.Trusted (u.live t)) : ∀ s ∈ t :: cs.map (·.after), config.Trusted (u.live s) := by
  have hmoments := hlead.pairwise
    (R := fun s s' => config.Trusted (u.live s) → config.Trusted (u.live s'))
    (fun _ _ _ h h' => h' ∘ h) fun c hc hbefore => by
      rw [RoleConfig.trusted_iff] at hbefore ⊢
      rcases (hproper c hc).standing_eq with htrusted | hsame
      · exact htrusted
      · exact hsame.trans hbefore
  intro s hs
  rcases List.mem_cons.mp hs with rfl | hs
  · exact htrusted
  · exact (List.pairwise_cons.mp hmoments).1 s hs htrusted

end

/-- Whether the role stands in a way. -/
def stands (config : RoleConfig) (v : Option Bool) (a : Account) : Nat :=
  if config.standing a = v then 1 else 0

/-- If the calls of an operation that take effect find the role standing in a way other than it
should, and leave it as it should, then only the first of them takes effect, if any. -/
theorem effects_add_stands_le {operation : String} {v : Option Bool} (hv : v ≠ some true)
    (turn : ∀ q a a', Turned config q a a' → q.operation = operation →
      config.standing a = v ∧ config.standing a' = some true)
    (hlead : Call.Lead t cs t') (hproper : ∀ c ∈ cs, Proper u config c) :
    u.effects (·.operation = operation) cs + stands config v (u.live t') ≤
      stands config v (u.live t) := by
  refine Unreliable.effects_add_le (stands config v) hlead (fun c hc => ?_)
    fun c hc hoperation heffective => ?_
  · unfold stands
    rcases (hproper c hc).standing_eq with htrusted | hsame
    · rw [htrusted, if_neg hv.symm]
      exact Nat.zero_le _
    · exact Nat.le_of_eq (by rw [hsame])
  · obtain ⟨hbefore, hafter⟩ :=
      turn _ _ _ ((hproper c hc).turned.resolve_left heffective) hoperation
    unfold stands
    rw [hafter, hbefore, if_neg hv.symm, if_pos rfl]
    exact Nat.zero_lt_one

theorem stands_le_one (config : RoleConfig) (v : Option Bool) (a : Account) :
    stands config v a ≤ 1 := by
  unfold stands
  split <;> omega

theorem turned_of_create {q : IamRequest} (h : Turned config q a a') (hq : q.operation = "CreateRole") :
    config.standing a = none ∧ config.standing a' = some true := by
  cases h with
  | created _ missing trusted => exact ⟨missing, trusted⟩
  | corrected operation => exact absurd (operation.symm.trans hq) (by decide)
  | kept other => exact absurd (by rw [hq]; exact List.mem_cons_self) other

theorem turned_of_update {q : IamRequest} (h : Turned config q a a')
    (hq : q.operation = "UpdateAssumeRolePolicy") :
    config.standing a = some false ∧ config.standing a' = some true := by
  cases h with
  | created operation => exact absurd (operation.symm.trans hq) (by decide)
  | corrected _ drifted trusted => exact ⟨drifted, trusted⟩
  | kept other => exact absurd (by rw [hq]; exact List.mem_cons_of_mem _ List.mem_cons_self) other

/-! ## Retries -/

/-- The calls of deployments that are tried again lead on, each where it is warranted. -/
theorem proper_chain (u : Unreliable serves (admits truthful) τ) (h : RoleHandler)
    (cancellations : List Bool) (t : τ) :
    let run := Pass.chain u.provider deploy resume cancellations h t
    Call.Lead t run.calls run.state ∧ ∀ c ∈ run.calls, Proper u h.config c := by
  intro run
  have hinvariant : run.input.config = h.config ∧ Call.Lead t run.calls run.state ∧
      ∀ c ∈ run.calls, Proper u h.config c := by
    refine Pass.chain_invariant (I := fun h' s cs =>
      h'.config = h.config ∧ Call.Lead t cs s ∧ ∀ c ∈ cs, Proper u h.config c) ?_
      cancellations h t [] ⟨rfl, rfl, fun _ hc => nomatch hc⟩
    rintro h' cancelled s cs ⟨hconfig, hlead, hproper⟩
    have hcourse := u.course_calls h'.deploy ⟨cancelled, s⟩
    have hwarranted := (deployed u.provider h' ⟨cancelled, s⟩).warranted hcourse
    rw [hconfig] at hwarranted
    exact ⟨hconfig, hlead.append hcourse.lead, List.forall_mem_append.mpr
      ⟨hproper, fun c hc => ⟨hcourse.explained c hc, hwarranted c hc⟩⟩⟩
  exact hinvariant.2

/-- Deployments of a configuration that are tried again create the role at most once, and not at all
where it existed; they correct its trust policy at most once, and not at all where the role was
created or already had it; and after either, reported or not, the trust policy says what is configured
until the end. -/
theorem deploy_writes_once (u : Unreliable serves (admits truthful) τ) (h : RoleHandler)
    (cancellations : List Bool) (t : τ) :
    let cs := (Pass.chain u.provider deploy resume cancellations h t).calls
    let creations := u.effects (·.operation = "CreateRole") cs
    let corrections := u.effects (·.operation = "UpdateAssumeRolePolicy") cs
    creations ≤ 1 ∧
    (∀ e, (u.live t).roles.find? h.config.name = some e → creations = 0) ∧
    corrections ≤ 1 ∧
    (creations = 1 ∨ h.config.Trusted (u.live t) → corrections = 0) ∧
    ∀ ds c es, cs = ds ++ c :: es →
      c.request.operation ∈ ["CreateRole", "UpdateAssumeRolePolicy"] → u.Effective c →
      ∀ s ∈ c.after :: es.map (·.after), h.config.Trusted (u.live s) := by
  intro cs creations corrections
  obtain ⟨hlead, hproper⟩ : Call.Lead t cs _ ∧ ∀ c ∈ cs, Proper u h.config c :=
    proper_chain u h cancellations t
  have hcreations : creations + _ ≤ stands h.config none (u.live t) :=
    effects_add_stands_le (by simp) (fun _ _ _ => turned_of_create) hlead hproper
  have hcorrections : corrections + _ ≤ stands h.config (some false) (u.live t) :=
    effects_add_stands_le (by simp) (fun _ _ _ => turned_of_update) hlead hproper
  have hmissing := stands_le_one h.config none (u.live t)
  have hdrifted := stands_le_one h.config (some false) (u.live t)
  refine ⟨by omega, fun e he => ?_, by omega, fun hwhen => ?_, ?_⟩
  · have hexists : stands h.config none (u.live t) = 0 := by
      unfold stands
      rw [RoleConfig.standing_of_find? he, if_neg (Option.some_ne_none _)]
    omega
  · have hnot : stands h.config (some false) (u.live t) = 0 := by
      unfold stands
      rcases hwhen with hcreated | htrusted
      · -- what was created was missing
        have hstart : h.config.standing (u.live t) = none := by
          by_contra hne
          have : stands h.config none (u.live t) = 0 := if_neg hne
          omega
        rw [hstart, if_neg (by simp)]
      · rw [RoleConfig.trusted_iff.mp htrusted, if_neg (by simp)]
    omega
  · intro ds c es hcs hwrites heffective
    have hmem : ∀ d ∈ c :: es, d ∈ cs := fun d hd => by
      rw [hcs]
      exact List.mem_append_right _ hd
    rw [hcs] at hlead
    obtain ⟨m, -, -, hrest⟩ := hlead.split
    refine trusted_of_lead hrest
      (fun d hd => hproper d (hmem d (List.mem_cons_of_mem _ hd))) (RoleConfig.trusted_iff.mpr ?_)
    have hturned := (hproper c (hmem c List.mem_cons_self)).turned.resolve_left heffective
    cases hturned with
    | created _ _ trusted => exact trusted
    | corrected _ _ trusted => exact trusted
    | kept other => exact absurd hwrites other

/-- Twice two deployments, of which the first is given up after its second call took effect: where the
role is missing that call creates it, and where its trust policy has drifted it corrects that. The
second deployment finds the role as it should be. -/
theorem deploy_writes_once_unacknowledged :
    let h : RoleHandler := ⟨.plain "app" [], {}, Fault.defaultClass⟩
    let u := Account.interrupted []
    let drifted := (Account.perform (.createRole { h.draft with trustPolicy := "1" }) {}).2
    let run := Pass.chain u.provider deploy resume [false, false] h
      (⟨{}, by decide⟩, [.none false, .unacknowledged])
    let run' := Pass.chain u.provider deploy resume [false, false] h
      (⟨drifted, by decide +kernel⟩, [.none false, .unacknowledged])
    run.episodes.map (·.result.phase) = [.retryableFailure, .converged] ∧
      u.effects (·.operation = "CreateRole") run.calls = 1 ∧
      u.effects (·.operation = "UpdateAssumeRolePolicy") run.calls = 0 ∧
      run'.episodes.map (·.result.phase) = [.retryableFailure, .converged] ∧
      u.effects (·.operation = "CreateRole") run'.calls = 0 ∧
      u.effects (·.operation = "UpdateAssumeRolePolicy") run'.calls = 1 ∧
      ∃ ds c es, run'.calls = ds ++ c :: es ∧ u.Effective c ∧
        ∀ s ∈ c.after :: es.map (·.after), h.config.Trusted (u.live s) := by
  intro h u drifted run run'
  let t : { a : Account // a.Truthful [] } × List Disturbance :=
    (⟨{}, by decide⟩, [.none false, .unacknowledged])
  let t' : { a : Account // a.Truthful [] } × List Disturbance :=
    (⟨drifted, by decide +kernel⟩, [.none false, .unacknowledged])
  obtain ⟨-, -, -, hcorrections, -⟩ := deploy_writes_once u h [false, false] t
  obtain ⟨-, hcreations, -, -, htrusted⟩ := deploy_writes_once u h [false, false] t'
  have hone : u.effects (·.operation = "CreateRole") run.calls = 1 := by decide +kernel
  have hexists : ((u.live t').roles.find? "app").isSome = true := by decide +kernel
  obtain ⟨e, he⟩ := Option.isSome_iff_exists.mp hexists
  have hcorrected : u.effects (·.operation = "UpdateAssumeRolePolicy") run'.calls = 1 := by
    decide +kernel
  have hpositive : 0 < u.effects (·.operation = "UpdateAssumeRolePolicy") run'.calls := by
    rw [hcorrected]
    exact Nat.zero_lt_one
  obtain ⟨c, hc, hcounted⟩ := List.countP_pos_iff.mp hpositive
  obtain ⟨hoperation, heffective⟩ := of_decide_eq_true hcounted
  obtain ⟨ds, es, hsplit⟩ := List.append_of_mem hc
  have hwrites : c.request.operation ∈ ["CreateRole", "UpdateAssumeRolePolicy"] := by
    rw [hoperation]
    exact List.mem_cons_of_mem _ List.mem_cons_self
  exact ⟨by decide +kernel, hone, hcorrections (.inl hone), by decide +kernel, hcreations e he,
    hcorrected, ds, c, es, hsplit, heffective, htrusted ds c es hsplit hwrites heffective⟩

end RoleHandler

end IamConvergence
