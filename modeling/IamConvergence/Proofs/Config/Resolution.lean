/-
A raw configuration is resolved to a well-formed one or refused for the first of its requirements
that it does not meet. The well-formed ones are just those that resolving leaves as they are.
-/
import IamConvergence.Iam.Config
import IamConvergence.Proofs.Document.Scanning
import IamConvergence.Proofs.Record.Persistence

namespace IamConvergence

open IamConvergence.Field IamConvergence.Shape

/-! ## Requirements -/

/-- The first requirement of a list that is not met is the one of a given field. -/
def FirstUnmet : List (String × Prop) → String → Prop
  | [], _ => False
  | (name, met) :: rest, field => ¬met ∧ field = name ∨ met ∧ FirstUnmet rest field

/-- The outcome of a check of requirements, one after the other. -/
inductive Checked : List (String × Prop) → Except Fault Unit → Prop where
  | passed : Checked [] (.ok ())
  | met {name : String} {p : Prop} {rest : List (String × Prop)} {result : Except Fault Unit}
    (hp : p) (h : Checked rest result) : Checked ((name, p) :: rest) result
  | unmet {name : String} {p : Prop} {rest : List (String × Prop)} (hp : ¬p)
    (resource message : String) :
    Checked ((name, p) :: rest) (.error (.invalidField resource name message))

namespace Checked

variable {requirements : List (String × Prop)} {result : Except Fault Unit}

/-- A test that keeps a requirement from being met, before the check goes on with it. -/
theorem refuse {name : String} {p c : Prop} [Decidable c] {resource message : String}
    {rest : List (String × Prop)} (hc : c → ¬p) (h : ¬c → Checked ((name, p) :: rest) result) :
    Checked ((name, p) :: rest)
      (if c then .error (.invalidField resource name message) else result) := by
  split
  · rename_i hrefused
    exact .unmet (hc hrefused) _ _
  · rename_i hpassed
    exact h hpassed

theorem all_met (h : Checked requirements (.ok ())) : ∀ r ∈ requirements, r.2 := by
  generalize hresult : Except.ok () = result at h
  induction h with
  | passed => exact List.forall_mem_nil _
  | met hp _ ih => exact List.forall_mem_cons.mpr ⟨hp, ih hresult⟩
  | unmet => cases hresult

theorem eq_ok (h : Checked requirements result) (hmet : ∀ r ∈ requirements, r.2) :
    result = .ok () := by
  induction h with
  | passed => rfl
  | met _ _ ih => exact ih (List.forall_mem_cons.mp hmet).2
  | unmet hp => exact absurd (List.forall_mem_cons.mp hmet).1 hp

theorem first_unmet {fault : Fault} (h : Checked requirements (.error fault)) :
    ∃ resource message field, fault = .validation resource message (some field) ∧
      FirstUnmet requirements field := by
  generalize hresult : Except.error fault = result at h
  induction h with
  | passed => cases hresult
  | met hp _ ih =>
    obtain ⟨resource, message, field, hfault, hfirst⟩ := ih hresult
    exact ⟨resource, message, field, hfault, .inr ⟨hp, hfirst⟩⟩
  | @unmet name _ _ hp resource message =>
    cases hresult
    exact ⟨resource, message, name, rfl, .inl ⟨hp, rfl⟩⟩

end Checked

/-- Resolving is a projection onto the configurations that are well-formed: it gives only such, and
gives each of them back from the value that describes it. What can be read and meets the
requirements is resolved. What is read and refused is so for the first requirement that it does not
meet. -/
structure Projects {α : Type} (parse : Value → Except Mismatch α)
    (resolve : Value → Except Fault α) (write : α → Value) (WellFormed : α → Prop)
    (requirements : α → List (String × Prop)) : Prop where
  image : ∀ raw c, resolve raw = .ok c → WellFormed c
  fixed : ∀ c, WellFormed c → resolve (write c) = .ok c
  accepted : ∀ raw c, parse raw = .ok c → (∀ r ∈ requirements c, r.2) →
    ∃ c', resolve raw = .ok c'
  refused : ∀ raw c fault, parse raw = .ok c → resolve raw = .error fault →
    ∃ resource message field, fault = .validation resource message (some field) ∧
      FirstUnmet (requirements c) field

section

variable {α : Type} {kind : String} {parse : Value → Except Mismatch α}
  {validate : α → Except Fault Unit} {complete : α → α} {requirements : α → List (String × Prop)}

/-- To resolve is to read, to check and to complete. -/
theorem resolve_eq_ok_iff_of_checked (checked : ∀ c, Checked (requirements c) (validate c))
    {raw : Value} {c' : α} :
    (do
      let c ← resolveRaw kind parse raw
      validate c
      .ok (complete c)) = Except.ok c' ↔
      ∃ c, parse raw = .ok c ∧ (∀ r ∈ requirements c, r.2) ∧ complete c = c' := by
  simp only [bind_eq_ok_iff, resolveRaw_eq_ok_iff]
  constructor
  · rintro ⟨c, hparse, _, hvalid, h⟩
    have hchecked := checked c
    rw [hvalid] at hchecked
    exact ⟨c, hparse, hchecked.all_met, Except.ok.inj h⟩
  · rintro ⟨c, hparse, hmet, rfl⟩
    exact ⟨c, hparse, (), (checked c).eq_ok hmet, rfl⟩

theorem Projects.of {write : α → Value} {WellFormed : α → Prop}
    (checked : ∀ c, Checked (requirements c) (validate c))
    (completed : ∀ raw c, parse raw = .ok c → (∀ r ∈ requirements c, r.2) →
      WellFormed (complete c))
    (back : ∀ c, WellFormed c →
      parse (write c) = .ok c ∧ (∀ r ∈ requirements c, r.2) ∧ complete c = c) :
    Projects parse (fun raw => do
      let c ← resolveRaw kind parse raw
      validate c
      .ok (complete c)) write WellFormed requirements where
  image raw c' h := by
    obtain ⟨c, hparse, hmet, rfl⟩ := (resolve_eq_ok_iff_of_checked checked).mp h
    exact completed raw c hparse hmet
  fixed c h := (resolve_eq_ok_iff_of_checked checked).mpr ⟨c, back c h⟩
  accepted _ c hparse hmet :=
    ⟨complete c, (resolve_eq_ok_iff_of_checked checked).mpr ⟨c, hparse, hmet, rfl⟩⟩
  refused raw c fault hparse h := by
    rw [resolveRaw_eq_ok_iff.mpr hparse, ok_bind] at h
    have hchecked := checked c
    rcases bind_eq_error_iff.mp h with hfault | ⟨_, _, hfault⟩
    · rw [hfault] at hchecked
      exact hchecked.first_unmet
    · cases hfault

end

/-! ## Blank text -/

namespace Document

theorem readValue_of_blank {cs : List Char} (h : cs.all CharClass.blank.contains = true)
    (depth : Nat) : ∃ halt, readValue depth cs = .error halt := by
  unfold readValue
  cases hskip : skipBlanks cs with
  | nil => exact ⟨_, rfl⟩
  | cons c rest =>
    have hmem : c ∈ skipBlanks cs := hskip ▸ List.mem_cons_self
    have hblank := List.all_eq_true.mp h c ((List.dropWhile_suffix isBlank).mem hmem)
    have hdigit : ¬c.isDigit = true := fun hdigit =>
      absurd hblank (Bool.eq_false_iff.mp (Rfc3339.not_blank_of_isDigit hdigit))
    dsimp only
    -- what a value can begin with is no blank
    split
    all_goals try exact absurd hblank (by decide)
    rw [if_neg hdigit]
    exact ⟨_, rfl⟩

/-- No document is blank. -/
theorem parse?_of_blank {s : String} (h : isBlankText s = true) : parse? s = none := by
  obtain ⟨halt, hread⟩ := readValue_of_blank h maxDepth
  unfold parse? parse read
  rw [hread]
  rfl

end Document

theorem defaulted_path_ne_empty (path : String) :
    (if path.isEmpty then defaultPath else path) ≠ "" := by
  split
  · decide
  · rename_i hpath
    exact fun h => hpath (String.isEmpty_iff.mpr h)

/-! ## Roles -/

namespace RoleConfig

/-- A trust policy is given, and if it is given as text the text is a document. -/
def IsTrustPolicy (v : Value) : Prop :=
  v ≠ .null ∧ ∀ s, v = .text s → (Document.parse? s).isSome = true

/-- What has to hold of the fields of a configuration that was read, in the order of the checks. -/
def requirements (c : RoleConfig) : List (String × Prop) := [
  ("roleName", c.name ≠ ""),
  ("assumeRolePolicy", IsTrustPolicy c.trustPolicy),
  ("managedPolicyArns", c.managedPolicies ≠ [] ∧
    ∀ arn ∈ c.managedPolicies, isBlankText arn = false),
  ("maxSessionDuration", 0 ≤ c.maxSessionDuration)]

/-- A configuration with all that a role needs. -/
structure WellFormed (c : RoleConfig) : Prop where
  name : c.name ≠ ""
  trust : IsTrustPolicy c.trustPolicy
  managed : c.managedPolicies ≠ []
  entries : ∀ arn ∈ c.managedPolicies, isBlankText arn = false
  duration : 1 ≤ c.maxSessionDuration
  int32 : IsInt32 c.maxSessionDuration
  path : c.path ≠ ""

variable {c : RoleConfig} {raw : Value}

theorem trustFault?_eq_none_iff {v : Value} : trustFault? v = none ↔ IsTrustPolicy v := by
  unfold IsTrustPolicy
  cases v with
  | null => simp [trustFault?]
  | text s =>
    unfold trustFault?
    by_cases hblank : isBlankText s = true
    · simp [hblank, Document.parse?_of_blank hblank]
    · cases hparse : Document.parse? s <;> simp [hblank, hparse]
  | bool _ | number _ | array _ | object _ => simp [trustFault?]

theorem validate_checked (c : RoleConfig) : Checked c.requirements c.validate := by
  unfold requirements validate
  refine .refuse (fun hempty h => h (String.isEmpty_iff.mp hempty)) fun hname => ?_
  refine .met (fun h => hname (String.isEmpty_iff.mpr h)) ?_
  split
  · rename_i message htrust
    refine .unmet (fun h => ?_) _ _
    rw [trustFault?_eq_none_iff.mpr h] at htrust
    cases htrust
  · rename_i htrust
    refine .met (trustFault?_eq_none_iff.mp htrust) ?_
    -- two tests for the managed policies
    refine .refuse (fun hempty h => h.1 (List.isEmpty_iff.mp hempty)) fun hmanaged => ?_
    refine .refuse (fun hblank h => ?_) fun hentries => ?_
    · obtain ⟨arn, harn, htrue⟩ := List.any_eq_true.mp hblank
      exact Bool.false_ne_true ((h.2 arn harn).symm.trans htrue)
    refine .met ⟨fun h => hmanaged (List.isEmpty_iff.mpr h), fun arn harn => ?_⟩ ?_
    · exact Bool.eq_false_iff.mpr fun htrue => hentries (List.any_eq_true.mpr ⟨arn, harn, htrue⟩)
    exact .refuse Int.not_le.mpr fun hduration => .met (Int.not_lt.mp hduration) .passed

theorem resolve_eq_ok_iff {c' : RoleConfig} : resolve raw = .ok c' ↔
    ∃ c, shape.decode "IamRoleConfig" raw = .ok c ∧ (∀ r ∈ c.requirements, r.2) ∧
      c.withDefaults = c' :=
  resolve_eq_ok_iff_of_checked validate_checked

theorem takes (h : IsInt32 c.maxSessionDuration) : shape.Takes [
    ("roleName", some (.text c.name)),
    ("assumeRolePolicy", some c.trustPolicy),
    ("description", presentText c.description),
    ("maxSessionDuration", some (.int c.maxSessionDuration)),
    ("path", presentText c.path),
    ("managedPolicyArns", some (.texts c.managedPolicies)),
    ("tags", presentTable c.tags)] c :=
  (Takes.of RoleConfig.mk).field (takes_text "roleName" (some "") c.name)
    |>.field (takes_anything "assumeRolePolicy" (some .null) c.trustPolicy)
    |>.field (takes_presentText "description" c.description)
    |>.field (takes_int32 "maxSessionDuration" (some 0) h)
    |>.field (takes_presentText "path" c.path)
    |>.field (takes_texts "managedPolicyArns" (some []) c.managedPolicies)
    |>.field (takes_presentTable "tags" c.tags)

theorem int32_of_build (src : Source) :
    shape.Ensures src fun c => IsInt32 c.maxSessionDuration := by
  refine .field (.field (.field (.field (.field (.field (.field (.of ?_)))))))
  intro name _ trust _ description _ duration hduration path _ managed _ tags _
  exact isInt32_of_takes (fun i hi => Option.some.inj hi ▸ by unfold IsInt32; decide) hduration

theorem wellFormed_withDefaults (hmet : ∀ r ∈ c.requirements, r.2)
    (hint : IsInt32 c.maxSessionDuration) : c.withDefaults.WellFormed := by
  simp only [requirements, List.forall_mem_cons] at hmet
  obtain ⟨hname, htrust, ⟨hmanaged, hentries⟩, hduration, -⟩ := hmet
  refine ⟨hname, htrust, hmanaged, hentries, ?_, ?_, defaulted_path_ne_empty c.path⟩
  · unfold withDefaults defaultSessionDuration
    dsimp only
    split <;> omega
  · unfold withDefaults
    dsimp only
    split
    · unfold IsInt32
      decide
    · exact hint

theorem WellFormed.requirements (h : c.WellFormed) : ∀ r ∈ c.requirements, r.2 := by
  simp only [RoleConfig.requirements, List.forall_mem_cons]
  exact ⟨h.name, h.trust, ⟨h.managed, h.entries⟩, Int.le_trans (by decide) h.duration,
    List.forall_mem_nil _⟩

theorem WellFormed.withDefaults_eq (h : c.WellFormed) : c.withDefaults = c := by
  have hpath : ¬c.path.isEmpty = true := fun hempty => h.path (String.isEmpty_iff.mp hempty)
  have hduration : c.maxSessionDuration ≠ 0 := by
    have := h.duration
    omega
  unfold withDefaults
  rw [if_neg hpath, if_neg hduration]

theorem projects : Projects (shape.decode "IamRoleConfig") resolve toValue WellFormed
    requirements := by
  refine .of validate_checked (fun raw c hparse hmet => ?_) fun c h => ?_
  · exact wellFormed_withDefaults hmet (Ensures.of_decode int32_of_build hparse)
  · exact ⟨(takes h.int32).decode_ofPresent (by simp) _, h.requirements, h.withDefaults_eq⟩

/-- The fields that may be left out, with whether they are empty. -/
def emptiness (c : RoleConfig) : List (String × Bool) := [
  ("description", c.description.isEmpty),
  ("path", c.path.isEmpty),
  ("tags", c.tags.isEmpty)]

theorem missing_of_build (ms : List (String × Value)) : shape.Ensures (.ofMembers ms) fun c =>
    ∀ f ∈ c.emptiness, ms.lookup f.1 = none → f.2 = true := by
  refine .field (.field (.field (.field (.field (.field (.field (.of ?_)))))))
  intro name _ trust _ description hdescription _ _ path hpath managed _ tags htags
  simp only [emptiness, List.forall_mem_cons]
  exact ⟨isEmpty_of_takes rfl hdescription, isEmpty_of_takes rfl hpath,
    isEmpty_of_takes rfl htags, List.forall_mem_nil _⟩

theorem omitsEmpty : OmitsEmpty toValue (shape.decode "IamRoleConfig") emptiness where
  omitted c := by
    refine isNone_member?_ofPresent (by simp) ?_
    simp [emptiness, isNone_presentText, isNone_presentTable]
  missing ms _ h := missing_of_build ms _ (decode_object_eq_ok_iff.mp h).2

end RoleConfig

/-! ## Policies -/

namespace PolicyConfig

/-- What has to hold of the fields of a configuration that was read, in the order of the checks. -/
def requirements (c : PolicyConfig) : List (String × Prop) := [
  ("policyName", c.name ≠ ""),
  ("policyDocument", (Document.parse? c.document).isSome = true)]

/-- A configuration with all that a policy needs. -/
structure WellFormed (c : PolicyConfig) : Prop where
  name : c.name ≠ ""
  document : (Document.parse? c.document).isSome = true
  path : c.path ≠ ""

variable {c : PolicyConfig}

theorem validate_checked (c : PolicyConfig) : Checked c.requirements c.validate := by
  unfold requirements validate
  refine .refuse (fun hempty h => h (String.isEmpty_iff.mp hempty)) fun hname => ?_
  refine .met (fun h => hname (String.isEmpty_iff.mpr h)) ?_
  -- two tests for the document, of which the empty text passes neither
  refine .refuse (fun hempty => ?_) fun _ => ?_
  · rw [String.isEmpty_iff.mp hempty]
    decide
  · refine .refuse (fun hnone h => ?_) fun hsome => .met ?_ .passed
    · rw [Option.isNone_iff_eq_none.mp hnone] at h
      cases h
    · exact Option.isSome_iff_ne_none.mpr (mt Option.isNone_iff_eq_none.mpr hsome)

theorem takes (c : PolicyConfig) : shape.Takes [
    ("policyName", some (.text c.name)),
    ("policyDocument", some (.text c.document)),
    ("description", presentText c.description),
    ("path", presentText c.path),
    ("tags", presentTable c.tags)] c :=
  (Takes.of PolicyConfig.mk).field (takes_text "policyName" (some "") c.name)
    |>.field (takes_text "policyDocument" (some "") c.document)
    |>.field (takes_presentText "description" c.description)
    |>.field (takes_presentText "path" c.path)
    |>.field (takes_presentTable "tags" c.tags)

theorem wellFormed_withDefaults (hmet : ∀ r ∈ c.requirements, r.2) :
    c.withDefaults.WellFormed := by
  simp only [requirements, List.forall_mem_cons] at hmet
  obtain ⟨hname, hdocument, -⟩ := hmet
  exact ⟨hname, hdocument, defaulted_path_ne_empty c.path⟩

theorem WellFormed.requirements (h : c.WellFormed) : ∀ r ∈ c.requirements, r.2 := by
  simp only [PolicyConfig.requirements, List.forall_mem_cons]
  exact ⟨h.name, h.document, List.forall_mem_nil _⟩

theorem WellFormed.withDefaults_eq (h : c.WellFormed) : c.withDefaults = c := by
  have hpath : ¬c.path.isEmpty = true := fun hempty => h.path (String.isEmpty_iff.mp hempty)
  unfold withDefaults
  rw [if_neg hpath]

theorem projects : Projects (shape.decode "IamPolicyConfig") resolve toValue WellFormed
    requirements := by
  refine .of validate_checked (fun raw c _ hmet => wellFormed_withDefaults hmet) fun c h => ?_
  exact ⟨(takes c).decode_ofPresent (by simp) _, h.requirements, h.withDefaults_eq⟩

/-- The fields that may be left out, with whether they are empty. -/
def emptiness (c : PolicyConfig) : List (String × Bool) := [
  ("description", c.description.isEmpty),
  ("path", c.path.isEmpty),
  ("tags", c.tags.isEmpty)]

theorem missing_of_build (ms : List (String × Value)) : shape.Ensures (.ofMembers ms) fun c =>
    ∀ f ∈ c.emptiness, ms.lookup f.1 = none → f.2 = true := by
  refine .field (.field (.field (.field (.field (.of ?_)))))
  intro name _ document _ description hdescription path hpath tags htags
  simp only [emptiness, List.forall_mem_cons]
  exact ⟨isEmpty_of_takes rfl hdescription, isEmpty_of_takes rfl hpath,
    isEmpty_of_takes rfl htags, List.forall_mem_nil _⟩

theorem omitsEmpty : OmitsEmpty toValue (shape.decode "IamPolicyConfig") emptiness where
  omitted c := by
    refine isNone_member?_ofPresent (by simp) ?_
    simp [emptiness, isNone_presentText, isNone_presentTable]
  missing ms _ h := missing_of_build ms _ (decode_object_eq_ok_iff.mp h).2

end PolicyConfig

/-! ## Both -/

/-- Resolving is a projection onto the well-formed configurations, of roles and of policies, and in
what is written of them just the empty ones of the optional fields are left out. -/
theorem config_resolution_projects :
    (Projects (RoleConfig.shape.decode "IamRoleConfig") RoleConfig.resolve RoleConfig.toValue
        RoleConfig.WellFormed RoleConfig.requirements ∧
      OmitsEmpty RoleConfig.toValue (RoleConfig.shape.decode "IamRoleConfig")
        RoleConfig.emptiness) ∧
    (Projects (PolicyConfig.shape.decode "IamPolicyConfig") PolicyConfig.resolve
        PolicyConfig.toValue PolicyConfig.WellFormed PolicyConfig.requirements ∧
      OmitsEmpty PolicyConfig.toValue (PolicyConfig.shape.decode "IamPolicyConfig")
        PolicyConfig.emptiness) :=
  ⟨⟨RoleConfig.projects, RoleConfig.omitsEmpty⟩, ⟨PolicyConfig.projects, PolicyConfig.omitsEmpty⟩⟩

/-- A configuration whose trust policy is the text of an empty object. -/
def textTrustConfig : RoleConfig where
  name := "app"
  trustPolicy := .text "\x7b\x7d"
  description := ""
  maxSessionDuration := 3600
  path := "/"
  managedPolicies := ["arn:aws:iam::aws:policy/ReadOnlyAccess"]
  tags := .empty

theorem textTrustConfig_resolves : textTrustConfig.WellFormed ∧
    RoleConfig.resolve textTrustConfig.toValue = .ok textTrustConfig := by
  have htrust : RoleConfig.IsTrustPolicy textTrustConfig.trustPolicy := by
    refine ⟨by decide, fun s hs => ?_⟩
    cases hs
    decide
  have h : textTrustConfig.WellFormed :=
    ⟨by decide, htrust, by decide, by decide, by decide, by unfold IsInt32; decide, by decide⟩
  exact ⟨h, config_resolution_projects.1.1.fixed _ h⟩

end IamConvergence
