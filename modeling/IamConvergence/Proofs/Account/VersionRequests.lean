/-
What the requests about the versions of a policy answer and leave in a reachable account: one rule
for each way that a request may go. That the default version is found under the id that the policy
names, and is the only one that is flagged, rests on what holds of the versions of every reachable
account.
-/
import IamConvergence.Proofs.Account.Histories
import IamConvergence.Proofs.Policy.Versions

namespace IamConvergence

open DocumentVersion (bare mem_others others)
open Version (without)
open VersionStore (Fresh)

namespace Account

variable {a a' : Account} {arn : String} {e : PolicyEntry}

/-! ## The rules -/

/-- The versions of a policy, none if it is not there. -/
def history (a : Account) (arn : String) : List DocumentVersion :=
  ((a.policies.find? arn).map (·.versions)).getD []

theorem history_of_none (h : a.policies.find? arn = none) : a.history arn = [] := by
  rw [history, h]
  rfl

theorem history_of_some (h : a.policies.find? arn = some e) : a.history arn = e.versions := by
  rw [history, h]
  rfl

theorem history_putPolicy (a : Account) (arn : String) (e : PolicyEntry) :
    (a.putPolicy arn e).history arn = e.versions :=
  history_of_some (find?_putPolicy a arn e)

/-- What a request about the versions of a policy answers and leaves. -/
inductive Versioned (a : Account) (arn : String) :
    (q : VersionRequest) → Except Fault q.Answer → Account → Prop where
  | absent {q : VersionRequest} {f : Fault} (none : a.policies.find? arn = none)
    (notFound : f.isNotFound = true) : Versioned a arn q (.error f) a
  | current {e : PolicyEntry} {v : DocumentVersion} (found : a.policies.find? arn = some e)
    (default : e.versions.filter (·.isDefault) = [v]) : Versioned a arn .getDefault (.ok v) a
  | listed {e : PolicyEntry} (found : a.policies.find? arn = some e) :
    Versioned a arn .list (.ok (e.versions.map bare)) a
  | created {e : PolicyEntry} {text : String} (found : a.policies.find? arn = some e) :
    Versioned a arn (.create text) (.ok (versionId e.nextVersion))
      ({ a with tick := a.tick + 1 }.putPolicy arn
        (e.push ⟨versionId e.nextVersion, some text, true, a.now⟩))
  | refused {e : PolicyEntry} {text : String} {f : Fault} (found : a.policies.find? arn = some e)
    (notFound : f.isNotFound = false) : Versioned a arn (.create text) (.error f) a
  | deleted {e : PolicyEntry} {v : DocumentVersion} (found : a.policies.find? arn = some e)
    (mem : v ∈ others e.versions) :
    Versioned a arn (.delete v.id) (.ok ())
      (a.putPolicy arn { e with versions := without v.id e.versions })
  | unknown {e : PolicyEntry} {id : String} {f : Fault} (found : a.policies.find? arn = some e)
    (fresh : Fresh id e.versions) (notFound : f.isNotFound = true) :
    Versioned a arn (.delete id) (.error f) a
  | kept {e : PolicyEntry} {v : DocumentVersion} {f : Fault}
    (found : a.policies.find? arn = some e) (mem : v ∈ e.versions) (default : v.isDefault = true)
    (notFound : f.isNotFound = false) : Versioned a arn (.delete v.id) (.error f) a

/-- About a policy that is not there every request is answered so. -/
theorem versionEffect_of_none (h : a.policies.find? arn = none) (q : VersionRequest) :
    ∃ f, f.isNotFound = true ∧ versionEffect arn q a = .error f := by
  have hentry := policyEntry_of_none h
  cases q with
  | getDefault =>
    exact ⟨.notFound arn "policy does not exist", rfl, by simp only [versionEffect, h]⟩
  | list =>
    exact ⟨noPolicy arn, rfl, by simp only [versionEffect, effect, listVersions, hentry]; rfl⟩
  | create text =>
    exact ⟨noPolicy arn, rfl, by simp only [versionEffect, effect, createVersion, hentry]; rfl⟩
  | delete id =>
    exact ⟨noPolicy arn, rfl, by simp only [versionEffect, effect, deleteVersion, hentry]; rfl⟩

theorem isNotFound_of_checkDocument {resource operation document : String} {f : Fault}
    (h : checkDocument resource operation document = .error f) : f.isNotFound = false := by
  unfold checkDocument at h
  split at h
  · cases h
    rfl
  · cases h

/-- A creation of a version of a policy that is there is refused for another reason. -/
theorem isNotFound_of_createVersion {text : String} {asDefault : Bool} {f : Fault}
    (he : a.policies.find? arn = some e) (h : a.createVersion arn text asDefault = .error f) :
    f.isNotFound = false := by
  simp only [createVersion, policyEntry_eq_ok_iff.mpr he, bind, Except.bind] at h
  split at h
  · cases h
    rfl
  · cases hdocument : checkDocument arn "CreatePolicyVersion" text with
    | error g =>
      rw [hdocument] at h
      cases h
      exact isNotFound_of_checkDocument hdocument
    | ok u =>
      rw [hdocument] at h
      cases h

/-- A version is not deleted if there is none with the id, or if it is the default. -/
theorem refused_of_deleteVersion {id : String} {f : Fault} (he : a.policies.find? arn = some e)
    (h : a.deleteVersion arn id = .error f) :
    (Fresh id e.versions ∧ f.isNotFound = true) ∨
      ∃ v ∈ e.versions, v.id = id ∧ v.isDefault = true ∧ f.isNotFound = false := by
  simp only [deleteVersion, policyEntry_eq_ok_iff.mpr he, bind, Except.bind] at h
  cases hfind : e.versions.find? (·.id == id) with
  | none =>
    rw [hfind] at h
    cases h
    refine .inl ⟨fun v hv heq => ?_, rfl⟩
    exact List.find?_eq_none.mp hfind v hv (beq_iff_eq.mpr heq)
  | some v =>
    simp only [hfind] at h
    split at h
    · rename_i hdefault
      cases h
      exact .inr ⟨v, List.mem_of_find?_eq_some hfind, by simpa using List.find?_some hfind, hdefault,
        rfl⟩
    · cases h

/-- With nothing in the way a request about versions goes as the rules say. -/
theorem Reachable.versioned (h : a.Reachable) {q : VersionRequest} {answer : Except Fault q.Answer}
    (hserved : Service.ofEffect (versionEffect arn) q a answer a') :
    Versioned a arn q answer a' := by
  cases hfind : a.policies.find? arn with
  | none =>
    obtain ⟨f, hf, heffect⟩ := versionEffect_of_none hfind q
    have hrefused : Service.ofEffect (versionEffect arn) q a (.error f) a := ⟨heffect, rfl⟩
    obtain ⟨rfl, rfl⟩ := Service.ofEffect_unique hserved hrefused
    exact .absent hfind hf
  | some e =>
    have hdated := h.dated arn e hfind
    cases q with
    | getDefault =>
      obtain ⟨d, hd⟩ := hdated.orderly.sound.exists_default
      obtain ⟨hmem, hdefault⟩ := List.mem_filter.mp (hd ▸ List.mem_singleton_self d)
      -- the version that the policy names is the only one that is flagged
      have hnamed : e.versions.find? (·.id == e.policy.defaultVersionId) = some d := by
        obtain ⟨v, hv⟩ : ∃ v, e.versions.find? (·.id == e.policy.defaultVersionId) = some v :=
          Option.isSome_iff_exists.mp (List.find?_isSome.mpr
            ⟨d, hmem, beq_iff_eq.mpr (hdated.default d hmem hdefault)⟩)
        have hid : v.id = d.id := by
          rw [hdated.default d hmem hdefault]
          simpa using List.find?_some hv
        rw [hv, hdated.orderly.sound.eq_of_id (List.mem_of_find?_eq_some hv) hmem hid]
      have hget : Effect (.getVersion arn e.policy.defaultVersionId) a d a :=
        ⟨⟨e, hfind, hnamed⟩, rfl⟩
      have heffect : Service.ofEffect (versionEffect arn) .getDefault a (.ok d) a := by
        show versionEffect arn .getDefault a = .ok (d, a)
        simp only [versionEffect, hfind]
        exact effect_eq_ok_iff.mpr hget
      obtain ⟨rfl, rfl⟩ := Service.ofEffect_unique hserved heffect
      exact .current hfind hd
    | list =>
      have hlist : Effect (.listVersions arn) a (e.versions.map bare) a := ⟨⟨e, hfind, rfl⟩, rfl⟩
      have heffect : Service.ofEffect (versionEffect arn) .list a (.ok (e.versions.map bare)) a :=
        effect_eq_ok_iff.mpr hlist
      obtain ⟨rfl, rfl⟩ := Service.ofEffect_unique hserved heffect
      exact .listed hfind
    | create text =>
      cases answer with
      | ok id =>
        obtain ⟨v, rfl, e', he', -, -, rfl, rfl⟩ := effect_of_create hserved
        cases hfind.symm.trans he'
        exact .created hfind
      | error f =>
        obtain ⟨heffect, rfl⟩ := hserved
        exact .refused hfind (isNotFound_of_createVersion hfind (map_eq_error_iff.mp heffect))
    | delete id =>
      cases answer with
      | ok u =>
        have hdelete : Effect (.deleteVersion arn id) a u a' := effect_eq_ok_iff.mp hserved
        obtain ⟨e', he', v, hv, hnot, rfl⟩ := hdelete
        cases hfind.symm.trans he'
        have hid : v.id = id := by simpa using List.find?_some hv
        rw [eraseP_eq_without hdated.orderly.sound.distinct, ← hid]
        exact .deleted hfind (mem_others.mpr ⟨List.mem_of_find?_eq_some hv, hnot⟩)
      | error f =>
        obtain ⟨heffect, rfl⟩ := hserved
        have hdelete : a'.deleteVersion arn id = .error f := map_eq_error_iff.mp heffect
        rcases refused_of_deleteVersion hfind hdelete with ⟨hfresh, hf⟩ | ⟨v, hv, rfl, hdefault, hf⟩
        · exact .unknown hfind hfresh hf
        · exact .kept hfind hv hdefault hf

namespace Versioned

variable {id : String} {v : DocumentVersion}

theorem of_found {answer : Except Fault DocumentVersion}
    (h : Versioned a arn .getDefault answer a') (he : a.policies.find? arn = some e) :
    ∃ v, e.versions.filter (·.isDefault) = [v] ∧ answer = .ok v := by
  cases h with
  | absent none => cases he.symm.trans none
  | current found default =>
    cases he.symm.trans found
    exact ⟨_, default, rfl⟩

theorem getDefault_notFound_iff {answer : Except Fault DocumentVersion}
    (h : Versioned a arn .getDefault answer a') :
    (∃ f, answer = .error f ∧ f.isNotFound = true) ↔ a.policies.find? arn = none := by
  cases h with
  | absent none notFound => exact ⟨fun _ => none, fun _ => ⟨_, rfl, notFound⟩⟩
  | current found =>
    constructor
    · rintro ⟨f, hf, -⟩
      cases hf
    · intro hnone
      cases found.symm.trans hnone

theorem listed_of_found {answer : Except Fault (List DocumentVersion)}
    (h : Versioned a arn .list answer a') (he : a.policies.find? arn = some e) :
    answer = .ok (e.versions.map bare) := by
  cases h with
  | absent none => cases he.symm.trans none
  | listed found =>
    cases he.symm.trans found
    rfl

theorem created_of_ok {text : String} (h : Versioned a arn (.create text) (.ok id) a') :
    ∃ e, a.policies.find? arn = some e ∧ id = versionId e.nextVersion ∧
      a' = { a with tick := a.tick + 1 }.putPolicy arn (e.push ⟨id, some text, true, a.now⟩) := by
  cases h with
  | created found => exact ⟨_, found, rfl, rfl⟩

section

variable {answer : Except Fault Unit} (h : Versioned a arn (.delete id) answer a')

include h

theorem delete_notFound_iff :
    (∃ f, answer = .error f ∧ f.isNotFound = true) ↔ Fresh id (a.history arn) := by
  cases h with
  | absent none notFound =>
    rw [history_of_none none]
    exact ⟨fun _ _ hv => (nomatch hv), fun _ => ⟨_, rfl, notFound⟩⟩
  | deleted found mem =>
    rw [history_of_some found]
    constructor
    · rintro ⟨f, hf, -⟩
      cases hf
    · intro hfresh
      exact absurd rfl (hfresh _ (mem_others.mp mem).1)
  | unknown found fresh notFound =>
    rw [history_of_some found]
    exact ⟨fun _ => fresh, fun _ => ⟨_, rfl, notFound⟩⟩
  | kept found mem default notFound =>
    rw [history_of_some found]
    constructor
    · rintro ⟨f, hf, hnotFound⟩
      cases hf
      cases notFound.symm.trans hnotFound
    · intro hfresh
      exact absurd rfl (hfresh _ mem)

theorem deleted_of_mem (hsound : VersionStore.Sound e.versions) (he : a.policies.find? arn = some e)
    (hv : v ∈ e.versions) (hnot : v.isDefault = false) (hid : v.id = id) :
    answer = .ok () ∧ a' = a.putPolicy arn { e with versions := without id e.versions } := by
  cases h with
  | absent none => cases he.symm.trans none
  | deleted found =>
    cases he.symm.trans found
    exact ⟨rfl, rfl⟩
  | unknown found fresh =>
    cases he.symm.trans found
    exact absurd hid (fresh v hv)
  | kept found mem default =>
    cases he.symm.trans found
    rw [hsound.eq_of_id hv mem hid, default] at hnot
    cases hnot

theorem kept_of_default (hsound : VersionStore.Sound e.versions)
    (he : a.policies.find? arn = some e) (hv : v ∈ e.versions) (hdefault : v.isDefault = true)
    (hid : v.id = id) : (∃ f, answer = .error f ∧ f.isNotFound = false) ∧ a' = a := by
  cases h with
  | absent none => cases he.symm.trans none
  | deleted found mem =>
    cases he.symm.trans found
    obtain ⟨hmem, hnot⟩ := mem_others.mp mem
    rw [← hsound.eq_of_id hv hmem hid, hdefault] at hnot
    cases hnot
  | unknown found fresh =>
    cases he.symm.trans found
    exact absurd hid (fresh v hv)
  | kept found mem default notFound => exact ⟨⟨_, rfl, notFound⟩, rfl⟩

end

end Versioned

end Account

end IamConvergence
