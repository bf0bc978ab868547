/-
Deleting a policy after it was applied again and again under disturbances, each time with the status
that was kept. The status names the policy from the first application that was told of it, so a
deletion that converges leaves none. But a creation that took effect and was given up is not told of;
unless a later application looks the policy up, the deletion has no resource name to go by, and the
policy stays.
-/
import IamConvergence.Proofs.Idempotence
import IamConvergence.Proofs.Policy.Removal
import Mathlib.Data.List.DropRight

namespace IamConvergence

open Account (serves admits undisturbed Effect effect_of_asked)

variable {τ : Type} {truthful : List String} {u : Unreliable serves (admits truthful) τ} {t t' : τ}
  {a a' : Account}

namespace PolicyHandler

variable {h : PolicyHandler} {cancelled : Bool} {cs ds : List (IamCall τ)} {c : IamCall τ}
  {report : Report PolicyStatus}

/-! ## Deletions that converge -/

/-- Disturbed, a step that converges reports the kept status and leaves no policy under the resource
name that it tells, if it tells one. -/
def Empties (u : Unreliable serves (admits truthful) τ) (h : PolicyHandler) (step : PolicyStep) :
    Prop :=
  ∀ r : Run τ, let x := step.run u.provider r
    x.1.phase = .converged → x.1.status = h.status ∧
      (h.status.arn ≠ "" → (u.live x.2.state).policies.find? h.status.arn = none)

theorem empties_fail (h : PolicyHandler) (status : PolicyStatus) (f : Fault) :
    Empties u h (.done (h.fail status f)) :=
  fun _ hphase => absurd hphase (Report.ofFault_phase_ne _ _ _)

/-- What is asked first does not matter to a step that goes on to remove the policy. -/
theorem empties_ask {resource : String} {q : IamRequest} {next : Except Fault q.Answer → PolicyStep}
    (hnext : ∀ answer, Empties u h (next answer)) : Empties u h (.ask resource q next) := by
  intro r
  obtain ⟨cs, answer, r', -, -, hrun, -⟩ := u.exists_asked resource q next r
  rw [hrun]
  exact hnext answer r'

theorem empties_deleteLast (hdelete : "DeletePolicy" ∈ truthful) (h : PolicyHandler) :
    Empties u h h.deleteLast := by
  intro r
  unfold deleteLast
  obtain ⟨cs, answer, r', hasked, hcourse, hrun, -⟩ :=
    u.exists_asked h.status.arn (.deletePolicy h.status.arn) _ r
  obtain ⟨reply, hcall, rfl⟩ := hcourse.exists_disturbed hasked
  rw [hrun]
  cases hcounts : removalFault? (reply.answer h.status.arn) with
  | some f => exact empties_fail h h.status f r'
  | none => exact fun _ => ⟨rfl, fun _ => Account.absent_of_counts hcall hdelete hcounts⟩

theorem empties_deleteVersions (hdelete : "DeletePolicy" ∈ truthful) (h : PolicyHandler) :
    ∀ ids : List String, Empties u h (h.deleteVersions ids)
  | [] => empties_deleteLast hdelete h
  | id :: ids => by
    refine empties_ask fun answer => ?_
    cases removalFault? answer with
    | some f => exact empties_fail h h.status f
    | none => exact empties_deleteVersions hdelete h ids

/-- Also if it is made up that there are no versions to be found. -/
theorem empties_deleteExisting (hdelete : "DeletePolicy" ∈ truthful) (h : PolicyHandler) :
    Empties u h h.deleteExisting := by
  refine empties_ask fun answer => ?_
  cases answer with
  | ok versions => exact empties_deleteVersions hdelete h _
  | error f =>
    dsimp only
    split
    · exact empties_deleteLast hdelete h
    · exact empties_fail h h.status f

theorem empties_delete (hdelete : "DeletePolicy" ∈ truthful) (h : PolicyHandler) :
    Empties u h h.delete := by
  intro r
  unfold delete lookUp
  split
  · rename_i hempty
    exact fun _ => ⟨rfl, fun harn => absurd (String.isEmpty_iff.mp hempty) harn⟩
  · obtain ⟨cs, answer, r', hasked, hcourse, hrun, -⟩ :=
      u.exists_asked h.status.arn (.getPolicy h.status.arn) _ r
    rw [hrun]
    rcases answer with f | _ | policy
    · exact empties_fail h h.status f r'
    · obtain ⟨hget, hkept⟩ := effect_of_asked hcourse hasked
      refine fun _ => ⟨rfl, fun _ => ?_⟩
      show (u.live r'.state).policies.find? h.status.arn = none
      rw [hkept]
      exact Option.map_eq_none_iff.mp hget.symm
    · exact empties_deleteExisting hdelete h r'

/-- Undisturbed, a step that converges leaves no policy under a resource name. -/
def Removes (arn : String) (step : PolicyStep) : Prop :=
  ∀ a : Account, a.failures = [] → (step.run undisturbed ⟨false, a⟩).1.phase = .converged →
    (step.run undisturbed ⟨false, a⟩).2.state.policies.find? arn = none

/-- A deletion with a resource name to go by removes the policy that it names. -/
theorem removes_delete (harn : h.status.arn ≠ "") : Removes h.status.arn h.delete := by
  intro a hfailures hphase
  have htruthful : a.Truthful ["DeletePolicy"] := by
    unfold Account.Truthful
    rw [hfailures]
    exact fun e he => nomatch he
  rw [Account.run_undisturbed htruthful] at hphase ⊢
  exact (empties_delete List.mem_cons_self h _ hphase).2 harn

/-- A deletion without a resource name asks nothing and converges. -/
theorem episode_delete_of_blank (hblank : h.status = {}) (a : Account) :
    let d := Pass.episode undisturbed delete h false a
    d.calls = [] ∧ d.result.phase = .converged ∧ d.after = a := by
  have hdelete : h.delete = .done (.success h.status "No policy to delete") := by
    unfold delete
    rw [hblank]
    rfl
  simp only [Pass.episode, hdelete]
  exact ⟨rfl, rfl, rfl⟩

/-! ## Creations that are not told of -/

/-- The creation of the policy was given up after it had taken effect. -/
def LostCreation (u : Unreliable serves (admits truthful) τ) (h : PolicyHandler) (c : IamCall τ) :
    Prop :=
  c.request = .createPolicy h.draft ∧ c.reply.isAbandoned = true ∧ u.Effective c

instance (u : Unreliable serves (admits truthful) τ) (h : PolicyHandler) (c : IamCall τ) :
    Decidable (h.LostCreation u c) :=
  inferInstanceAs (Decidable (_ ∧ _ ∧ _))

/-- The policy could be looked up by its name and path. -/
def LookedUp (h : PolicyHandler) (c : IamCall τ) : Prop :=
  c.request = .findPolicy h.config.name h.config.path ∧ c.answer.isOk = true

instance (h : PolicyHandler) (c : IamCall τ) : Decidable (h.LookedUp c) :=
  inferInstanceAs (Decidable (_ ∧ _))

/-- Since the policy could last be looked up, it was created without the handler being told. -/
def Forgotten (u : Unreliable serves (admits truthful) τ) (h : PolicyHandler)
    (cs : List (IamCall τ)) : Prop :=
  ∃ c ∈ cs.rtakeWhile (fun c => ¬h.LookedUp c), h.LostCreation u c

instance (u : Unreliable serves (admits truthful) τ) (h : PolicyHandler) (cs : List (IamCall τ)) :
    Decidable (h.Forgotten u cs) :=
  inferInstanceAs (Decidable (∃ c ∈ _, _))

theorem forgotten_concat : h.Forgotten u (cs ++ [c]) ↔
    ¬h.LookedUp c ∧ (h.LostCreation u c ∨ h.Forgotten u cs) := by
  unfold Forgotten
  rw [List.rtakeWhile_concat]
  by_cases hlooked : h.LookedUp c
  · simp [hlooked]
  · simp [hlooked, or_comm, or_and_right, exists_or]

/-- Nothing is forgotten by calls that do not create the policy. -/
theorem not_forgotten_append (hcs : ¬h.Forgotten u cs) (hds : ∀ d ∈ ds, ¬h.LostCreation u d) :
    ¬h.Forgotten u (cs ++ ds) := by
  induction ds generalizing cs with
  | nil => rwa [List.append_nil]
  | cons d ds ih =>
    rw [List.append_cons]
    refine ih ?_ fun d' hd' => hds d' (List.mem_cons_of_mem _ hd')
    rw [forgotten_concat]
    rintro ⟨-, hlost | hforgotten⟩
    · exact hds d List.mem_cons_self hlost
    · exact hcs hforgotten

/-- A look-up that fails tells nothing. -/
theorem forgotten_append_unread {resource : String} {cancelled' : Bool} {f : Fault}
    (find : Pass.Asked resource (.findPolicy h.config.name h.config.path) cancelled ds (.error f)
      cancelled') : h.Forgotten u (cs ++ ds) ↔ h.Forgotten u cs := by
  generalize hanswer : (.error f :
    Except Fault (IamRequest.Answer (.findPolicy h.config.name h.config.path))) = answer at find
  cases find with
  | skipped => rw [List.append_nil]
  | made reply s s' =>
    have hnot : ¬h.LookedUp (⟨resource, _, reply, s, s'⟩ : IamCall τ) := by
      rintro ⟨-, hok⟩
      have herror : (reply.answer resource).isOk = true := hok
      rw [← hanswer] at herror
      cases herror
    rw [forgotten_concat]
    exact ⟨fun ⟨_, hor⟩ => hor.resolve_left (fun hlost => nomatch hlost.1), fun h => ⟨hnot, .inr h⟩⟩

/-- A look-up that is answered makes up for whatever was not told of. -/
theorem not_forgotten_found {resource : String} {cancelled' : Bool} {found : Option Policy}
    (find : Pass.Asked resource (.findPolicy h.config.name h.config.path) cancelled ds (.ok found)
      cancelled') (cs : List (IamCall τ)) : ¬h.Forgotten u (cs ++ ds) := by
  obtain ⟨reply, s, s', rfl, hanswer⟩ := find.of_ok
  rw [forgotten_concat]
  rintro ⟨hnot, -⟩
  refine hnot ⟨rfl, ?_⟩
  show (reply.answer resource).isOk = true
  rw [hanswer]
  rfl

/-! ## What the status knows -/

/-- What the kept status of a handler knows of the policy of an account, after some calls. -/
inductive Tracked (u : Unreliable serves (admits truthful) τ) (h : PolicyHandler) (a : Account)
    (cs : List (IamCall τ)) : Prop where
  | absent (blank : h.status = {})
    (missing : a.findPolicy h.config.name h.config.path = none) (told : ¬h.Forgotten u cs)
  | known {p : Policy} (named : h.status.arn = p.arn)
    (found : a.findPolicy h.config.name h.config.path = some p) (told : ¬h.Forgotten u cs)
  | forgotten {p : Policy} (blank : h.status = {})
    (found : a.findPolicy h.config.name h.config.path = some p) (untold : h.Forgotten u cs)

namespace Tracked

theorem blank (htracked : Tracked u h a cs)
    (hmissing : a.findPolicy h.config.name h.config.path = none) : h.status = {} := by
  cases htracked with
  | absent blank => exact blank
  | known named found => cases hmissing.symm.trans found
  | forgotten blank => exact blank

theorem congr (htracked : Tracked u h a cs) (hforgotten : h.Forgotten u ds ↔ h.Forgotten u cs) :
    Tracked u h a ds := by
  cases htracked with
  | absent blank missing told => exact .absent blank missing (mt hforgotten.mp told)
  | known named found told => exact .known named found (mt hforgotten.mp told)
  | forgotten blank found untold => exact .forgotten blank found (hforgotten.mpr untold)

end Tracked

/-- A creation that fails has left the account as it was, or it was given up after its effect. -/
theorem tracked_of_uncreated {cancelled' : Bool} {f : Fault} {m : τ} (hwell : (u.live m).WellFormed)
    (hblank : h.status = {})
    (hmissing : (u.live m).findPolicy h.config.name h.config.path = none)
    (htold : ¬h.Forgotten u cs) (hcourse : u.Course m ds t')
    (create : Pass.Asked h.config.name (.createPolicy h.draft) cancelled ds (.error f) cancelled') :
    (u.live t').WellFormed ∧ Tracked u h (u.live t') (cs ++ ds) := by
  generalize hanswer : (.error f : Except Fault (IamRequest.Answer (.createPolicy h.draft))) =
    answer at create
  cases create with
  | skipped =>
    obtain rfl := hcourse.lead
    rw [List.append_nil]
    exact ⟨hwell, .absent hblank hmissing htold⟩
  | made reply s s' =>
    obtain ⟨rfl, rfl⟩ := hcourse.lead
    have hcall := hcourse.explained _ List.mem_cons_self
    have hunread : ¬h.LookedUp (⟨h.config.name, .createPolicy h.draft, reply, s, t'⟩ : IamCall τ) :=
      fun hlooked => nomatch hlooked.1
    by_cases hkept : u.live t' = u.live s
    · rw [hkept]
      refine ⟨hwell, .absent hblank hmissing ?_⟩
      rw [forgotten_concat]
      rintro ⟨-, hlost | hforgotten⟩
      · exact hlost.2.2 hkept
      · exact htold hforgotten
    · -- it took effect, so that it can only fail for having been given up
      obtain ⟨policy, heffect⟩ := (Account.eq_or_effect hcall).resolve_left hkept
      have habandoned : reply.isAbandoned = true := by
        rcases hcall.cause_of_error hanswer.symm with ⟨-, hsame⟩ | ⟨-, hsame⟩ | ⟨-, habandoned⟩
        · exact absurd hsame hkept
        · exact absurd hsame hkept
        · exact habandoned
      have hwell' := hwell.of_effect heffect
      refine ⟨hwell', .forgotten hblank (findPolicy_of_createPolicy hwell' heffect) ?_⟩
      rw [forgotten_concat]
      exact ⟨hunread, .inl ⟨rfl, habandoned, hkept⟩⟩

/-- An application keeps track of the policy. -/
theorem Applied.tracked (happlied : Applied u h t cancelled ds report t')
    (hwell : (u.live t).WellFormed) (htracked : Tracked u h (u.live t) cs) :
    (u.live t').WellFormed ∧
      Tracked u { h with status := report.status } (u.live t') (cs ++ ds) := by
  cases happlied with
  | unread find course =>
    rw [Account.live_eq_of_asked course find rfl]
    exact ⟨hwell, htracked.congr (forgotten_append_unread find)⟩
  | uncreated find create course =>
    obtain ⟨m, hfinds, hcreates⟩ := course.split
    obtain ⟨hmissing, hkept⟩ := effect_of_asked hfinds find
    have hblank := htracked.blank hmissing.symm
    rw [← List.append_assoc]
    rw [← hkept] at hwell hmissing
    exact tracked_of_uncreated hwell hblank hmissing.symm (not_forgotten_found find cs) hcreates
      create
  | @created _ _ fs ns policy _ find create course details =>
    obtain ⟨m, hfinds, hcreates⟩ := course.split
    obtain ⟨-, hkept⟩ := effect_of_asked hfinds find
    have heffect := effect_of_asked hcreates create
    rw [hkept] at heffect
    have hwell' := hwell.of_effect heffect
    refine ⟨hwell', .known rfl (findPolicy_of_createPolicy hwell' heffect) ?_⟩
    rw [← List.append_assoc]
    refine not_forgotten_append (not_forgotten_found find cs) fun c hc => ?_
    -- a creation that is answered was not given up
    obtain ⟨reply, s, s', rfl, hanswer⟩ := create.of_ok
    obtain rfl := List.mem_singleton.mp hc
    rintro ⟨-, habandoned, -⟩
    cases reply with
    | completed => cases habandoned
    | abandoned => cases hanswer
  | @updated _ _ fs ws policy o m _ find course reconciled course' adapted =>
    obtain ⟨hfound, hkept⟩ := effect_of_asked course find
    rw [← hkept] at hwell hfound
    obtain ⟨hwell', e, he, hpolicy⟩ :=
      Account.stays_of_course course' ⟨hwell, holds_of_findPolicy hwell hfound.symm⟩
    refine ⟨hwell', .known ?_ (findPolicy_of_holds hwell hwell' hfound.symm he hpolicy) ?_⟩
    · rw [updated_status, hpolicy]
      rfl
    · rw [← List.append_assoc]
      refine not_forgotten_append (not_forgotten_found find cs) fun c hc hlost => ?_
      have hversions := adapted c hc
      rw [hlost.1] at hversions
      exact hversions

/-- Applications, each with the status that the one before it reported, keep track of the policy. -/
theorem tracked_chain (u : Unreliable serves (admits truthful) τ) (h : PolicyHandler)
    (hblank : h.status = {}) (hwell : (u.live t).WellFormed)
    (hmissing : (u.live t).findPolicy h.config.name h.config.path = none)
    (cancellations : List Bool) :
    let run := Pass.chain u.provider apply resume cancellations h t
    (∃ status, run.input = { h with status := status }) ∧ (u.live run.state).WellFormed ∧
      Tracked u run.input (u.live run.state) run.calls := by
  refine Pass.chain_invariant (I := fun h' s cs => (∃ status, h' = { h with status := status }) ∧
    (u.live s).WellFormed ∧ Tracked u h' (u.live s) cs) ?_ cancellations h t [] ?_
  · rintro h' cancelled s cs ⟨⟨status, rfl⟩, hwell, htracked⟩
    exact ⟨⟨_, rfl⟩, (applied u _ ⟨cancelled, s⟩).tracked hwell htracked⟩
  · refine ⟨⟨h.status, rfl⟩, hwell, .absent hblank hmissing ?_⟩
    rintro ⟨c, hc, -⟩
    cases hc

/-! ## What a deletion leaves -/

/-- Undisturbed, a deletion that converges leaves no policy of the name and path of the one that the
status names. -/
theorem findPolicy_of_delete {p : Policy} {name path : String} (hwell : a.WellFormed)
    (hfailures : a.failures = []) (hnamed : h.status.arn = p.arn)
    (hfound : a.findPolicy name path = some p)
    (hphase : (Pass.episode undisturbed delete h false a).result.phase = .converged) :
    (Pass.episode undisturbed delete h false a).after.findPolicy name path = none := by
  let after := (Pass.episode undisturbed delete h false a).after
  obtain ⟨e, he, rfl, -, -⟩ := hwell.findPolicy_eq_some_iff.mp hfound
  have harn : h.status.arn = a.policyArn path name := hnamed.trans (hwell _ e he).named
  have hgone : after.policies.find? h.status.arn = none :=
    removes_delete (harn ▸ a.policyArn_ne_empty path name) a hfailures hphase
  obtain ⟨hwell', haccount⟩ := Account.WellFormed.of_course (u := Account.alone) hwell.quiet
    (Account.alone.course_calls h.delete ⟨false, a⟩)
  have hplace : after.policyArn path name = a.policyArn path name :=
    Account.policyArn_of_accountId haccount path name
  refine Option.eq_none_iff_forall_ne_some.mpr fun p hp => ?_
  obtain ⟨e', he', -⟩ := hwell'.findPolicy_eq_some_iff.mp hp
  have hstands : after.policies.find? (after.policyArn path name) = some e' := he'
  rw [hplace, ← harn, hgone] at hstands
  cases hstands

/-- The deletion that follows some applications, undisturbed and with the status that they left. -/
def finalDeletion (u : Unreliable serves (admits truthful) τ)
    (run : Chain PolicyHandler IamRequest IamRequest.Answer (Report PolicyStatus) τ) :
    Episode PolicyHandler IamRequest IamRequest.Answer (Report PolicyStatus) Account :=
  Pass.episode undisturbed delete run.input false (u.live run.state).quiet

/-- A deletion that converges leaves no policy of the configured name and path, unless the policy
was forgotten. Then the status names none, and the deletion converges without a call and leaves
it. -/
structure RemovedUnlessForgotten (u : Unreliable serves (admits truthful) τ) (h : PolicyHandler)
    (run : Chain PolicyHandler IamRequest IamRequest.Answer (Report PolicyStatus) τ) : Prop where
  removed : ¬h.Forgotten u run.calls → (finalDeletion u run).result.phase = .converged →
    (finalDeletion u run).after.findPolicy h.config.name h.config.path = none
  unnamed : h.Forgotten u run.calls → run.input.status = {}
  left : h.Forgotten u run.calls → (finalDeletion u run).calls = [] ∧
    (finalDeletion u run).result.phase = .converged ∧
    (finalDeletion u run).after.findPolicy h.config.name h.config.path ≠ none

theorem Tracked.removedUnlessForgotten
    {run : Chain PolicyHandler IamRequest IamRequest.Answer (Report PolicyStatus) τ}
    (htracked : Tracked u run.input (u.live run.state) run.calls)
    (hwell : (u.live run.state).WellFormed) : RemovedUnlessForgotten u run.input run := by
  cases htracked with
  | absent blank missing told =>
    obtain ⟨-, -, hafter⟩ := episode_delete_of_blank blank (u.live run.state).quiet
    have hafter' : (finalDeletion u run).after = (u.live run.state).quiet := hafter
    refine ⟨fun _ _ => ?_, fun huntold => absurd huntold told, fun huntold => absurd huntold told⟩
    rw [hafter']
    exact missing
  | known named found told =>
    exact ⟨fun _ hphase => findPolicy_of_delete hwell.quiet rfl named found hphase,
      fun huntold => absurd huntold told, fun huntold => absurd huntold told⟩
  | @forgotten p blank found untold =>
    obtain ⟨hcalls, hphase, hafter⟩ := episode_delete_of_blank blank (u.live run.state).quiet
    have hafter' : (finalDeletion u run).after = (u.live run.state).quiet := hafter
    refine ⟨fun htold => absurd untold htold, fun _ => blank, fun _ => ⟨hcalls, hphase, ?_⟩⟩
    rw [hafter']
    have hquiet : (u.live run.state).quiet.findPolicy run.input.config.name run.input.config.path =
        some p := found
    rw [hquiet]
    exact Option.some_ne_none p

/-- However a policy that was not there at first is applied, any number of times and each time with
the status that was kept, a deletion with the last status removes it, unless it was forgotten. -/
theorem removed_unless_forgotten (u : Unreliable serves (admits truthful) τ) (h : PolicyHandler)
    (hblank : h.status = {}) {t : τ} (hreachable : (u.live t).Reachable)
    (hmissing : (u.live t).findPolicy h.config.name h.config.path = none)
    (cancellations : List Bool) :
    RemovedUnlessForgotten u h (Pass.chain u.provider apply resume cancellations h t) := by
  obtain ⟨⟨status, hinput⟩, hwell, htracked⟩ :=
    tracked_chain u h hblank hreachable.wellFormed hmissing cancellations
  have hremoved := htracked.removedUnlessForgotten hwell
  -- the handler differs from the first one in its status only
  rw [hinput] at hremoved
  exact ⟨hremoved.removed, hremoved.unnamed, hremoved.left⟩

/-- A creation that is not acknowledged is made up for by the next application. -/
theorem removed_unless_forgotten_adopted :
    let h : PolicyHandler := ⟨⟨"read", "[]", "", "/", .empty⟩, {}, Fault.defaultClass, 2⟩
    let u := Account.interrupted []
    let t := (⟨{}, by decide +kernel⟩, [.none false, .unacknowledged])
    let run := Pass.chain u.provider apply resume [false, false] h t
    h.status = {} ∧ (u.live t).Reachable ∧ (u.live t).findPolicy "read" "/" = none ∧
      (run.episodes.map (·.result.phase)) = [.retryableFailure, .converged] ∧
      (finalDeletion u run).result.phase = .converged ∧
      (finalDeletion u run).after.findPolicy "read" "/" = none := by
  intro h u t run
  have hreachable : (u.live t).Reachable := (Account.Reachable.empty _).quiet
  have hmissing : (u.live t).findPolicy "read" "/" = none := by decide +kernel
  have hremoved : RemovedUnlessForgotten u h run :=
    removed_unless_forgotten u h rfl hreachable hmissing [false, false]
  have hphases : (run.episodes.map (·.result.phase)) = [.retryableFailure, .converged] := by
    decide +kernel
  have hphase : (finalDeletion u run).result.phase = .converged := by decide +kernel
  have htold : ¬h.Forgotten u run.calls := by decide +kernel
  exact ⟨rfl, hreachable, hmissing, hphases, hphase, hremoved.removed htold hphase⟩

/-- With no further application it outlives the deletion. -/
theorem removed_unless_forgotten_outlived :
    let raw : Value := .ofMembers [("policyName", .text "read"), ("policyDocument", .text "[]")]
    let h : PolicyHandler := ⟨⟨"read", "[]", "", "/", .empty⟩, {}, Fault.defaultClass, 5⟩
    let u := Account.interrupted []
    let t := (⟨{}, by decide +kernel⟩, [.none false, .unacknowledged])
    let run := Pass.chain u.provider apply resume [false] h t
    PolicyConfig.resolve raw = .ok h.config ∧ (u.live t).Reachable ∧
      (u.live t).findPolicy "read" "/" = none ∧
      (finalDeletion u run).result.phase = .converged ∧
      ((finalDeletion u run).after.findPolicy "read" "/").map (·.arn) =
        some "arn:aws:iam::123456789012:policy/read" := by
  intro raw h u t run
  have hreachable : (u.live t).Reachable := (Account.Reachable.empty _).quiet
  have hmissing : (u.live t).findPolicy "read" "/" = none := by decide +kernel
  have hphase : (finalDeletion u run).result.phase = .converged := by decide +kernel
  have hleft : ((finalDeletion u run).after.findPolicy "read" "/").map (·.arn) =
      some "arn:aws:iam::123456789012:policy/read" := by
    decide +kernel
  exact ⟨rfl, hreachable, hmissing, hphase, hleft⟩

end PolicyHandler

end IamConvergence
