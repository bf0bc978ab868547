/-
What is reported of a role that a step looked up in vain and that is not there in the end. A
deletion reports that nothing is attached. A deployment that could not create the role keeps the
status that it was given, also where that tells of attached policies.
-/
import IamConvergence.Proofs.Role.Deploy

namespace IamConvergence.RoleHandler

open Account (serves admits effect_of_asked)

variable {τ : Type} {truthful : List String} {u : Unreliable serves (admits truthful) τ} {t t' : τ}
  {h : RoleHandler} {cancelled : Bool} {cs : List (IamCall τ)} {report : Report RoleStatus}

/-- A step was answered that there is no role, and there is none when it ends. -/
structure Absent (u : Unreliable serves (admits truthful) τ)
    (e : Episode RoleHandler IamRequest IamRequest.Answer (Report RoleStatus) τ) : Prop where
  looked : Call.Answered e.calls (.getRole e.input.config.name) (.ok none)
  after : (u.live e.after).roles.find? e.input.config.name = none

section

variable {looked : Except Fault (Option Role)}

/-- What is answered later than by the look-up was answered by it, since no role is looked up
twice. -/
theorem answer_eq_of_answered {gs : List (IamCall τ)} {cancelled' : Bool}
    {answer : Except Fault (IamRequest.Answer (.getRole h.config.name))}
    (get : Pass.Asked h.config.name (.getRole h.config.name) cancelled gs answer cancelled')
    (hlooked : Call.Answered (gs ++ cs) (.getRole h.config.name) looked)
    (hcs : ¬Call.Answered cs (.getRole h.config.name) looked) : looked = answer := by
  rcases Call.answered_append.mp hlooked with hlooked | hlooked
  · exact get.answer_eq hlooked
  · exact absurd hlooked hcs

theorem Converging.not_answered {s : RoleStatus} {created : Bool}
    (hconverging : Converging h s created cancelled cs report) :
    ¬Call.Answered cs (.getRole h.config.name) looked := by
  cases hconverging with
  | settled attachments => exact not_answered_onRole _ _ _ _

end

/-- A role that was created is there in the end, so that only a failure to create it is left. -/
theorem Deployed.status_of_absent (hdeployed : Deployed h cancelled cs report)
    (hcourse : u.Course t cs t') (hlooked : Call.Answered cs (.getRole h.config.name) (.ok none))
    (hafter : (u.live t').roles.find? h.config.name = none) : report.status = h.status := by
  cases hdeployed with
  | unread get => cases get.answer_eq hlooked
  | uncreated get create => rfl
  | created get create converging =>
    obtain ⟨m, -, hcourse⟩ := hcourse.split
    obtain ⟨m', hcreate, hcourse⟩ := hcourse.split
    obtain ⟨e, hprepared⟩ := prepared_of_createRole (effect_of_asked hcreate create)
    obtain ⟨e', hprepared'⟩ := converging.prepared hprepared hcourse
    cases hafter.symm.trans hprepared'.found
  | kept get same converging =>
    cases answer_eq_of_answered get hlooked converging.not_answered
  | unupdated get drifted update =>
    cases answer_eq_of_answered get hlooked (update.not_answered (by nofun) _)
  | updated get drifted update converging =>
    cases answer_eq_of_answered get hlooked
      (Call.not_answered_append (update.not_answered (by nofun) _) converging.not_answered)

theorem Deleted.status_of_absent (hdeleted : Deleted h cancelled cs report)
    (hlooked : Call.Answered cs (.getRole h.config.name) (.ok none)) :
    report.status = { h.status with attached := [] } := by
  cases hdeleted with
  | unread get => cases get.answer_eq hlooked
  | absent get => rfl
  | undetached get attachments fault =>
    cases answer_eq_of_answered get hlooked (not_answered_onRole _ _ _ _)
  | undeleted get attachments converged delete fault =>
    cases answer_eq_of_answered get hlooked
      (Call.not_answered_append (not_answered_onRole _ _ _ _) (delete.not_answered (by nofun) _))
  | deleted get attachments converged delete gone =>
    cases answer_eq_of_answered get hlooked
      (Call.not_answered_append (not_answered_onRole _ _ _ _) (delete.not_answered (by nofun) _))

/-- Of a role that is not there a deletion reports that nothing is attached, and a deployment the
status that it was given. -/
theorem absence_reported (u : Unreliable serves (admits truthful) τ) (h : RoleHandler)
    (cancelled : Bool) (t : τ) :
    (Absent u (Pass.episode u.provider delete h cancelled t) →
        (Pass.episode u.provider delete h cancelled t).result.status =
          { h.status with attached := [] }) ∧
      (Absent u (Pass.episode u.provider deploy h cancelled t) →
        (Pass.episode u.provider deploy h cancelled t).result.status = h.status) := by
  constructor
  · intro habsent
    exact (deleted u.provider h ⟨cancelled, t⟩).status_of_absent habsent.looked
  · intro habsent
    exact (deployed u.provider h ⟨cancelled, t⟩).status_of_absent
      (u.course_calls h.deploy ⟨cancelled, t⟩) habsent.looked habsent.after

/-- A role whose creation is throttled, and then its deletion. -/
theorem absence_reported_throttled :
    let stale : RoleStatus := { name := "app", attached := ["arn:aws:iam::aws:policy/Stale"] }
    let h : RoleHandler :=
      ⟨.plain "app" ["arn:aws:iam::aws:policy/ReadOnlyAccess"], stale, Fault.defaultClass⟩
    let throttled : Fault := .provider "app" "CreateRole" "Throttling: Rate exceeded" true
    let u := Account.interrupted []
    let t := (⟨Account.failNext {} "CreateRole" throttled, by decide +kernel⟩, [])
    let e := Pass.episode u.provider deploy h false t
    let e' := Pass.episode u.provider delete h false e.after
    Absent u e ∧ e.result.status = stale ∧
      Absent u e' ∧ e'.result.status = { stale with attached := [] } := by
  intro stale h throttled u t e e'
  have habsent : Absent u e := ⟨by decide +kernel, by decide +kernel⟩
  have habsent' : Absent u e' := ⟨by decide +kernel, by decide +kernel⟩
  exact ⟨habsent, (absence_reported u h false t).2 habsent, habsent',
    (absence_reported u h false e.after).1 habsent'⟩

/-- So the status may tell of policies that are attached to a role that is not there. -/
theorem absence_reported_stale :
    let h : RoleHandler := ⟨.plain "app" ["arn:aws:iam::aws:policy/ReadOnlyAccess"],
      ⟨"arn:aws:iam::123456789012:role/app", "AROA0000000000000001", "app",
        ["arn:aws:iam::aws:policy/Stale"]⟩, Fault.defaultClass⟩
    let throttled : Fault := .provider "app" "CreateRole" "Throttling: Rate exceeded" true
    let u := Account.interrupted []
    let t := (⟨Account.failNext {} "CreateRole" throttled, by decide +kernel⟩, [])
    let e := Pass.episode u.provider deploy h false t
    Absent u e ∧ e.result.status.attached = ["arn:aws:iam::aws:policy/Stale"] := by
  intro h throttled u t e
  exact ⟨⟨by decide +kernel, by decide +kernel⟩, by decide +kernel⟩

end IamConvergence.RoleHandler
