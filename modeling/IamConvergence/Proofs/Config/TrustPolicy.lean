/-
A trust policy may be given as a JSON value or as the text of one. Whichever of them is put into a
raw configuration, the other fields are read the same way, and what is written of a value is read
back. So both forms are accepted together, and later on nothing tells them apart.
-/
import IamConvergence.Iam.RoleHandler
import IamConvergence.Proofs.Config.Resolution
import IamConvergence.Proofs.Document.Reading
import IamConvergence.Proofs.Pass.Trace

namespace IamConvergence

/-! ## One field of a raw record -/

namespace Shape

variable {α β : Type}

theorem build_field_of_takes {s : Shape (β → α)} {f : Field β} {src : Source} {make : β → α}
    {y : β} (hmake : s.build src = .ok make)
    (hy : f.Takes (src.value? f.name s.checks.length) y) :
    (s.field f).build src = .ok (make y) :=
  build_field.mpr ⟨make, hmake, y, hy, rfl⟩

/-- What is put under the key of a field that takes any value does not matter for the first
fault. -/
theorem memberFault?_insert {s : Shape α} {k : String}
    (hpass : ∀ v, (s.checks.lookup k).bind (· v) = none) (v w : Value) :
    ∀ ms : List (String × Value),
      s.memberFault? (Entries.insert k v ms) = s.memberFault? (Entries.insert k w ms)
  | [] => by
    simp only [memberFault?, Entries.insert, List.findSome?_cons, hpass]
  | (k', v') :: ms => by
    have ih := memberFault?_insert hpass v w ms
    unfold memberFault? at ih ⊢
    rw [Entries.insert, Entries.insert]
    split_ifs
    · simp only [List.findSome?_cons, hpass]
    · simp only [List.findSome?_cons, hpass]
    · rw [List.findSome?_cons, List.findSome?_cons, ih]

end Shape

/-- A raw role configuration with a value for the trust policy: in an object under its name, in an
array at its place. -/
def Value.withTrustPolicy (v : Value) : Value → Value
  | .object ms => .object (Entries.insert "assumeRolePolicy" v ms)
  | .array vs => .array (vs.set 1 v)
  | raw => raw

namespace RoleConfig

open IamConvergence.Shape

variable {c : RoleConfig} {raw v w : Value}

/-- A source that gives another trust policy, and else the same, makes the same configuration but
for the trust policy. -/
theorem trust_of_build {src : Source} (hsrc : src.value? "assumeRolePolicy" 1 = some v) :
    shape.Ensures src fun c => c.trustPolicy = v ∧
      ∀ (w : Value) (src' : Source), src'.value? "assumeRolePolicy" 1 = some w →
        (∀ name place, name ≠ "assumeRolePolicy" → place ≠ 1 →
          src'.value? name place = src.value? name place) →
        shape.build src' = .ok { c with trustPolicy := w } := by
  refine .field (.field (.field (.field (.field (.field (.field (.of ?_)))))))
  intro name hname trust htrust description hdescription duration hduration path hpath
    managed hmanaged tags htags
  have htrust : (⟨"assumeRolePolicy", Decode.anything, some .null⟩ : Field Value).Takes
    (src.value? "assumeRolePolicy" 1) trust := htrust
  rw [hsrc] at htrust
  cases htrust
  refine ⟨rfl, fun w src' hsrc' hsame => ?_⟩
  have htrust' : (⟨"assumeRolePolicy", Decode.anything, some .null⟩ : Field Value).Takes
    (src'.value? "assumeRolePolicy" 1) w := hsrc' ▸ rfl
  have hother {β : Type} {f : Field β} {place : Nat} {y : β} (hne : f.name ≠ "assumeRolePolicy")
      (hplace : place ≠ 1) (hy : f.Takes (src.value? f.name place) y) :
      f.Takes (src'.value? f.name place) y := by
    rwa [hsame f.name place hne hplace]
  have h := @build_field_of_takes _ _ _ _ src' _ _ rfl (hother (by decide) (by decide) hname)
  have h := build_field_of_takes h htrust'
  have h := build_field_of_takes h (hother (by decide) (by decide) hdescription)
  have h := build_field_of_takes h (hother (by decide) (by decide) hduration)
  have h := build_field_of_takes h (hother (by decide) (by decide) hpath)
  have h := build_field_of_takes h (hother (by decide) (by decide) hmanaged)
  exact build_field_of_takes h (hother (by decide) (by decide) htags)

/-- A source without trust policy gives none. -/
theorem null_of_build {src : Source} (hsrc : src.value? "assumeRolePolicy" 1 = none) :
    shape.Ensures src fun c => c.trustPolicy = .null := by
  refine .field (.field (.field (.field (.field (.field (.field (.of ?_)))))))
  intro name _ trust htrust description _ duration _ path _ managed _ tags _
  have htrust : (⟨"assumeRolePolicy", Decode.anything, some .null⟩ : Field Value).Takes
    (src.value? "assumeRolePolicy" 1) trust := htrust
  rw [hsrc] at htrust
  cases htrust
  rfl

theorem lookup_trust (v : Value) : (shape.checks.lookup "assumeRolePolicy").bind (· v) = none := by
  rfl

/-- With another trust policy a raw configuration is read as before but for the trust policy. -/
theorem decode_withTrustPolicy
    (h : shape.decode "IamRoleConfig" (v.withTrustPolicy raw) = .ok c)
    (hnull : c.trustPolicy ≠ .null) : c.trustPolicy = v ∧ ∀ w : Value,
      shape.decode "IamRoleConfig" (w.withTrustPolicy raw) = .ok { c with trustPolicy := w } := by
  cases raw with
  | object ms =>
    have hsrc (u : Value) : (Source.ofMembers (Entries.insert "assumeRolePolicy" u ms)).value?
      "assumeRolePolicy" 1 = some u := Entries.lookup_insert_self _ u ms
    obtain ⟨hfault, hbuild⟩ := decode_object_eq_ok_iff.mp h
    obtain ⟨htrust, hother⟩ := trust_of_build (hsrc v) c hbuild
    refine ⟨htrust, fun w => decode_object_eq_ok_iff.mpr ⟨?_, ?_⟩⟩
    · rwa [memberFault?_insert lookup_trust w v]
    · exact hother w _ (hsrc w) fun name place hname _ =>
        (Entries.lookup_insert_of_ne w ms hname).trans
          (Entries.lookup_insert_of_ne v ms hname).symm
  | array vs =>
    obtain ⟨hbuild, hlength⟩ := decode_array_eq_ok_iff.mp h
    by_cases hplace : 1 < vs.length
    · have hsrc (u : Value) : (Source.ofItems "IamRoleConfig" shape.checks.length
        (vs.set 1 u)).value? "assumeRolePolicy" 1 = some u := List.getElem?_set_self hplace
      obtain ⟨htrust, hother⟩ := trust_of_build (hsrc v) c hbuild
      refine ⟨htrust, fun w => decode_array_eq_ok_iff.mpr ⟨?_, ?_⟩⟩
      · exact hother w _ (hsrc w) fun name place _ hne =>
          (List.getElem?_set_ne hne.symm).trans (List.getElem?_set_ne hne.symm).symm
      · rwa [List.length_set] at hlength ⊢
    · have hnone : (Source.ofItems "IamRoleConfig" shape.checks.length (vs.set 1 v)).value?
          "assumeRolePolicy" 1 = none :=
        List.getElem?_eq_none (by rw [List.length_set]; exact Nat.not_lt.mp hplace)
      exact absurd (null_of_build hnone c hbuild) hnull
  | null | bool _ | number _ | text _ => cases h

/-- Another trust policy that can be one is accepted in the place of the first. -/
theorem resolve_withTrustPolicy (hw : IsTrustPolicy w)
    (h : resolve (v.withTrustPolicy raw) = .ok c) :
    c.trustPolicy = v ∧ resolve (w.withTrustPolicy raw) = .ok { c with trustPolicy := w } := by
  obtain ⟨d, hdecode, hmet, rfl⟩ := resolve_eq_ok_iff.mp h
  simp only [requirements, List.forall_mem_cons] at hmet
  obtain ⟨hname, htrust, hmanaged, hduration, hnil⟩ := hmet
  obtain ⟨hv, hother⟩ := decode_withTrustPolicy hdecode htrust.1
  refine ⟨hv, resolve_eq_ok_iff.mpr ⟨{ d with trustPolicy := w }, hother w, ?_, rfl⟩⟩
  simp only [requirements, List.forall_mem_cons]
  exact ⟨hname, hw, hmanaged, hduration, hnil⟩

/-- The configuration with its trust policy as text. -/
def asText (c : RoleConfig) : RoleConfig := { c with trustPolicy := .text c.trustDocument }

theorem trustDocument_of_ne_text (h : ∀ s, c.trustPolicy ≠ .text s) :
    c.trustDocument = c.trustPolicy.render := by
  unfold trustDocument
  cases htrust : c.trustPolicy with
  | text s => exact absurd htrust (h s)
  | null | bool _ | number _ | array _ | object _ => rfl

end RoleConfig

namespace RoleHandler

/-- A deployment reads only the text of the trust policy. -/
theorem deploy_asText (h : RoleHandler) :
    deploy { h with config := h.config.asText } = h.deploy := by
  have hdraft : draft { h with config := h.config.asText } = h.draft := rfl
  have hconverge : converge { h with config := h.config.asText } = h.converge := rfl
  have hname : h.config.asText.name = h.config.name := rfl
  have htrust : h.config.asText.trustDocument = h.config.trustDocument := rfl
  unfold deploy lookUp
  dsimp only
  rw [hdraft, hconverge, hname, htrust]
  congr 1
  funext answer
  rcases answer with f | (_ | role)
  · rfl
  · dsimp only
    congr 1
    funext created
    cases created <;> rfl
  · dsimp only
    congr 1
    congr 1
    funext updated
    cases updated <;> rfl

end RoleHandler

/-- **A trust policy and its text are interchangeable**. Put into the same raw configuration, both
or none of them are accepted. If they are, the same text is sent, which an account takes as a
document and which has the value that was given, and a deployment against any provider asks the
same, reports the same and leaves the same state. -/
theorem trust_policy_text_interchangeable (v : Value) (hnull : v ≠ .null)
    (htext : ∀ s, v ≠ .text s) (hwell : v.WellFormed) (hintegral : v.Integral)
    (hdepth : v.depth < 128) (raw : Value) :
    ((∃ c, RoleConfig.resolve (v.withTrustPolicy raw) = .ok c) ↔
      ∃ d, RoleConfig.resolve ((Value.text v.render).withTrustPolicy raw) = .ok d) ∧
    ∀ c d, RoleConfig.resolve (v.withTrustPolicy raw) = .ok c →
      RoleConfig.resolve ((Value.text v.render).withTrustPolicy raw) = .ok d →
      c.trustDocument = d.trustDocument ∧
      (∀ resource operation, Account.checkDocument resource operation c.trustDocument = .ok ()) ∧
      (∃ w, Document.parse? c.trustDocument = some w ∧ w.equal v = true) ∧
      ∀ (status : RoleStatus) (classify : Classifier) {σ : Type}
        (provider : Provider IamRequest IamRequest.Answer σ) (cancelled : Bool) (s : σ),
        let e := Pass.episode provider RoleHandler.deploy ⟨c, status, classify⟩ cancelled s
        let e' := Pass.episode provider RoleHandler.deploy ⟨d, status, classify⟩ cancelled s
        e.calls = e'.calls ∧ e.result = e'.result ∧ e.after = e'.after := by
  have hparse : Document.parse? v.render = some v :=
    Document.parse?_of_renderedAs (Value.renderedAs_render hintegral) hwell
      (Nat.le_of_lt_succ hdepth)
  have hv : RoleConfig.IsTrustPolicy v := ⟨hnull, fun s hs => absurd hs (htext s)⟩
  have hrender : RoleConfig.IsTrustPolicy (.text v.render) := by
    refine ⟨nofun, fun s hs => ?_⟩
    cases hs
    rw [hparse]
    rfl
  refine ⟨⟨fun ⟨c, hc⟩ => ?_, fun ⟨d, hd⟩ => ?_⟩, fun c d hc hd => ?_⟩
  · exact ⟨_, (RoleConfig.resolve_withTrustPolicy hrender hc).2⟩
  · exact ⟨_, (RoleConfig.resolve_withTrustPolicy hv hd).2⟩
  obtain ⟨htrust, hresolved⟩ := RoleConfig.resolve_withTrustPolicy hrender hc
  have hdocument : c.trustDocument = v.render := by
    rw [RoleConfig.trustDocument_of_ne_text (htrust ▸ htext), htrust]
  have hasText : d = c.asText := by
    rw [RoleConfig.asText, hdocument]
    exact Except.ok.inj (hd.symm.trans hresolved)
  refine ⟨by rw [hasText]; rfl, fun _ _ => ?_, ⟨v, ?_, Value.equal_self hwell⟩, ?_⟩
  · rw [hdocument]
    exact Account.checkDocument_eq_ok_iff.mpr (by rw [hparse]; rfl)
  · rw [hdocument, hparse]
  · intro status classify σ provider cancelled s
    have hdeploy : RoleHandler.deploy ⟨c.asText, status, classify⟩ =
        RoleHandler.deploy ⟨c, status, classify⟩ :=
      RoleHandler.deploy_asText ⟨c, status, classify⟩
    rw [hasText]
    simp only [Pass.episode, hdeploy, and_self]

/-- A trust policy with an escaped character, in a configuration with defaults. -/
theorem trust_policy_text_interchangeable_escaped :
    let v := Value.object [("Sid", .text "a\"b"), ("Statement", .array [.int 1])]
    let raw := Value.object [("managedPolicyArns", .array [.text "arn"]), ("roleName", .text "app")]
    (∃ c, RoleConfig.resolve (v.withTrustPolicy raw) = .ok c) ∧
      ∃ d, RoleConfig.resolve ((Value.text v.render).withTrustPolicy raw) = .ok d := by
  intro v raw
  have hwell : v.WellFormed := by
    refine ⟨by decide, trivial, ⟨⟨?_, ?_⟩, trivial⟩, trivial⟩ <;> decide
  have hintegral : v.Integral := by simp [v]
  have hinterchangeable := trust_policy_text_interchangeable v (by decide) nofun hwell hintegral
    (by decide) raw
  have haccepted : ∃ c, RoleConfig.resolve (v.withTrustPolicy raw) = .ok c := by
    refine ⟨⟨"app", v, "", 3600, "/", ["arn"], .empty⟩, ?_⟩
    decide
  exact ⟨haccepted, hinterchangeable.1.mp haccepted⟩

end IamConvergence
