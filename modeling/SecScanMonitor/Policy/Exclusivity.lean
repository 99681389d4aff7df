import SecScanMonitor.Policy.Kernel

/-! When the clauses of the kernel's complete rule `decision` exclude each other. -/

namespace SecScanMonitor.Policy.Kernel

open Foundations Foundations.Rego Domain

variable {input : Value}

lemma derives_require_iff : Derives input .requireApproval ↔
    authorizationGatesOk input ∧ (highRiskOperation input ∨ capabilityRequiresApproval input) ∧
      approved input = false := by
  simp only [Derives, mem_derived, decisionClauses, List.mem_cons, Prod.mk.injEq, reduceCtorEq,
    false_and, false_or, true_and, List.not_mem_nil, or_false]
  grind

lemma derives_allow_iff : Derives input .allow ↔
    authorizationGatesOk input ∧
      (approved input ∨
        (highRiskOperation input = false ∧ capabilityRequiresApproval input = false)) := by
  simp only [Derives, mem_derived, decisionClauses, List.mem_cons, Prod.mk.injEq, reduceCtorEq,
    false_and, false_or, true_and, List.not_mem_nil, or_false]
  grind

lemma capabilityAuthority_refused (h : capabilityAuthorityOk input = true) :
    (capabilityAuthorityRequired input &&
      neq (ref input ["action"]) (ref input ["capability", "required_authority"])) = false := by
  simp only [capabilityAuthorityOk, Bool.or_eq_true, Bool.not_eq_true'] at h
  rcases h with h | h
  · rw [h, Bool.false_and]
  · rw [eq_neq_exclusive _ _ h, Bool.and_false]

/-- Seven of the nine deny bodies negate a gate that every other body asks for; an unknown action and
a malformed grant binding are the two that no gate excludes. -/
lemma derives_deny_of_gates (h : authorizationGatesOk input = true) :
    Derives input .deny ↔ actionKnown input = false ∨ grantBindingOk input = false := by
  simp only [authorizationGatesOk, Bool.and_eq_true] at h
  obtain ⟨⟨⟨⟨⟨⟨hcap, hwork⟩, hlevel⟩, htarget⟩, hgrant⟩, haction⟩, hauth⟩ := h
  have hneq := capabilityAuthority_refused hauth
  simp only [Derives, mem_derived, decisionClauses, hcap, hwork, hlevel, htarget, hgrant, haction,
    hneq, List.mem_cons, Prod.mk.injEq, reduceCtorEq, false_and, true_and, List.not_mem_nil, or_false,
    Bool.true_and]
  grind

lemma not_allow_and_require : ¬ (Derives input .allow ∧ Derives input .requireApproval) := by
  rw [derives_allow_iff, derives_require_iff]
  rintro ⟨⟨-, ha⟩, -, hr, hn⟩
  rcases ha with ha | ⟨hh, hc⟩
  · rw [ha] at hn
    cases hn
  · rw [hh, hc] at hr
    simp at hr

lemma allow_or_require_of_gates (h : authorizationGatesOk input = true) :
    Derives input .allow ∨ Derives input .requireApproval := by
  rw [derives_allow_iff, derives_require_iff]
  cases approved input <;> cases highRiskOperation input <;>
    cases capabilityRequiresApproval input <;> simp [h]

lemma gates_of_derives {d : PolicyDecision} (hd : d ≠ .deny) (h : Derives input d) :
    authorizationGatesOk input = true := by
  cases d with
  | deny => exact absurd rfl hd
  | allow => exact (derives_allow_iff.mp h).1
  | requireApproval => exact (derives_require_iff.mp h).1

lemma decision_of_derives {d : PolicyDecision} (h : Derives input d)
    (hu : ∀ e, Derives input e → e = d) : decision input = .ok d :=
  complete_eq_ok_of_mem h hu

lemma result_isOk_iff : (∃ v, result input = .ok v) ↔ ∃ d, decision input = .ok d := by
  cases h : decision input <;> simp [result, h, Except.map]

structure Exclusive (input : Value) : Prop where
  denied_alone : Derives input .deny →
    ¬ Derives input .allow ∧ ¬ Derives input .requireApproval
  allow_or_require : ¬ (Derives input .allow ∧ Derives input .requireApproval)
  result_defined : ∃ v, result input = .ok v
  denied : Derives input .deny → decision input = .ok .deny

/-- The clauses exclude each other exactly when an input that passes the shared gates also passes the
two checks the gates leave out. -/
theorem exclusive_iff (input : Value) :
    Exclusive input ↔
      (authorizationGatesOk input = true → actionKnown input = true ∧ grantBindingOk input = true) := by
  constructor
  · intro hx hg
    by_contra hc
    have hdeny : Derives input .deny := by
      rw [derives_deny_of_gates hg]
      rcases not_and_or.mp hc with hk | hb
      · exact Or.inl (by simpa using hk)
      · exact Or.inr (by simpa using hb)
    obtain ⟨hna, hnr⟩ := hx.denied_alone hdeny
    exact (allow_or_require_of_gates hg).elim hna hnr
  · intro h
    have hnot : ∀ d, d ≠ .deny → Derives input d → ¬ Derives input .deny := by
      intro d hd hder hdeny
      have hg := gates_of_derives hd hder
      obtain ⟨hk, hb⟩ := h hg
      rcases (derives_deny_of_gates hg).mp hdeny with hk' | hb'
      · rw [hk] at hk'
        cases hk'
      · rw [hb] at hb'
        cases hb'
    have halone : Derives input .deny →
        ¬ Derives input .allow ∧ ¬ Derives input .requireApproval := fun hd =>
      ⟨fun ha => hnot _ (by decide) ha hd, fun hr => hnot _ (by decide) hr hd⟩
    refine ⟨halone, not_allow_and_require, result_isOk_iff.mpr ?_, fun hd => ?_⟩
    · refine complete_ok_iff.mpr fun v hv w hw => ?_
      have hv : Derives input v := hv
      have hw : Derives input w := hw
      have hboth := @not_allow_and_require input
      cases v <;> cases w <;> simp_all
    · refine decision_of_derives hd fun e he => ?_
      by_contra hne
      exact hnot e hne he hd

/-- An inspection inside every gate, under a grant that asks for a snapshot the request does not
name. -/
def snapshotlessInput : Value := .obj
  [("principal", .obj [("id", .str "PR-1")]),
    ("agent", .obj []),
    ("engagement", .obj [("id", .str "EN-1"), ("status", .str "active"),
      ("authority_level", .str "inspection-only"), ("target_ids", .arr [.str "TG-1"])]),
    ("target", .obj [("id", .str "TG-1")]),
    ("capability", .obj [("id", .str "CAP-REPO-INVENTORY"), ("registered", .bool true),
      ("risk_class", .str "info"), ("requires_approval", .bool false),
      ("required_authority", .str "inspect")]),
    ("action", .str "inspect"),
    ("risk", .str "low"),
    ("authority_grant", .obj [("matched", .bool true), ("grant_ids", .arr [.str "GR-1"]),
      ("conditions", .arr [.str "immutable_snapshot_only"]), ("principal_id", .str "PR-1"),
      ("engagement_id", .str "EN-1"), ("capability_id", .str "CAP-REPO-INVENTORY"),
      ("target_id", .str "TG-1"), ("action", .str "inspect")]),
    ("approval", .obj [("id", .str ""), ("recorded", .bool false), ("decision", .str "pending"),
      ("target_id", .str ""), ("capability_id", .str ""), ("action", .str ""),
      ("engagement_id", .str ""), ("decided_by_principal_id", .str "")]),
    ("workflow_phase", .str "inspection"),
    ("requested_resources", .obj [])]

theorem exclusive_fails :
    ¬ ∀ input, Exclusive input := by
  intro h
  have hdeny : Derives snapshotlessInput .deny := by decide
  have hallow : Derives snapshotlessInput .allow := by decide
  exact ((h snapshotlessInput).denied_alone hdeny).1 hallow

end SecScanMonitor.Policy.Kernel
