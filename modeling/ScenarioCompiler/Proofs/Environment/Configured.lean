import ScenarioCompiler.Environment.Common
import ScenarioCompiler.Environment.EventHub
import ScenarioCompiler.Proofs.Outcome

namespace ScenarioCompiler

namespace Failure

/-- The failures of a platform that lacks credentials, or of a connector that asks for two kinds. -/
def AboutCredentials (f : Failure) : Prop :=
  f = .conflictingAuthentication ∨ ∃ property, f = .missingConfiguration property

/-- The failures that the inputs of a run can cause. -/
def OfInputs : Failure → Prop
  | unknownRunTemplate .. | unknownDataset _ | unknownConnector .. | unknownParameter ..
  | conflictingAuthentication | missingConfiguration _ | malformedDatasetIds .. => True
  | connectorMismatch .. | invalidDependency .. => False

theorem AboutCredentials.ofInputs {f : Failure} (h : f.AboutCredentials) : f.OfInputs := by
  rcases h with rfl | ⟨_, rfl⟩
  · trivial
  · trivial

end Failure

namespace Environment

variable {settings : PlatformSettings} {flags : IdentityFlags} {ids : RunIds} {f : Failure}

/-- A platform that logs in through Okta has the credentials for it. -/
def OktaConfigured (settings : PlatformSettings) : Prop :=
  ∀ provider, settings.identityProvider = some provider → provider.code = "okta" →
    settings.okta ≠ none

/-- All credentials of the customer's registration are given. -/
def CustomerConfigured (azure : Settings.Azure) : Prop :=
  ∃ customer, azure.credentials.customer = some customer ∧ customer.tenantId ≠ none ∧
    customer.clientId ≠ none ∧ customer.clientSecret ≠ none

/-- The flags name one way of authentication, and the platform has the credentials for it. -/
structure IdentityConfigured (settings : PlatformSettings) (flags : IdentityFlags) : Prop where
  consistent : ¬ (flags.managed = some true ∧ flags.customerRegistration = some true)
  credentials : flags.managed ≠ some true → ∃ azure, settings.azure = some azure ∧
    (flags.customerRegistration = some true → CustomerConfigured azure)

/-- Containers without a connector can authenticate. -/
def BaseAuthentication (settings : PlatformSettings) : Prop :=
  settings.azure ≠ none ∧ OktaConfigured settings

theorem identityConfigured_default :
    IdentityConfigured settings {} ↔ settings.azure ≠ none := by
  constructor
  · intro h
    obtain ⟨azure, ha, -⟩ := h.credentials (by simp)
    simp [ha]
  · intro h
    obtain ⟨azure, ha⟩ := Option.ne_none_iff_exists'.1 h
    exact ⟨by simp, fun _ => ⟨azure, ha, by simp⟩⟩

theorem exists_require_eq_ok {value : Option String} {property : String} :
    (∃ s, require value property = .ok s) ↔ value ≠ none := by
  cases value <;> simp [require]

theorem require_eq_error {value : Option String} {property : String}
    (h : require value property = .error f) : f.AboutCredentials := by
  cases value with
  | none => exact .inr ⟨property, (Except.error.inj h).symm⟩
  | some s => simp [require] at h

/-- The identity of the customer's registration. -/
theorem exists_customer_eq_ok {azure : Settings.Azure} (ha : settings.azure = some azure)
    (hm : flags.managed ≠ some true) (hc : flags.customerRegistration = some true) :
    (∃ t, identity settings flags = .ok t) ↔ CustomerConfigured azure := by
  simp only [identity, hc, ha, beq_iff_eq, hm, Bool.and_eq_true, false_and, if_false]
  cases hcustomer : azure.credentials.customer with
  | none => simp [CustomerConfigured, hcustomer]
  | some customer =>
    simp only [CustomerConfigured, hcustomer, Option.some.injEq, exists_eq_left', if_true,
      bind_eq_ok, pure_eq_ok]
    constructor
    · rintro ⟨_, _, ht, _, hi, _, hs, -⟩
      exact ⟨exists_require_eq_ok.1 ⟨_, ht⟩, exists_require_eq_ok.1 ⟨_, hi⟩,
        exists_require_eq_ok.1 ⟨_, hs⟩⟩
    · rintro ⟨ht, hi, hs⟩
      obtain ⟨_, ht⟩ := exists_require_eq_ok.2 ht
      obtain ⟨_, hi⟩ := exists_require_eq_ok.2 hi
      obtain ⟨_, hs⟩ := exists_require_eq_ok.2 hs
      exact ⟨_, _, ht, _, hi, _, hs, rfl⟩

theorem exists_identity_eq_ok :
    (∃ t, identity settings flags = .ok t) ↔ IdentityConfigured settings flags := by
  by_cases hm : flags.managed = some true
  · by_cases hc : flags.customerRegistration = some true
    · simp only [identity, hm, hc, beq_self_eq_true, Bool.and_self, if_true, reduceCtorEq,
        exists_false, false_iff]
      exact fun h => h.consistent ⟨hm, hc⟩
    · simp only [identity, hm, beq_self_eq_true, Bool.true_and, beq_iff_eq, hc, if_false, if_true,
        Except.ok.injEq, exists_eq', true_iff]
      exact ⟨fun h => hc h.2, fun h => absurd hm h⟩
  · have hiff : IdentityConfigured settings flags ↔ ∃ azure, settings.azure = some azure ∧
        (flags.customerRegistration = some true → CustomerConfigured azure) :=
      ⟨fun h => h.credentials hm, fun h => ⟨fun h => hm h.1, fun _ => h⟩⟩
    rw [hiff]
    cases ha : settings.azure with
    | none => simp [identity, hm, ha]
    | some azure =>
      simp only [Option.some.injEq, exists_eq_left']
      by_cases hc : flags.customerRegistration = some true
      · simp [exists_customer_eq_ok ha hm hc, hc]
      · simp [identity, hm, hc, ha]

theorem identity_eq_error (h : identity settings flags = .error f) : f.AboutCredentials := by
  by_cases hm : flags.managed = some true
  · by_cases hc : flags.customerRegistration = some true
    · simp only [identity, hm, hc, beq_self_eq_true, Bool.and_self, if_true] at h
      exact .inl (Except.error.inj h).symm
    · simp [identity, hm, hc] at h
  · cases ha : settings.azure with
    | none =>
      simp only [identity, ha, beq_iff_eq, hm, Bool.and_eq_true, false_and, if_false] at h
      exact .inr ⟨_, (Except.error.inj h).symm⟩
    | some azure =>
      by_cases hc : flags.customerRegistration = some true
      · simp only [identity, ha, hc, beq_iff_eq, hm, Bool.and_eq_true, false_and, if_false,
          if_true] at h
        split at h
        · exact .inr ⟨_, (Except.error.inj h).symm⟩
        · simp only [bind_eq_error, pure_ne_error, and_false, exists_false, or_false] at h
          rcases h with h | ⟨_, -, h | ⟨_, -, h⟩⟩
          · exact require_eq_error h
          · exact require_eq_error h
          · exact require_eq_error h
      · simp [identity, ha, hm, hc] at h

theorem exists_okta_eq_ok : (∃ t, okta settings = .ok t) ↔ OktaConfigured settings := by
  unfold okta OktaConfigured
  cases settings.identityProvider with
  | none => simp
  | some provider =>
    by_cases hp : provider.code = "okta"
    · cases settings.okta <;> simp [hp]
    · simp [hp]

theorem okta_eq_error (h : okta settings = .error f) : f.AboutCredentials := by
  unfold okta at h
  split at h
  · simp at h
  · split at h
    · split at h
      · exact .inr ⟨_, (Except.error.inj h).symm⟩
      · simp at h
    · simp at h

/-- The shared variables of a run exist just when the platform has the credentials for them. -/
theorem exists_common_eq_ok :
    (∃ b, common settings ids flags = .ok b) ↔
      IdentityConfigured settings flags ∧ OktaConfigured settings := by
  rw [← exists_identity_eq_ok, ← exists_okta_eq_ok]
  simp only [common, bind_eq_ok, pure_eq_ok]
  constructor
  · rintro ⟨_, t, ht, u, hu, -⟩
    exact ⟨⟨t, ht⟩, u, hu⟩
  · rintro ⟨⟨t, ht⟩, u, hu⟩
    exact ⟨_, t, ht, u, hu, rfl⟩

theorem common_eq_error (h : common settings ids flags = .error f) : f.AboutCredentials := by
  simp only [common, bind_eq_error, pure_ne_error] at h
  rcases h with h | ⟨_, -, h | ⟨_, -, h⟩⟩
  · exact identity_eq_error h
  · exact okta_eq_error h
  · exact h.elim

theorem exists_common_default_eq_ok (ids : RunIds) :
    (∃ b, common settings ids {} = .ok b) ↔ BaseAuthentication settings := by
  rw [exists_common_eq_ok, identityConfigured_default, BaseAuthentication]

end Environment

namespace EventHub

variable {settings : PlatformSettings} {organization : Organization} {workspace : Workspace}
  {checker : EventHubChecker} {f : Failure}

/-- Where the event bus is used with a shared access policy, its name and key are given. -/
def PolicyConfigured (bus : Settings.EventBus) : Prop :=
  bus.authentication.strategy = .sharedAccessPolicy →
    ∃ policy shared, bus.authentication.sharedAccessPolicy = some policy ∧
      policy.namespaceCredentials = some shared ∧ shared.name ≠ none ∧ shared.key ≠ none

/-- The platform has an event bus and the credentials for it. -/
def BusConfigured (settings : PlatformSettings) : Prop :=
  ∃ azure bus, settings.azure = some azure ∧ azure.eventBus = some bus ∧ PolicyConfigured bus

theorem exists_credentials_eq_ok {bus : Settings.EventBus} :
    (∃ t, credentials bus = .ok t) ↔ PolicyConfigured bus := by
  unfold credentials PolicyConfigured
  cases bus.authentication.strategy with
  | tenantClientCredentials => simp
  | sharedAccessPolicy =>
    rcases bus.authentication.sharedAccessPolicy with _ | ⟨_ | ⟨_ | name, _ | key⟩⟩ <;> simp

theorem credentials_eq_error {bus : Settings.EventBus} (h : credentials bus = .error f) :
    f.AboutCredentials := by
  unfold credentials at h
  split at h
  · simp at h
  · simp only at h
    split at h
    · exact .inr ⟨_, (Except.error.inj h).symm⟩
    · exact .inr ⟨_, (Except.error.inj h).symm⟩
    · simp at h

theorem exists_exists?_eq_ok (checker : EventHubChecker) (hub : EventHub) :
    ∃ found, (exists? checker hub).outcome = .ok found := by
  cases checker with
  | none => exact ⟨false, rfl⟩
  | some check => exact ⟨check hub, rfl⟩

/-- The variables of the event bus exist just when it is configured; whether the event hub exists
does not matter. -/
theorem exists_environment_eq_ok (organization : Organization) (workspace : Workspace)
    (checker : EventHubChecker) :
    (∃ env, (environment settings organization workspace checker).outcome = .ok env) ↔
      BusConfigured settings := by
  unfold environment BusConfigured
  cases ha : settings.azure with
  | none => simp
  | some azure =>
    cases hb : azure.eventBus with
    | none => simp [hb]
    | some bus =>
      simp only [Option.bind_some, hb, Option.some.injEq, exists_eq_left', exists_and_left]
      rw [← exists_credentials_eq_ok]
      simp only [Traced.outcome_bind, Traced.outcome_liftM, Traced.outcome_pure, bind_eq_ok]
      obtain ⟨found, hf⟩ :=
        exists_exists?_eq_ok checker (topics bus organization workspace).hub
      constructor
      · rintro ⟨_, t, ht, -⟩
        exact ⟨t, ht⟩
      · rintro ⟨t, ht⟩
        exact ⟨_, t, ht, found, hf, rfl⟩

theorem environment_eq_error
    (h : (environment settings organization workspace checker).outcome = .error f) :
    f.AboutCredentials := by
  unfold environment at h
  split at h
  · exact .inr ⟨_, (Except.error.inj h).symm⟩
  · simp only [Traced.outcome_bind, Traced.outcome_liftM, Traced.outcome_pure, bind_eq_error] at h
    rcases h with h | ⟨_, -, h | ⟨_, -, h⟩⟩
    · exact credentials_eq_error h
    · obtain ⟨found, hf⟩ :=
        exists_exists?_eq_ok checker (topics _ organization workspace).hub
      rw [hf] at h
      simp at h
    · simp at h

end EventHub

end ScenarioCompiler
