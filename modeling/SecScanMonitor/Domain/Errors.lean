import Mathlib.Data.List.Infix

/-! The exceptions the platform raises. -/

namespace SecScanMonitor.Domain

inductive ExceptionKind where
  | attributeError
  | typeError
  | keyError
  | valueError
  | runtimeError
  | permissionError
  | validationError
  | integrityError
  | unknownCapabilityError
  | opaEvaluationError
  | detectionInputError
  | detectionScopeError
  | eventIdentityConflict
  | eventTimestampError
  | adjudicationRefused
  | responseAuthorizationError
  | responseExecutionDisabled
  | runnerRefusalError
  | invalidEngagementTransition
  | unsupportedDetectionConstruct
  | graphScopeError
  | graphStateConflict
  | indexError
  | applicationError
  | adjudicationInputError
  | jsonDecodeError
  | tomlDecodeError
  | unicodeEncodeError
  | unicodeDecodeError
  | recursionError
  | lookupError
  | serviceContractError
  | unknownServiceError
  | fileNotFoundError
  | overflowError
  | programmingError
  | hostedCommandError
  | hostedWorkflowUnavailable
  | vulnerabilityFeedUnavailable
  | vulnerabilityFeedMalformed
  | osvFeedUnavailable
  | httpError
  | readModelError
  | dataError
  deriving Repr, DecidableEq

/-- The name of the exception's class. -/
def ExceptionKind.name : ExceptionKind → String
  | .attributeError => "AttributeError"
  | .typeError => "TypeError"
  | .keyError => "KeyError"
  | .valueError => "ValueError"
  | .runtimeError => "RuntimeError"
  | .permissionError => "PermissionError"
  | .validationError => "ValidationError"
  | .integrityError => "IntegrityError"
  | .unknownCapabilityError => "UnknownCapabilityError"
  | .opaEvaluationError => "OpaEvaluationError"
  | .detectionInputError => "DetectionInputError"
  | .detectionScopeError => "DetectionScopeError"
  | .eventIdentityConflict => "EventIdentityConflict"
  | .eventTimestampError => "EventTimestampError"
  | .adjudicationRefused => "AdjudicationRefused"
  | .responseAuthorizationError => "ResponseAuthorizationError"
  | .responseExecutionDisabled => "ResponseExecutionDisabled"
  | .runnerRefusalError => "RunnerRefusalError"
  | .invalidEngagementTransition => "InvalidEngagementTransition"
  | .unsupportedDetectionConstruct => "UnsupportedDetectionConstruct"
  | .graphScopeError => "GraphScopeError"
  | .graphStateConflict => "GraphStateConflict"
  | .indexError => "IndexError"
  | .applicationError => "ApplicationError"
  | .adjudicationInputError => "AdjudicationInputError"
  | .jsonDecodeError => "JSONDecodeError"
  | .tomlDecodeError => "TOMLDecodeError"
  | .unicodeEncodeError => "UnicodeEncodeError"
  | .unicodeDecodeError => "UnicodeDecodeError"
  | .recursionError => "RecursionError"
  | .lookupError => "LookupError"
  | .serviceContractError => "ServiceContractError"
  | .unknownServiceError => "UnknownServiceError"
  | .fileNotFoundError => "FileNotFoundError"
  | .overflowError => "OverflowError"
  | .programmingError => "ProgrammingError"
  | .hostedCommandError => "HostedCommandError"
  | .hostedWorkflowUnavailable => "HostedWorkflowUnavailable"
  | .vulnerabilityFeedUnavailable => "VulnerabilityFeedUnavailable"
  | .vulnerabilityFeedMalformed => "VulnerabilityFeedMalformed"
  | .osvFeedUnavailable => "OsVFeedUnavailable"
  | .httpError => "HTTPError"
  | .readModelError => "ReadModelError"
  | .dataError => "DataError"

structure Raised where
  kind : ExceptionKind
  message : String
  deriving Repr, DecidableEq

def raise {α : Type} (kind : ExceptionKind) (message : String) : Except Raised α :=
  .error ⟨kind, message⟩

/-- `if value is None: raise kind(message)` -/
def orRaise {α : Type} (value : Option α) (kind : ExceptionKind) (message : String) :
    Except Raised α :=
  match value with
  | some a => .ok a
  | none => raise kind message

/-- `if c: raise kind(message)` -/
def raiseIf (c : Prop) [Decidable c] (kind : ExceptionKind) (message : String) :
    Except Raised Unit :=
  if c then raise kind message else .ok ()

@[simp] theorem raiseIf_eq_ok {c : Prop} [Decidable c] {kind : ExceptionKind} {message : String}
    {u : Unit} : raiseIf c kind message = .ok u ↔ ¬ c := by
  by_cases h : c <;> simp [raiseIf, raise, h]

@[simp] theorem ok_bind {α β : Type} (a : α) (f : α → Except Raised β) :
    ((.ok a : Except Raised α) >>= f) = f a := rfl

theorem bind_eq_ok {α β : Type} {x : Except Raised α} {f : α → Except Raised β} {b : β} :
    (x >>= f) = .ok b ↔ ∃ a, x = .ok a ∧ f a = .ok b := by
  cases x with
  | error e => exact ⟨nofun, fun ⟨_, h, _⟩ => nomatch h⟩
  | ok a => exact ⟨fun h => ⟨a, rfl, h⟩, fun ⟨_, h, hf⟩ => by cases h; exact hf⟩

theorem map_bind {α β γ : Type} (x : Except Raised α) (f : α → Except Raised β) (g : β → γ) :
    (x >>= f).map g = x >>= fun a => (f a).map g := by
  cases x with
  | error e => rfl
  | ok a => rfl

theorem map_eq_ok {α β : Type} {x : Except Raised α} {f : α → β} {b : β} :
    x.map f = .ok b ↔ ∃ a, x = .ok a ∧ f a = b := by
  cases x with
  | error e => exact ⟨nofun, fun ⟨_, h, _⟩ => nomatch h⟩
  | ok a => exact ⟨fun h => ⟨a, rfl, Except.ok.inj h⟩, fun ⟨_, h, hf⟩ => by cases h; exact congrArg _ hf⟩

@[simp] theorem raiseIf_bind_eq_ok {β : Type} {c : Prop} [Decidable c] {kind : ExceptionKind}
    {message : String} {f : Unit → Except Raised β} {b : β} :
    (raiseIf c kind message >>= f) = .ok b ↔ ¬ c ∧ f () = .ok b := by
  rw [bind_eq_ok]
  constructor
  · rintro ⟨u, hu, hf⟩
    exact ⟨raiseIf_eq_ok.mp hu, hf⟩
  · rintro ⟨hc, hf⟩
    exact ⟨(), raiseIf_eq_ok.mpr hc, hf⟩

@[simp] theorem orRaise_eq_ok {α : Type} {value : Option α} {kind : ExceptionKind}
    {message : String} {a : α} : orRaise value kind message = .ok a ↔ value = some a := by
  cases value with
  | none => exact ⟨nofun, nofun⟩
  | some x => exact ⟨fun h => congrArg some (Except.ok.inj h), fun h => by cases h; rfl⟩

@[simp] theorem orRaise_bind_eq_ok {α β : Type} {value : Option α} {kind : ExceptionKind}
    {message : String} {f : α → Except Raised β} {b : β} :
    (orRaise value kind message >>= f) = .ok b ↔ ∃ a, value = some a ∧ f a = .ok b := by
  simp only [bind_eq_ok, orRaise_eq_ok]

/-- Whatever is raised is of this kind. -/
def Raises {α : Type} (p : Raised → Prop) (m : Except Raised α) : Prop := ∀ x, m = .error x → p x

section Raises

variable {α β : Type} {p : Raised → Prop}

theorem Raises.ok (a : α) : Raises p (.ok a) := by
  intro x h
  cases h

theorem Raises.raise {kind : ExceptionKind} {message : String} (h : p ⟨kind, message⟩) :
    Raises p (Domain.raise kind message : Except Raised α) := by
  intro x hx
  obtain rfl := Except.error.inj hx
  exact h

theorem Raises.bind {m : Except Raised α} {f : α → Except Raised β} (hm : Raises p m)
    (hf : ∀ a, m = .ok a → Raises p (f a)) : Raises p (m >>= f) := by
  intro x hx
  cases m with
  | error e => exact hm x (congrArg Except.error (Except.error.inj hx))
  | ok a => exact hf a rfl x hx

theorem raises_bind_iff {m : Except Raised α} {f : α → Except Raised β} :
    Raises p (m >>= f) ↔ Raises p m ∧ ∀ a, m = .ok a → Raises p (f a) := by
  refine ⟨fun h => ?_, fun h => h.1.bind h.2⟩
  cases m with
  | error e =>
    refine ⟨fun x hx => h x ?_, nofun⟩
    rw [hx]
    rfl
  | ok a =>
    refine ⟨Raises.ok a, fun b hb => ?_⟩
    obtain rfl := Except.ok.inj hb
    exact h

theorem Raises.raiseIf {c : Prop} [Decidable c] {kind : ExceptionKind} {message : String}
    (h : p ⟨kind, message⟩) : Raises p (Domain.raiseIf c kind message) := by
  by_cases hc : c
  · rw [Domain.raiseIf, if_pos hc]
    exact Raises.raise h
  · rw [Domain.raiseIf, if_neg hc]
    exact Raises.ok ()

theorem Raises.orRaise {value : Option α} {kind : ExceptionKind} {message : String}
    (h : p ⟨kind, message⟩) : Raises p (Domain.orRaise value kind message) := by
  cases value with
  | none => exact Raises.raise h
  | some a => exact Raises.ok a

end Raises

/-- A loop raises what its items do. -/
theorem Raises.mapM {α β : Type} {p : Raised → Prop} {f : α → Except Raised β} {l : List α}
    (h : ∀ a ∈ l, Raises p (f a)) : Raises p (l.mapM f) := by
  induction l with
  | nil => exact Raises.ok []
  | cons a l ih =>
    rw [List.mapM_cons]
    refine Raises.bind (h a List.mem_cons_self) fun b _ => ?_
    exact Raises.bind (ih fun x hx => h x (List.mem_cons_of_mem a hx)) fun bs _ => Raises.ok (b :: bs)

/-- What a loop raises, the first item raises for which it does not go on. -/
theorem raises_mapM_iff {α β : Type} {p : Raised → Prop} {f : α → Except Raised β} {l : List α} :
    Raises p (l.mapM f) ↔
      ∀ before a after, l = before ++ a :: after → (∀ b ∈ before, ∃ c, f b = .ok c) → Raises p (f a) := by
  induction l with
  | nil => exact iff_of_true (Raises.ok []) fun before a after h => by simp at h
  | cons x l ih =>
    rw [List.mapM_cons, raises_bind_iff]
    constructor
    · rintro ⟨hx, hrest⟩ before a after h hbefore
      cases before with
      | nil =>
        obtain ⟨rfl, -⟩ := List.cons.inj h
        exact hx
      | cons y before =>
        obtain ⟨rfl, hl⟩ := List.cons.inj h
        obtain ⟨⟨c, hc⟩, hbefore⟩ := List.forall_mem_cons.mp hbefore
        exact ih.mp (raises_bind_iff.mp (hrest c hc)).1 before a after hl hbefore
    · intro h
      refine ⟨h [] x l rfl nofun, fun b hb => raises_bind_iff.mpr ⟨ih.mpr ?_, fun _ _ => Raises.ok _⟩⟩
      intro before a after hl hbefore
      refine h (x :: before) a after (by rw [hl, List.cons_append]) ?_
      exact List.forall_mem_cons.mpr ⟨⟨b, hb⟩, hbefore⟩

theorem mapM_eq_ok {α β : Type} {f : α → Except Raised β} {l : List α} {bs : List β}
    (h : l.mapM f = .ok bs) :
    (∀ a ∈ l, ∃ b ∈ bs, f a = .ok b) ∧ ∀ b ∈ bs, ∃ a ∈ l, f a = .ok b := by
  induction l generalizing bs with
  | nil =>
    cases h
    exact ⟨nofun, nofun⟩
  | cons a l ih =>
    rw [List.mapM_cons] at h
    obtain ⟨b, hb, h⟩ := bind_eq_ok.mp h
    obtain ⟨bs', hbs', h⟩ := bind_eq_ok.mp h
    cases h
    obtain ⟨hforth, hback⟩ := ih hbs'
    constructor
    · intro x hx
      cases hx with
      | head => exact ⟨b, List.mem_cons_self, hb⟩
      | tail _ hx =>
        obtain ⟨y, hy, hxy⟩ := hforth x hx
        exact ⟨y, List.mem_cons_of_mem b hy, hxy⟩
    · intro y hy
      cases hy with
      | head => exact ⟨a, List.mem_cons_self, hb⟩
      | tail _ hy =>
        obtain ⟨x, hx, hxy⟩ := hback y hy
        exact ⟨x, List.mem_cons_of_mem a hx, hxy⟩

/-- A step returns where both of its halves do. -/
theorem bind_isOk {α β : Type} {x : Except Raised α} {f : α → Except Raised β} :
    (∃ b, (x >>= f) = .ok b) ↔ ∃ a, x = .ok a ∧ ∃ b, f a = .ok b := by
  simp only [bind_eq_ok]
  constructor
  · rintro ⟨b, a, hx, hf⟩
    exact ⟨a, hx, b, hf⟩
  · rintro ⟨a, hx, b, hf⟩
    exact ⟨b, a, hx, hf⟩

theorem map_isOk {α β : Type} {x : Except Raised α} {f : α → β} :
    (∃ b, (x >>= fun a => pure (f a)) = .ok b) ↔ ∃ a, x = .ok a := by
  rw [bind_isOk]
  exact ⟨fun ⟨a, hx, _⟩ => ⟨a, hx⟩, fun ⟨a, hx⟩ => ⟨a, hx, f a, rfl⟩⟩

/-- A loop returns where every item does. -/
theorem mapM_isOk {α β : Type} {f : α → Except Raised β} {l : List α} :
    (∃ bs, l.mapM f = .ok bs) ↔ ∀ a ∈ l, ∃ b, f a = .ok b := by
  constructor
  · rintro ⟨bs, h⟩ a ha
    obtain ⟨b, -, hb⟩ := (mapM_eq_ok h).1 a ha
    exact ⟨b, hb⟩
  · intro h
    induction l with
    | nil => exact ⟨[], rfl⟩
    | cons a l ih =>
      obtain ⟨b, hb⟩ := h a List.mem_cons_self
      obtain ⟨bs, hbs⟩ := ih fun x hx => h x (List.mem_cons_of_mem a hx)
      refine ⟨b :: bs, ?_⟩
      rw [List.mapM_cons, hb, ok_bind, hbs]
      rfl

theorem mapM_map_eq {α β γ : Type} {f : α → Except Raised β} {g : β → γ} {k : α → γ} {l : List α}
    {bs : List β} (h : l.mapM f = .ok bs) (hf : ∀ a b, f a = .ok b → g b = k a) :
    bs.map g = l.map k := by
  induction l generalizing bs with
  | nil =>
    cases h
    rfl
  | cons a l ih =>
    rw [List.mapM_cons] at h
    obtain ⟨b, hb, h⟩ := bind_eq_ok.mp h
    obtain ⟨bs', hbs', h⟩ := bind_eq_ok.mp h
    cases h
    rw [List.map_cons, List.map_cons, hf a b hb, ih hbs']

end SecScanMonitor.Domain
