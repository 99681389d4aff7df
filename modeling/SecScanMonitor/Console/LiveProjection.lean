import Mathlib.Algebra.Ring.Int.Defs
import Mathlib.Data.List.Sort
import SecScanMonitor.Foundations.Dict
import SecScanMonitor.Foundations.History

/-! Live projections of the console: what a sequence of stream updates leaves of the objects it is about
(`secscan-experience-contracts/src/index.ts`). -/

namespace SecScanMonitor.Console

open Foundations

/-- What every plain object inherits from `Object.prototype`. -/
def inheritedNames : List String :=
  ["constructor", "__defineGetter__", "__defineSetter__", "hasOwnProperty", "__lookupGetter__",
    "__lookupSetter__", "isPrototypeOf", "propertyIsEnumerable", "toString", "valueOf", "__proto__",
    "toLocaleString"]

/-- What is read of a property of a plain object. -/
inductive Property (α : Type) where
  | own (a : α)
  | inherited
  | undefined

def readProperty {α : Type} (object : Dict String α) (name : String) : Property α :=
  match object.find? name with
  | some a => .own a
  | none => if name ∈ inheritedNames then .inherited else .undefined

inductive UpdateType where
  | snapshot
  | upsert
  | remove
  deriving Repr, DecidableEq

inductive ConnectionState where
  | preview
  | connected
  | degraded
  | unavailable
  deriving Repr, DecidableEq

structure ExperienceScope where
  tenantId : String
  caseId : Option String
  deriving Repr, DecidableEq

/-- The payload is of type `τ`; the numbers `ν` are those without NaN. -/
structure StreamEnvelope (τ ν : Type) where
  updateId : String
  objectId : String
  updateType : UpdateType
  sequence : ν
  version : ν
  resumeCursor : Option String
  scope : ExperienceScope
  payload : Option τ

structure Mark (ν : Type) where
  sequence : ν
  version : ν

def StreamEnvelope.mark {τ ν : Type} (e : StreamEnvelope τ ν) : Mark ν := ⟨e.sequence, e.version⟩

structure LiveProjection (τ ν : Type) where
  items : List τ
  lastById : Dict String (Mark ν)
  seenUpdateIds : Dict String Unit
  resumeCursor : Option String
  lastSequence : ν
  connectionState : ConnectionState

inductive StreamUpdateResult where
  | accepted
  | duplicate
  | stale
  deriving Repr, DecidableEq

structure ScopeMismatchError where
  message : String
  deriving Repr, DecidableEq

def scopeMismatch : ScopeMismatchError :=
  ⟨"The received experience update is outside the active scope."⟩

section Update

variable {τ ν : Type} [LinearOrder ν] [Zero ν] (idOf : τ → String) (localeCompare : String → String → Int)

def createLiveProjection : LiveProjection τ ν where
  items := []
  lastById := Table.empty
  seenUpdateIds := Table.empty
  resumeCursor := none
  lastSequence := 0
  connectionState := .connected

def setLiveConnectionState (projection : LiveProjection τ ν) (connectionState : ConnectionState) :
    LiveProjection τ ν :=
  { projection with connectionState }

/-- An expected case that is the empty string is none. -/
def ExperienceScope.differs (scope expected : ExperienceScope) : Bool :=
  scope.tenantId ≠ expected.tenantId ||
    (expected.caseId.any (fun c => c ≠ "") && decide (scope.caseId ≠ expected.caseId))

def seen (projection : LiveProjection τ ν) (updateId : String) : Bool :=
  match readProperty projection.seenUpdateIds updateId with
  | .own _ | .inherited => true
  | .undefined => false

/-- What is inherited has no version, and no number compares with `undefined`. -/
def behind (projection : LiveProjection τ ν) (envelope : StreamEnvelope τ ν) : Bool :=
  match readProperty projection.lastById envelope.objectId with
  | .own previous => envelope.version < previous.version ||
      (envelope.version = previous.version && envelope.sequence ≤ previous.sequence)
  | .inherited | .undefined => false

/-- The payload that an update leaves, if it is accepted. -/
def StreamEnvelope.kept (envelope : StreamEnvelope τ ν) : Option τ :=
  if envelope.updateType ≠ .remove then envelope.payload else none

def accept (projection : LiveProjection τ ν) (envelope : StreamEnvelope τ ν) : LiveProjection τ ν where
  items := (projection.items.filter (fun item => idOf item ≠ envelope.objectId) ++
    envelope.kept.toList).insertionSort fun left right => localeCompare (idOf left) (idOf right) ≤ 0
  lastById := projection.lastById.set envelope.objectId envelope.mark
  seenUpdateIds := projection.seenUpdateIds.set envelope.updateId ()
  resumeCursor := envelope.resumeCursor <|> projection.resumeCursor
  lastSequence := envelope.sequence
  connectionState := projection.connectionState

def applyStreamUpdate (projection : LiveProjection τ ν) (envelope : StreamEnvelope τ ν)
    (expectedScope : ExperienceScope) : Except ScopeMismatchError (LiveProjection τ ν × StreamUpdateResult) :=
  if envelope.scope.differs expectedScope then .error scopeMismatch
  else if seen projection envelope.updateId then .ok (projection, .duplicate)
  else if envelope.sequence ≤ projection.lastSequence then .ok (projection, .stale)
  else if behind projection envelope then .ok (projection, .stale)
  else .ok (accept idOf localeCompare projection envelope, .accepted)

inductive LiveCall (τ ν : Type) where
  | update (envelope : StreamEnvelope τ ν)
  | connection (state : ConnectionState)

/-- A call replaces the projection by the one that it returns, if it returns. -/
def LiveCall.exec (expectedScope : ExperienceScope) (call : LiveCall τ ν) (projection : LiveProjection τ ν) :
    Option (Except ScopeMismatchError StreamUpdateResult) × LiveProjection τ ν :=
  match call with
  | .connection state => (none, setLiveConnectionState projection state)
  | .update envelope =>
    match applyStreamUpdate idOf localeCompare projection envelope expectedScope with
    | .error e => (some (.error e), projection)
    | .ok (next, result) => (some (.ok result), next)

abbrev LiveEntry (τ ν : Type) :=
  Entry (LiveCall τ ν) (LiveProjection τ ν) (Option (Except ScopeMismatchError StreamUpdateResult))

end Update

section Accepted

variable {τ ν : Type} {p : LiveProjection τ ν} {es : List (LiveEntry τ ν)}

def acceptedUpdate (entry : LiveEntry τ ν) : Option (StreamEnvelope τ ν) :=
  match entry.call, entry.outcome with
  | .update envelope, some (.ok .accepted) => some envelope
  | _, _ => none

/-- The updates that were accepted, the latest first. -/
def acceptedUpdates (es : List (LiveEntry τ ν)) : List (StreamEnvelope τ ν) := es.filterMap acceptedUpdate

def lastAccepted (es : List (LiveEntry τ ν)) (objectId : String) : Option (StreamEnvelope τ ν) :=
  (acceptedUpdates es).find? fun e => decide (e.objectId = objectId)

lemma acceptedUpdates_accepted (e : StreamEnvelope τ ν) :
    acceptedUpdates (⟨.update e, p, some (.ok .accepted)⟩ :: es) = e :: acceptedUpdates es := rfl

lemma acceptedUpdates_other {call : LiveCall τ ν} {outcome : Option (Except ScopeMismatchError StreamUpdateResult)}
    (h : outcome ≠ some (.ok .accepted)) : acceptedUpdates (⟨call, p, outcome⟩ :: es) = acceptedUpdates es := by
  have hnone : acceptedUpdate ⟨call, p, outcome⟩ = none := by
    unfold acceptedUpdate
    split
    · rename_i houtcome
      exact absurd houtcome h
    · rfl
  rw [acceptedUpdates, List.filterMap_cons, hnone]
  rfl

lemma lastAccepted_accepted (e : StreamEnvelope τ ν) (o : String) :
    lastAccepted (⟨.update e, p, some (.ok .accepted)⟩ :: es) o =
      if e.objectId = o then some e else lastAccepted es o := by
  rw [lastAccepted, acceptedUpdates_accepted, List.find?_cons]
  by_cases ho : e.objectId = o
  · rw [if_pos ho, decide_eq_true ho]
  · rw [if_neg ho, decide_eq_false ho]
    rfl

lemma perm_of_filter {l l' : List τ} (hperm : l.Perm l') {o : Option τ} (h : l' = o.toList) : l = o.toList := by
  subst h
  cases o with
  | none => exact List.perm_nil.mp hperm
  | some t => exact List.perm_singleton.mp hperm

end Accepted

section Invariant

variable {τ ν : Type} [LinearOrder ν] [Zero ν] {idOf : τ → String} {localeCompare : String → String → Int}
  {scope : ExperienceScope} {p : LiveProjection τ ν} {es : List (LiveEntry τ ν)}

/-- The comparison orders texts, though it need not tell different ones apart. -/
structure TotalPreorder (localeCompare : String → String → Int) : Prop where
  total : ∀ a b, localeCompare a b ≤ 0 ∨ localeCompare b a ≤ 0
  trans : ∀ a b c, localeCompare a b ≤ 0 → localeCompare b c ≤ 0 → localeCompare a c ≤ 0

/-- What an accepted update has passed. -/
structure Passes (scope : ExperienceScope) (p : LiveProjection τ ν) (e : StreamEnvelope τ ν) : Prop where
  inScope : e.scope.differs scope = false
  fresh : seen p e.updateId = false
  later : p.lastSequence < e.sequence
  notBehind : behind p e = false

variable (idOf localeCompare scope p) in
omit [Zero ν] in
lemma apply_cases (e : StreamEnvelope τ ν) :
    Passes scope p e ∧ applyStreamUpdate idOf localeCompare p e scope =
        .ok (accept idOf localeCompare p e, .accepted) ∨
      ¬ Passes scope p e ∧ (applyStreamUpdate idOf localeCompare p e scope = .error scopeMismatch ∨
        applyStreamUpdate idOf localeCompare p e scope = .ok (p, .duplicate) ∨
          applyStreamUpdate idOf localeCompare p e scope = .ok (p, .stale)) := by
  rw [applyStreamUpdate]
  split
  · rename_i hscope
    exact Or.inr ⟨fun h => Bool.noConfusion (hscope.symm.trans h.inScope), Or.inl rfl⟩
  rename_i hscope
  split
  · rename_i hseen
    exact Or.inr ⟨fun h => Bool.noConfusion (hseen.symm.trans h.fresh), Or.inr (Or.inl rfl)⟩
  rename_i hseen
  split
  · rename_i hsequence
    exact Or.inr ⟨fun h => absurd h.later (not_lt.mpr hsequence), Or.inr (Or.inr rfl)⟩
  rename_i hsequence
  split
  · rename_i hbehind
    exact Or.inr ⟨fun h => Bool.noConfusion (hbehind.symm.trans h.notBehind), Or.inr (Or.inr rfl)⟩
  rename_i hbehind
  exact Or.inl ⟨⟨Bool.eq_false_iff.mpr hscope, Bool.eq_false_iff.mpr hseen, not_le.mp hsequence,
    Bool.eq_false_iff.mpr hbehind⟩, rfl⟩

variable (idOf localeCompare scope p) in
omit [Zero ν] in
lemma exec_cases (call : LiveCall τ ν) :
    (∃ e, call = .update e ∧ Passes scope p e ∧
        call.exec idOf localeCompare scope p = (some (.ok .accepted), accept idOf localeCompare p e)) ∨
      (call.exec idOf localeCompare scope p).1 ≠ some (.ok .accepted) ∧
        ((∃ state, call = .connection state ∧
            (call.exec idOf localeCompare scope p).2 = setLiveConnectionState p state) ∨
          (∃ e, call = .update e ∧ ¬ Passes scope p e) ∧ (call.exec idOf localeCompare scope p).2 = p) := by
  cases call with
  | connection state => exact Or.inr ⟨nofun, Or.inl ⟨state, rfl, rfl⟩⟩
  | update e =>
    simp only [LiveCall.exec]
    rcases apply_cases idOf localeCompare scope p e with ⟨hpasses, hout⟩ | ⟨hnot, hout | hout | hout⟩
    · exact Or.inl ⟨e, rfl, hpasses, by rw [hout]⟩
    · rw [hout]
      exact Or.inr ⟨nofun, Or.inr ⟨⟨e, rfl, hnot⟩, rfl⟩⟩
    · rw [hout]
      exact Or.inr ⟨nofun, Or.inr ⟨⟨e, rfl, hnot⟩, rfl⟩⟩
    · rw [hout]
      exact Or.inr ⟨nofun, Or.inr ⟨⟨e, rfl, hnot⟩, rfl⟩⟩

/-- The sequence, the ids that were seen and the versions are those of the accepted updates. -/
structure Recorded (es : List (LiveEntry τ ν)) (p : LiveProjection τ ν) : Prop where
  sequence : p.lastSequence = ((acceptedUpdates es).head?.map StreamEnvelope.sequence).getD 0
  seenIds : ∀ id, p.seenUpdateIds.find? id = some () ↔ ∃ e ∈ acceptedUpdates es, e.updateId = id
  marks : ∀ o, p.lastById.find? o = (lastAccepted es o).map StreamEnvelope.mark
  bounded : ∀ o m, p.lastById.find? o = some m → m.sequence ≤ p.lastSequence

/-- The items are the payloads of the last accepted update of each object. -/
structure Listed (idOf : τ → String) (localeCompare : String → String → Int) (es : List (LiveEntry τ ν))
    (p : LiveProjection τ ν) : Prop where
  items : ∀ o, p.items.filter (fun t => decide (idOf t = o)) =
    ((lastAccepted es o).bind StreamEnvelope.kept).toList
  sorted : p.items.Pairwise fun left right => localeCompare (idOf left) (idOf right) ≤ 0

lemma Recorded.accept (h : Recorded es p) {e : StreamEnvelope τ ν} (hpasses : Passes scope p e) :
    Recorded (⟨.update e, p, some (.ok .accepted)⟩ :: es) (accept idOf localeCompare p e) where
  sequence := rfl
  seenIds id := by
    rw [acceptedUpdates_accepted, Console.accept, Dict.find?_set]
    simp only [List.mem_cons, exists_eq_or_imp, ← h.seenIds]
    by_cases hid : id = e.updateId
    · simp [hid]
    · simp [hid, Ne.symm hid]
  marks o := by
    rw [lastAccepted_accepted, Console.accept, Dict.find?_set]
    by_cases ho : e.objectId = o
    · rw [if_pos ho.symm, if_pos ho]
      rfl
    · rw [if_neg (Ne.symm ho), if_neg ho, h.marks]
  bounded o m hm := by
    rcases Dict.find?_set_eq_some hm with ⟨-, rfl⟩ | hold
    · exact le_refl _
    · exact (h.bounded o m hold).trans hpasses.later.le

omit [LinearOrder ν] [Zero ν] in
lemma Listed.accept (hcompare : TotalPreorder localeCompare) (h : Listed idOf localeCompare es p)
    {e : StreamEnvelope τ ν} (hpayload : ∀ t, e.payload = some t → idOf t = e.objectId) :
    Listed idOf localeCompare (⟨.update e, p, some (.ok .accepted)⟩ :: es) (accept idOf localeCompare p e) where
  items o := by
    have hkept : ∀ t ∈ e.kept.toList, idOf t = e.objectId := by
      intro t ht
      have hsome : e.kept = some t := Option.mem_toList.mp ht
      rw [StreamEnvelope.kept] at hsome
      split at hsome
      · exact hpayload t hsome
      · cases hsome
    rw [lastAccepted_accepted]
    refine perm_of_filter ((List.perm_insertionSort _ _).filter _) ?_
    rw [List.filter_append, List.filter_filter]
    by_cases ho : e.objectId = o
    · rw [if_pos ho, Option.bind_some]
      have hnone : p.items.filter (fun t => decide (idOf t = o) && decide (idOf t ≠ e.objectId)) = [] := by
        refine List.filter_eq_nil_iff.mpr fun t _ => ?_
        rw [ho]
        simp
      rw [hnone, List.nil_append]
      exact List.filter_eq_self.mpr fun t ht => decide_eq_true ((hkept t ht).trans ho)
    · rw [if_neg ho, ← h.items o]
      have hnone : e.kept.toList.filter (fun t => decide (idOf t = o)) = [] :=
        List.filter_eq_nil_iff.mpr fun t ht heq => ho ((hkept t ht).symm.trans (of_decide_eq_true heq))
      rw [hnone, List.append_nil]
      refine List.filter_congr fun t _ => ?_
      by_cases ht : idOf t = o
      · simp [ht, Ne.symm ho]
      · simp [ht]
  sorted := by
    have htotal : Std.Total fun left right : τ => localeCompare (idOf left) (idOf right) ≤ 0 :=
      ⟨fun a b => hcompare.total (idOf a) (idOf b)⟩
    have htrans : IsTrans τ fun left right => localeCompare (idOf left) (idOf right) ≤ 0 :=
      ⟨fun a b c => hcompare.trans (idOf a) (idOf b) (idOf c)⟩
    exact List.pairwise_insertionSort _ _

lemma Recorded.other (h : Recorded es p) {call : LiveCall τ ν} {q p' : LiveProjection τ ν}
    {outcome : Option (Except ScopeMismatchError StreamUpdateResult)} (hout : outcome ≠ some (.ok .accepted))
    (hsequence : p'.lastSequence = p.lastSequence) (hseen : p'.seenUpdateIds = p.seenUpdateIds)
    (hmarks : p'.lastById = p.lastById) : Recorded (⟨call, q, outcome⟩ :: es) p' where
  sequence := by rw [acceptedUpdates_other hout, hsequence, h.sequence]
  seenIds id := by rw [acceptedUpdates_other hout, hseen, h.seenIds]
  marks o := by rw [lastAccepted, acceptedUpdates_other hout, hmarks, h.marks, lastAccepted]
  bounded := by rw [hmarks, hsequence]; exact h.bounded

omit [LinearOrder ν] [Zero ν] in
lemma Listed.other (h : Listed idOf localeCompare es p) {call : LiveCall τ ν} {q p' : LiveProjection τ ν}
    {outcome : Option (Except ScopeMismatchError StreamUpdateResult)} (hout : outcome ≠ some (.ok .accepted))
    (hitems : p'.items = p.items) : Listed idOf localeCompare (⟨call, q, outcome⟩ :: es) p' where
  items o := by rw [lastAccepted, acceptedUpdates_other hout, hitems, h.items, lastAccepted]
  sorted := by rw [hitems]; exact h.sorted

abbrev LiveHistory (idOf : τ → String) (localeCompare : String → String → Int) (scope : ExperienceScope)
    (es : List (LiveEntry τ ν)) (p : LiveProjection τ ν) : Prop :=
  History (LiveCall.exec idOf localeCompare scope) createLiveProjection es p

lemma history_recorded (h : LiveHistory idOf localeCompare scope es p) : Recorded es p := by
  induction h with
  | nil => exact ⟨rfl, fun id => by simp [createLiveProjection, acceptedUpdates], fun o => rfl,
    fun _ _ h => absurd h (Option.some_ne_none _).symm⟩
  | @call es p call _ ih =>
    rcases exec_cases idOf localeCompare scope p call with
      ⟨e, rfl, hpasses, hexec⟩ | ⟨hout, ⟨state, rfl, hkept⟩ | ⟨-, hkept⟩⟩
    · rw [hexec]
      exact ih.accept hpasses
    · exact ih.other hout (by rw [hkept]; rfl) (by rw [hkept]; rfl) (by rw [hkept]; rfl)
    · exact ih.other hout (by rw [hkept]) (by rw [hkept]) (by rw [hkept])

/-- The payloads of the updates bear the ids of their objects. -/
def PayloadsNamed (idOf : τ → String) (es : List (LiveEntry τ ν)) : Prop :=
  ∀ entry ∈ es, ∀ e, entry.call = .update e → ∀ t, e.payload = some t → idOf t = e.objectId

lemma history_listed (hcompare : TotalPreorder localeCompare) (h : LiveHistory idOf localeCompare scope es p)
    (hnamed : PayloadsNamed idOf es) : Listed idOf localeCompare es p := by
  induction h with
  | nil => exact ⟨fun o => rfl, List.Pairwise.nil⟩
  | @call es p call _ ih =>
    have hbefore := ih fun entry hentry => hnamed entry (List.mem_cons_of_mem _ hentry)
    rcases exec_cases idOf localeCompare scope p call with
      ⟨e, rfl, -, hexec⟩ | ⟨hout, ⟨state, rfl, hkept⟩ | ⟨-, hkept⟩⟩
    · rw [hexec]
      exact hbefore.accept hcompare (hnamed _ List.mem_cons_self e rfl)
    · exact hbefore.other hout (by rw [hkept]; rfl)
    · exact hbefore.other hout (by rw [hkept])

end Invariant

section Laws

variable {τ ν : Type} [LinearOrder ν] [Zero ν] {idOf : τ → String} {localeCompare : String → String → Int}
  {scope : ExperienceScope} {p : LiveProjection τ ν} {es : List (LiveEntry τ ν)}

/-- What a call does to a projection. -/
structure StepLaws (idOf : τ → String) (localeCompare : String → String → Int) (scope : ExperienceScope)
    (p : LiveProjection τ ν) (call : LiveCall τ ν) : Prop where
  increases : (call.exec idOf localeCompare scope p).1 = some (.ok .accepted) →
    p.lastSequence < (call.exec idOf localeCompare scope p).2.lastSequence
  unchanged : ∀ e, call = .update e → (call.exec idOf localeCompare scope p).1 ≠ some (.ok .accepted) →
    (call.exec idOf localeCompare scope p).2 = p
  versions : ∀ o m, p.lastById.find? o = some m →
    ∃ m', (call.exec idOf localeCompare scope p).2.lastById.find? o = some m' ∧ m.version ≤ m'.version
  older : ∀ e m, call = .update e → p.lastById.find? e.objectId = some m → e.version < m.version →
    (call.exec idOf localeCompare scope p).1 ≠ some (.ok .accepted)

omit [Zero ν] in
lemma behind_of_mark {e : StreamEnvelope τ ν} {m : Mark ν} (hm : p.lastById.find? e.objectId = some m) :
    behind p e = false ↔ m.version ≤ e.version ∧ (e.version = m.version → m.sequence < e.sequence) := by
  rw [behind, readProperty, hm]
  simp

omit [Zero ν] in
lemma stepLaws (call : LiveCall τ ν) : StepLaws idOf localeCompare scope p call := by
  rcases exec_cases idOf localeCompare scope p call with
    ⟨e, rfl, hpasses, hexec⟩ | ⟨hout, hkept⟩
  · refine ⟨fun _ => ?_, fun _ _ hnot => absurd (by rw [hexec]) hnot, fun o m hm => ?_, ?_⟩
    · rw [hexec]
      exact hpasses.later
    · rw [hexec]
      by_cases ho : o = e.objectId
      · subst ho
        exact ⟨e.mark, Dict.find?_set_self _ _ _, ((behind_of_mark hm).mp hpasses.notBehind).1⟩
      · exact ⟨m, (Dict.find?_set_of_ne _ _ ho).trans hm, le_refl _⟩
    · intro e' m hcall hm holder
      obtain rfl := LiveCall.update.inj hcall
      exact absurd holder (not_lt.mpr ((behind_of_mark hm).mp hpasses.notBehind).1)
  · refine ⟨fun haccepted => absurd haccepted hout, fun e hcall _ => ?_, fun o m hm => ⟨m, ?_, le_refl _⟩,
      fun _ _ _ _ _ => hout⟩
    · rcases hkept with ⟨state, rfl, -⟩ | ⟨-, hkept⟩
      · cases hcall
      · exact hkept
    · rcases hkept with ⟨state, -, hkept⟩ | ⟨-, hkept⟩
      · rw [hkept]
        exact hm
      · rw [hkept]
        exact hm

/-- After any sequence of calls the projection shows the last accepted update of each object. -/
theorem live_projection (hcompare : TotalPreorder localeCompare) (h : LiveHistory idOf localeCompare scope es p)
    (hnamed : PayloadsNamed idOf es) : Recorded es p ∧ Listed idOf localeCompare es p ∧
      ∀ call, StepLaws idOf localeCompare scope p call :=
  ⟨history_recorded h, history_listed hcompare h hnamed, stepLaws⟩

/-- The projection shows the update. -/
structure Reflects (idOf : τ → String) (p : LiveProjection τ ν) (e : StreamEnvelope τ ν) : Prop where
  sequence : p.lastSequence = e.sequence
  mark : p.lastById.find? e.objectId = some e.mark
  seenId : p.seenUpdateIds.find? e.updateId = some ()
  cursor : ∀ c, e.resumeCursor = some c → p.resumeCursor = some c
  payload : ∀ t, e.kept = some t → t ∈ p.items
  removed : e.kept = none → ∀ t ∈ p.items, idOf t ≠ e.objectId

omit [LinearOrder ν] [Zero ν] in
lemma accept_reflects (e : StreamEnvelope τ ν) : Reflects idOf (accept idOf localeCompare p e) e where
  sequence := rfl
  mark := Dict.find?_set_self _ _ _
  seenId := Dict.find?_set_self _ _ _
  cursor c hc := by rw [accept, hc]; rfl
  payload t ht := by
    rw [accept, List.mem_insertionSort, ht]
    exact List.mem_append_right _ (List.mem_singleton_self t)
  removed hnone t ht := by
    rw [accept, List.mem_insertionSort, hnone, Option.toList_none, List.append_nil] at ht
    exact of_decide_eq_true (List.mem_filter.mp ht).2

/-- A fresh update is accepted exactly when its id is not the name of an inherited property. -/
theorem fresh_update_iff (h : LiveHistory idOf localeCompare scope es p) (e : StreamEnvelope τ ν)
    (hscope : e.scope.differs scope = false) (hfresh : ∀ e' ∈ acceptedUpdates es, e'.updateId ≠ e.updateId)
    (hsequence : p.lastSequence < e.sequence)
    (hversion : ∀ e', lastAccepted es e.objectId = some e' → e'.version ≤ e.version) :
    (∃ p', applyStreamUpdate idOf localeCompare p e scope = .ok (p', .accepted) ∧ Reflects idOf p' e) ↔
      e.updateId ∉ inheritedNames := by
  have hrecorded := history_recorded h
  have hunseen : p.seenUpdateIds.find? e.updateId = none := by
    cases hfound : p.seenUpdateIds.find? e.updateId with
    | none => rfl
    | some u =>
      obtain ⟨e', he', hid⟩ := (hrecorded.seenIds e.updateId).mp hfound
      exact absurd hid (hfresh e' he')
  have hseen : seen p e.updateId = decide (e.updateId ∈ inheritedNames) := by
    rw [seen, readProperty, hunseen]
    by_cases hname : e.updateId ∈ inheritedNames
    · simp [hname]
    · simp [hname]
  have hbehind : behind p e = false := by
    cases hmark : p.lastById.find? e.objectId with
    | some m =>
      refine (behind_of_mark hmark).mpr ⟨?_, fun _ => (hrecorded.bounded _ _ hmark).trans_lt hsequence⟩
      have hlast := (hrecorded.marks e.objectId).symm.trans hmark
      obtain ⟨e', he', rfl⟩ := Option.map_eq_some_iff.mp hlast
      exact hversion e' he'
    | none =>
      rw [behind, readProperty, hmark]
      by_cases hname : e.objectId ∈ inheritedNames
      · simp [hname]
      · simp [hname]
  have hpasses : Passes scope p e ↔ e.updateId ∉ inheritedNames := by
    constructor
    · intro hpasses hname
      have hfresh := hpasses.fresh
      rw [hseen, decide_eq_true hname] at hfresh
      cases hfresh
    · intro hname
      exact ⟨hscope, by rw [hseen, decide_eq_false hname], hsequence, hbehind⟩
  rw [← hpasses]
  rcases apply_cases idOf localeCompare scope p e with ⟨hyes, hout⟩ | ⟨hno, hout⟩
  · exact ⟨fun _ => hyes, fun _ => ⟨_, hout, accept_reflects e⟩⟩
  · refine ⟨fun ⟨p', haccepted, _⟩ => ?_, fun hyes => absurd hyes hno⟩
    rcases hout with hout | hout | hout
    · cases hout.symm.trans haccepted
    · cases hout.symm.trans haccepted
    · cases hout.symm.trans haccepted

end Laws

section Example

/-- An item with its value. -/
abbrev LiveItem := String × String

def byCodePoint (a b : String) : Int := if a ≤ b then (if b ≤ a then 0 else -1) else 1

lemma byCodePoint_le {a b : String} : byCodePoint a b ≤ 0 ↔ a ≤ b := by
  rw [byCodePoint]
  split
  · rename_i h
    split <;> simp [h]
  · rename_i h
    simp [h]

lemma byCodePoint_preorder : TotalPreorder byCodePoint where
  total a b := by
    rw [byCodePoint_le, byCodePoint_le]
    exact String.le_total a b
  trans a b c := by
    rw [byCodePoint_le, byCodePoint_le, byCodePoint_le]
    exact String.le_trans

def liveScope : ExperienceScope := ⟨"tenant-1", some "case-1"⟩

def liveUpdate (updateId objectId : String) (updateType : UpdateType) (sequence version : Int) :
    StreamEnvelope LiveItem Int :=
  ⟨updateId, objectId, updateType, sequence, version, none, liveScope, some (objectId, updateId)⟩

/-- Two objects arrive, one is removed, and an older update of it comes late. -/
def liveCalls : List (LiveCall LiveItem Int) :=
  [.update (liveUpdate "u4" "item-1" .upsert 4 2), .connection .degraded,
    .update (liveUpdate "u3" "item-1" .remove 3 3), .update (liveUpdate "u2" "item-1" .upsert 2 1),
    .update (liveUpdate "u1" "item-2" .snapshot 1 1)]

def liveRun : List (LiveEntry LiveItem Int) × LiveProjection LiveItem Int :=
  History.ofCalls (LiveCall.exec Prod.fst byCodePoint liveScope) createLiveProjection liveCalls

theorem liveRun_projection : liveRun.2.items = [("item-2", "u1")] ∧ Recorded liveRun.1 liveRun.2 ∧
    Listed Prod.fst byCodePoint liveRun.1 liveRun.2 := by
  have hnamed : PayloadsNamed Prod.fst liveRun.1 := by
    intro entry hentry e hcall t ht
    have hmem : entry.call ∈ liveCalls := History.ofCalls_call hentry
    rw [hcall] at hmem
    simp only [liveCalls, List.mem_cons, LiveCall.update.injEq, reduceCtorEq, List.not_mem_nil, or_false,
      false_or] at hmem
    rcases hmem with rfl | rfl | rfl | rfl <;> cases ht <;> rfl
  have hlaws := live_projection byCodePoint_preorder (History.ofCalls_history liveCalls) hnamed
  exact ⟨by decide +kernel, hlaws.1, hlaws.2.1⟩

theorem constructor_update_lost :
    (liveUpdate "constructor" "item-1" .upsert 1 1).scope.differs liveScope = false ∧
      (createLiveProjection : LiveProjection LiveItem Int).lastSequence < 1 ∧
      applyStreamUpdate Prod.fst byCodePoint createLiveProjection (liveUpdate "constructor" "item-1" .upsert 1 1)
        liveScope = .ok (createLiveProjection, .duplicate) :=
  ⟨by decide, by decide, rfl⟩

theorem item_update_accepted : ∃ p', applyStreamUpdate Prod.fst byCodePoint createLiveProjection
    (liveUpdate "u1" "constructor" .upsert 1 1) liveScope = .ok (p', .accepted) ∧
      Reflects Prod.fst p' (liveUpdate "u1" "constructor" .upsert 1 1) :=
  (fresh_update_iff .nil (liveUpdate "u1" "constructor" .upsert 1 1) (by decide)
    (fun _ h => absurd h List.not_mem_nil) (by decide) (fun _ h => absurd h (Option.some_ne_none _).symm)).mpr
    (by decide)

end Example

end SecScanMonitor.Console
