import SecScanMonitor.Foundations.Programs
import SecScanMonitor.Workflows.Activities

/-! The ledger of side effects in PostgreSQL (`persistence/side_effect_ledger.py`), against the one in memory that it
stands for: any number of workers record at once, each in two transactions. -/

namespace SecScanMonitor.Persistence.PostgresSideEffectLedger

open Foundations Program

section Ledger

/-- A transaction: the insert that does nothing on a conflict, or the read of a row. -/
inductive LedgerOp where
  | insert (key : String) (effect : Value)
  | get (key : String)

def LedgerAnswer (ε : Type) : LedgerOp → Type
  | .insert _ _ => Except ε Unit
  | .get _ => Except ε (Option Value)

abbrev Ledger (ε : Type) := Program LedgerOp (LedgerAnswer ε)

inductive LedgerFailure (ε : Type) where
  | runtimeError (message : String)
  | raised (e : ε)

variable {ε : Type}

def record (key : String) (effect : Value) : Ledger ε (Except (LedgerFailure ε) Value) := do
  match ← Program.request (LedgerOp.insert key effect) with
  | .error (e : ε) => return .error (.raised e)
  | .ok () =>
    -- whatever row won is read back, ours or a prior one
    match ← Program.request (LedgerOp.get key) with
    | .error (e : ε) => return .error (.raised e)
    | .ok none => return .error (.runtimeError ("side-effect ledger lost record for key " ++ key))
    | .ok (some row) => return .ok row

end Ledger

section Ghost

/-- What a call has seen so far. -/
structure Entry where
  key : String
  effect : Value
  inserted : Bool
  row : Option Value
  lost : Bool

def Entry.init (key : String) (effect : Value) : Entry := ⟨key, effect, false, none, false⟩

variable {ε : Type} {g : Entry}

def enter : (q : LedgerOp) → LedgerAnswer ε q → Entry → Entry
  | .insert _ _, .ok _, g => { g with inserted := true }
  | .get _, .ok (some row), g => { g with row := some row }
  | .get _, .ok none, g => { g with lost := true }
  | _, _, g => g

def MayAsk (g : Entry) : LedgerOp → Prop
  | .insert key effect => g.key = key ∧ g.effect = effect
  | .get key => g.key = key ∧ g.inserted = true

/-- How a call ends: with a row that it has read, or without it. -/
structure Recorded (g : Entry) (r : Except (LedgerFailure ε) Value) : Prop where
  row : ∀ v, r = .ok v → g.row = some v
  lost : ∀ message, r = .error (.runtimeError message) → g.lost = true

lemma recorded_raised {e : ε} : Recorded g (.error (.raised e)) := by
  refine ⟨fun v h => ?_, fun message h => ?_⟩
  all_goals cases h

lemma record_meets (key : String) (effect : Value) :
    (record key effect : Ledger ε _).Meets enter MayAsk Recorded (Entry.init key effect) := by
  refine meets_request_bind.mpr ⟨⟨rfl, rfl⟩, fun answer => ?_⟩
  rcases answer with e | u
  · exact recorded_raised
  refine meets_request_bind.mpr ⟨⟨rfl, rfl⟩, fun answer => ?_⟩
  rcases answer with e | (_ | row)
  · exact recorded_raised
  · refine ⟨fun v h => ?_, fun _ _ => rfl⟩
    cases h
  · refine ⟨fun v h => congrArg some (Except.ok.inj h), fun message h => ?_⟩
    cases h

end Ghost

section Interleavings

/-- `on_conflict_do_nothing` -/
def insertNew (rows : Dict String Value) (key : String) (effect : Value) : Dict String Value :=
  if (rows.find? key).isSome then rows else rows.set key effect

/-- The database. An insert that fails may have been committed, and other workers insert too. -/
def database (ε : Type) : Environment LedgerOp (LedgerAnswer ε) (Dict String Value) where
  answers s
    | .insert key effect, answer, t =>
      match (answer : Except ε Unit) with
      | .ok () => t = insertNew s key effect
      | .error _ => t = s ∨ t = insertNew s key effect
    | .get key, answer, t =>
      match (answer : Except ε (Option Value)) with
      | .ok row => row = s.find? key ∧ t = s
      | .error _ => t = s
  changes s t := ∃ key effect, t = insertNew s key effect
  crashes s t := t = s

variable {ε : Type} {s t : Dict String Value} {g : Entry} {gs : List Entry}

lemma insertNew_self (key : String) (effect : Value) : ∃ v, (insertNew s key effect).find? key = some v := by
  unfold insertNew
  split
  · rename_i h
    exact Option.isSome_iff_exists.mp h
  · exact ⟨effect, Dict.find?_set_self s key effect⟩

/-- A row is never written again. -/
lemma insertNew_keeps {key k : String} {effect v : Value} (h : s.find? k = some v) :
    (insertNew s key effect).find? k = some v := by
  unfold insertNew
  split
  · exact h
  · rename_i hnone
    rw [Dict.find?_set]
    split
    · rename_i heq
      rw [← heq, h] at hnone
      exact absurd rfl hnone
    · exact h

structure Accounts (s : Dict String Value) (gs : List Entry) : Prop where
  inserted : ∀ g ∈ gs, g.inserted = true → ∃ v, s.find? g.key = some v
  row : ∀ g ∈ gs, ∀ v, g.row = some v → s.find? g.key = some v
  lost : ∀ g ∈ gs, g.lost = false

lemma Accounts.insert (h : Accounts s gs) (key : String) (effect : Value) : Accounts (insertNew s key effect) gs where
  inserted x hx hin := (h.inserted x hx hin).imp fun _ hv => insertNew_keeps hv
  row x hx v hv := insertNew_keeps (h.row x hx v hv)
  lost := h.lost

/-- A call of the ledger. -/
def Records (g : Entry) (program : Ledger ε (Except (LedgerFailure ε) Value)) : Prop :=
  ∃ key effect, g = Entry.init key effect ∧ program = record key effect

lemma Accounts.ask {q : LedgerOp} {answer : LedgerAnswer ε q} (h : Accounts s (g :: gs)) (hmay : MayAsk g q)
    (hanswer : (database ε).answers s q answer t) : Accounts t (enter q answer g :: gs) := by
  cases q with
  | insert key effect =>
    obtain ⟨rfl, rfl⟩ := hmay
    rcases answer with e | u
    · rcases hanswer with rfl | rfl
      · exact h
      · exact h.insert g.key g.effect
    · obtain rfl := hanswer
      have hstill := h.insert g.key g.effect
      refine ⟨fun x hx => ?_, fun x hx => ?_, fun x hx => ?_⟩
      all_goals rcases List.mem_cons.mp hx with rfl | hx
      · exact fun _ => insertNew_self g.key g.effect
      · exact hstill.inserted x (List.mem_cons_of_mem g hx)
      · exact hstill.row g List.mem_cons_self
      · exact hstill.row x (List.mem_cons_of_mem g hx)
      · exact hstill.lost g List.mem_cons_self
      · exact hstill.lost x (List.mem_cons_of_mem g hx)
  | get key =>
    obtain ⟨rfl, hin⟩ := hmay
    rcases answer with e | row
    · obtain rfl := hanswer
      exact h
    obtain ⟨rfl, rfl⟩ := hanswer
    obtain ⟨v, hv⟩ := h.inserted g List.mem_cons_self hin
    rw [hv]
    refine ⟨fun x hx => ?_, fun x hx => ?_, fun x hx => ?_⟩
    all_goals rcases List.mem_cons.mp hx with rfl | hx
    · exact fun _ => ⟨v, hv⟩
    · exact h.inserted x (List.mem_cons_of_mem g hx)
    · intro w hw
      obtain rfl := Option.some.inj hw
      exact hv
    · exact h.row x (List.mem_cons_of_mem g hx)
    · exact h.lost g List.mem_cons_self
    · exact h.lost x (List.mem_cons_of_mem g hx)

lemma accounts_accounted : Accounted (database ε) enter Records MayAsk Recorded Accounts where
  perm h hperm :=
    ⟨fun x hx => h.inserted x (hperm.symm.subset hx), fun x hx => h.row x (hperm.symm.subset hx),
      fun x hx => h.lost x (hperm.symm.subset hx)⟩
  start h := by
    rintro ⟨key, effect, rfl, -⟩
    refine ⟨fun x hx => ?_, fun x hx => ?_, fun x hx => ?_⟩
    all_goals rcases List.mem_cons.mp hx with rfl | hx
    · exact fun hin => by cases hin
    · exact h.inserted x hx
    · exact fun v hv => by cases hv
    · exact h.row x hx
    · rfl
    · exact h.lost x hx
  ask h hmay hanswer := h.ask hmay hanswer
  change h := by
    rintro ⟨key, effect, rfl⟩
    exact h.insert key effect
  crash {s gs ended t} h _ hcrash := by
    obtain rfl := hcrash
    exact ⟨fun x hx => h.inserted x (List.mem_append_right gs hx),
      fun x hx => h.row x (List.mem_append_right gs hx), fun x hx => h.lost x (List.mem_append_right gs hx)⟩

abbrev LedgerPool (ε : Type) :=
  Pool LedgerOp (LedgerAnswer ε) (Except (LedgerFailure ε) Value) Entry (Dict String Value)

abbrev LedgerStep (ε : Type) := PoolStep (database ε) enter (Records (ε := ε))

lemma ledger_sane {p : LedgerPool ε} (hp : Reachable (Idle fun _ => True) (LedgerStep ε) p) :
    Sane enter MayAsk Recorded Accounts p := by
  refine (sane_inductive ?_ accounts_accounted ?_).reachable hp
  · rintro g program ⟨key, effect, rfl, rfl⟩
    exact record_meets key effect
  · intro s _
    refine ⟨fun x hx => ?_, fun x hx => ?_, fun x hx => ?_⟩
    all_goals cases hx

/-- A database on which everything succeeds. -/
def sampleDatabase (s : Dict String Value) : (q : LedgerOp) → LedgerAnswer Unit q × Dict String Value
  | .insert key effect => (Except.ok (), insertNew s key effect)
  | .get key => (Except.ok (s.find? key), s)

def opened : Value := .obj [("status", .str "open")]

def closed : Value := .obj [("status", .str "closed")]

/-- Another worker has recorded its effect already. -/
def sampleRows : Dict String Value := Dict.put Table.empty "close:ENG-PUBLIC" opened

def sampleRuntime : Workflows.EngagementRuntime where
  engagements := Table.empty
  grants := Table.empty
  approvals := Table.empty
  claims := Table.empty
  findings := Table.empty
  adjudications := Table.empty
  reports := Table.empty
  effects := sampleRows

def sampleRecord : Ledger Unit (Except (LedgerFailure Unit) Value) := record "close:ENG-PUBLIC" closed

def sampleAfter (n : ℕ) : Dict String Value × Entry × Ledger Unit (Except (LedgerFailure Unit) Value) :=
  sampleRecord.advance enter sampleDatabase n sampleRows (Entry.init "close:ENG-PUBLIC" closed)

def samplePool : LedgerPool Unit := ⟨(sampleAfter 2).1, [], [((sampleAfter 2).2.1, .ok opened)]⟩

lemma samplePool_run : Run (LedgerStep Unit) ⟨sampleRows, [], []⟩ samplePool := by
  have hanswered : sampleRecord.Answered (database Unit) sampleDatabase 2 sampleRows := ⟨rfl, ⟨rfl, rfl⟩, trivial⟩
  have hplayed := (run_advance hanswered : Run (LedgerStep Unit)
    ⟨sampleRows, [(Entry.init "close:ENG-PUBLIC" closed, _)], []⟩ ⟨(sampleAfter 2).1, [(sampleAfter 2).2], []⟩)
  have hstart : LedgerStep Unit ⟨sampleRows, [], []⟩
      ⟨sampleRows, [(Entry.init "close:ENG-PUBLIC" closed, sampleRecord)], []⟩ :=
    .start ⟨"close:ENG-PUBLIC", closed, rfl, rfl⟩
  have hstop : LedgerStep Unit ⟨(sampleAfter 2).1, [(sampleAfter 2).2], []⟩ samplePool :=
    @PoolStep.stop _ _ _ _ _ _ _ _ _ [] [] _ _ rfl
  exact (hplayed.head hstart).tail hstop

lemma samplePool_reachable : Reachable (Idle fun _ => True) (LedgerStep Unit) samplePool :=
  ⟨_, ⟨trivial, rfl, rfl⟩, samplePool_run⟩

/-- A call that has returned has returned what the ledger in memory answers, and no row is ever lost. -/
theorem record_linearizes {p : LedgerPool ε} (hp : Reachable (Idle fun _ => True) (LedgerStep ε) p)
    {rt : Workflows.EngagementRuntime} (hrt : rt.effects = p.state) :
    ∀ r ∈ p.ended, (∀ v, r.2 = .ok v → Workflows.record r.1.key r.1.effect rt = (v, rt)) ∧
      ∀ message, r.2 ≠ .error (.runtimeError message) := by
  have hsane := ledger_sane hp
  intro r hr
  have hmem : r.1 ∈ p.ghosts := List.mem_append_right _ (List.mem_map_of_mem hr)
  refine ⟨fun v hv => ?_, fun message hlost => ?_⟩
  · have hrow := hsane.account.row r.1 hmem v ((hsane.ended r hr).row v hv)
    rw [Workflows.record, hrt, hrow]
  · have htrue := (hsane.ended r hr).lost message hlost
    exact absurd ((hsane.account.lost r.1 hmem).symm.trans htrue) Bool.false_ne_true

theorem close_linearizes : Workflows.record "close:ENG-PUBLIC" closed sampleRuntime = (opened, sampleRuntime) :=
  (@record_linearizes Unit samplePool samplePool_reachable sampleRuntime rfl _ List.mem_cons_self).1 opened rfl

lemma record_effects (key : String) (effect : Value) (rt : Workflows.EngagementRuntime) :
    (Workflows.record key effect rt).2.effects = insertNew rt.effects key effect := by
  rw [Workflows.record, insertNew]
  cases rt.effects.find? key <;> rfl

/-- What a step does to the rows. -/
lemma step_rows {p p' : LedgerPool ε} (hstep : LedgerStep ε p p') :
    p'.state = p.state ∨ ∃ key effect, p'.state = insertNew p.state key effect := by
  cases hstep with
  | start _ => exact Or.inl rfl
  | @ask before after g q next answer s hsplit hanswer =>
    cases q with
    | insert key effect =>
      rcases answer with e | u
      · exact hanswer.imp id fun h => ⟨key, effect, h⟩
      · exact Or.inr ⟨key, effect, hanswer⟩
    | get key =>
      rcases answer with e | row
      · exact Or.inl hanswer
      · exact Or.inl hanswer.2
  | stop _ => exact Or.inl rfl
  | change h => exact Or.inr h
  | crash h => exact Or.inl h

/-- Every run of the workers is a sequence of records of the ledger in memory. -/
theorem ledger_refines {p p' : LedgerPool ε} (hrun : Run (LedgerStep ε) p p') {rt : Workflows.EngagementRuntime}
    (hrt : rt.effects = p.state) : ∃ records : List (String × Value),
      (records.foldl (fun rt e => (Workflows.record e.1 e.2 rt).2) rt).effects = p'.state := by
  induction hrun with
  | refl => exact ⟨[], hrt⟩
  | tail _ hstep ih =>
    obtain ⟨records, hrecords⟩ := ih
    rcases step_rows hstep with hsame | ⟨key, effect, hinsert⟩
    · exact ⟨records, hrecords.trans hsame.symm⟩
    · refine ⟨records ++ [(key, effect)], ?_⟩
      rw [List.foldl_append, hinsert, ← hrecords]
      exact record_effects key effect _

theorem close_refines : ∃ records : List (String × Value),
    (records.foldl (fun rt e => (Workflows.record e.1 e.2 rt).2) sampleRuntime).effects = samplePool.state :=
  ledger_refines samplePool_run rfl

end Interleavings

end SecScanMonitor.Persistence.PostgresSideEffectLedger
