import SecScanMonitor.Sandbox.Docker

/-! Any number of sandbox calls over one Docker daemon, in any interleaving: what is asked of the daemon, what becomes
of the containers, and what the results say. -/

namespace SecScanMonitor.Sandbox

open Foundations Domain Capabilities Program

variable {F ε : Type}

section Ghost

/-- What a call has seen so far. -/
structure Seen where
  call : SandboxCall
  available : Bool
  container : Option Container
  clock : List ℚ
  status : Option (Option ℤ)
  killed : Bool
  removed : Option Bool

def Seen.init (call : SandboxCall) : Seen := ⟨call, false, none, [], none, false, none⟩

def seen : (q : DockerOp) → DockerAnswer ε q → Seen → Seen
  | .ping, answer, g => { g with available := (answer : Except ε Bool).toOption.getD false }
  | .run _, answer, g => { g with container := (answer : Except ε Container).toOption }
  | .wait _ _, answer, g => { g with status := (answer : Except ε (Option ℤ)).toOption }
  | .logs _ _ _, _, g => g
  | .kill _, _, g => { g with killed := true }
  | .remove _ _, answer, g => { g with removed := some (answer : Except ε Unit).isOk }
  | .monotonic, now, g => { g with clock := now :: g.clock }

/-- The time that the call gives to its container. -/
def SandboxCall.timeout (call : SandboxCall) : ℤ :=
  (call.timeoutSeconds.filter fun t => decide (t ≠ 0)).getD call.capability.timeoutSeconds

/-- The container that is asked for is the one that the capability allows: offline and read-only, for an allowed
command, over read-only mounts of the call alone, and within the limits of the capability. -/
structure Contained (numbers : Numbers F ε) (backend : DockerSandboxBackend F) (call : SandboxCall) (args : RunArgs) :
    Prop where
  image : args.image = backend.image
  command : args.command = call.command
  allowed : ∃ c ∈ call.command.head?, baseName c ∈ call.capability.commandAllowlist
  policy : call.capability.networkPolicy = .none
  offline : args.networkDisabled = true
  readOnly : args.readOnly = true
  volumes : ∀ v ∈ args.volumes, v.2.mode = "ro" ∧ ⟨v.1, v.2.bind, true⟩ ∈ call.mounts
  secrets : backend.profile.hostSecrets = false → args.environment.find? "SECSCAN_NO_HOST_SECRETS" = some "1"
  memory : ∀ s ∈ call.capability.resourceLimits.find? "memory", args.memLimit = s
  pids : ∀ s ∈ call.capability.resourceLimits.find? "pids", numbers.int s = some args.pidsLimit
  cpu : ∀ s ∈ call.capability.resourceLimits.find? "cpu",
    ∃ x, numbers.float (stripUnit s) = some x ∧ numbers.nano x = .ok args.nanoCpus

variable (numbers : Numbers F ε) (backend : DockerSandboxBackend F)

/-- What a call may ask: for one container, once the daemon is there, and then only about its own container, which it
kills only when its time has run out. -/
def May (g : Seen) : DockerOp → Prop
  | .ping => g.container = none
  | .run args => g.available = true ∧ g.container = none ∧ g.removed = none ∧ Contained numbers backend g.call args
  | .wait c timeout => g.container = some c ∧ timeout = g.call.timeout
  | .logs c _ _ => g.container = some c ∧ g.removed = none
  | .kill c => g.container = some c ∧ g.removed = none ∧
      ∃ now started, g.clock = [now, started] ∧ (g.call.timeout : ℚ) ≤ now - started
  | .remove c force => g.container = some c ∧ g.removed = none ∧ force = true
  | .monotonic => True

/-- Is the call refused by the service or by the profile? -/
def refuses : Except (SandboxFailure ε) SandboxExecutionResult → Bool
  | .error (.refusal _) => true
  | .error (.profileViolation _) => true
  | _ => false

/-- How a call ends. -/
structure Outcome (g : Seen) (r : Except (SandboxFailure ε) SandboxExecutionResult) : Prop where
  removed : ∀ c ∈ g.container, g.removed ≠ none
  result : ∀ out, r = .ok out → ∃ c, g.container = some c ∧ out.sandboxId = c.shortId ∧ out.backendName = "docker" ∧
    out.profileName = backend.profile.name ∧ out.timedOut = g.killed ∧
    (out.timedOut = true → out.exitCode = 124) ∧
    (out.timedOut = false → ∃ status, g.status = some status ∧ out.exitCode = status.getD (-1))
  refused : refuses r = true → g.container = none
  unavailable : g.available = false → ∃ e, r = .error e

end Ghost

section Admission

variable {numbers : Numbers F ε} {backend : DockerSandboxBackend F}

lemma dictFrom_mem {ν : Type} {entries : List (String × ν)} {e : String × ν} (h : e ∈ dictFrom entries) :
    e ∈ entries := by
  have hfold : ∀ (entries : List (String × ν)) (d : Dict String ν),
      e ∈ entries.foldl (fun d e => d.put e.1 e.2) d → e ∈ d ∨ e ∈ entries := by
    intro entries
    induction entries with
    | nil => exact fun d h => Or.inl h
    | cons x entries ih =>
      intro d h
      rcases ih _ h with h | h
      · rw [← Dict.find?_eq_some_iff, Dict.find?_put] at h
        split at h
        · rename_i hkey
          have hentry : e = x := Prod.ext hkey (Option.some.inj h).symm
          exact Or.inr (hentry ▸ List.mem_cons_self)
        · exact Or.inl (Dict.find?_eq_some_iff.mp h)
      · exact Or.inr (List.mem_cons_of_mem x h)
  rcases hfold entries Table.empty h with h | h
  · cases h
  · exact h

lemma limit_eq_ok {α : Type} {parse : String → Option α} {s : Option String} {v : Option α}
    (h : (limit parse s : Except (SandboxFailure ε) _) = .ok v) : ∀ t ∈ s, ∃ x, parse t = some x ∧ v = some x := by
  intro t ht
  obtain rfl := Option.mem_def.mp ht
  rw [limit] at h
  cases hx : parse t with
  | none =>
    rw [hx] at h
    cases h
  | some x =>
    rw [hx] at h
    exact ⟨x, rfl, (Except.ok.inj h).symm⟩

lemma profileOverrides_eq_ok {capability : SandboxCapability} {o : ProfileOverrides F}
    (h : (profileOverrides numbers capability : Except (SandboxFailure ε) _) = .ok o) :
    o.name = none ∧ o.network = some "none" ∧ o.hostSecrets = none ∧
      o.commandAllowlist = some capability.commandAllowlist ∧
      o.memoryLimit = capability.resourceLimits.find? "memory" ∧
      (∀ s ∈ capability.resourceLimits.find? "cpu", ∃ x, numbers.float (stripUnit s) = some x ∧ o.cpuLimit = some x) ∧
      ∀ s ∈ capability.resourceLimits.find? "pids", ∃ x, numbers.int s = some x ∧ o.pidsLimit = some x := by
  unfold profileOverrides at h
  cases hcpu : (limit (fun s => numbers.float (stripUnit s)) (capability.resourceLimits.find? "cpu") :
      Except (SandboxFailure ε) _) with
  | error e =>
    rw [hcpu] at h
    cases h
  | ok cpuLimit =>
    cases hpids : (limit numbers.int (capability.resourceLimits.find? "pids") : Except (SandboxFailure ε) _) with
    | error e =>
      rw [hcpu, hpids] at h
      cases h
    | ok pidsLimit =>
      rw [hcpu, hpids] at h
      obtain rfl := Except.ok.inj h
      exact ⟨rfl, rfl, rfl, rfl, rfl, limit_eq_ok hcpu, limit_eq_ok hpids⟩

/-- What the service hands to the backend. -/
lemma accept_eq_ok {call : SandboxCall} {b : BackendCall F} (h : call.accept numbers = .ok b) :
    ∃ overrides, profileOverrides numbers call.capability = .ok overrides ∧
      call.capability.networkPolicy = .none ∧ (∀ m ∈ call.mounts, m.readOnly = true) ∧
      b = ⟨call.command, some overrides, some call.timeout, call.mounts, call.environment, call.workingDir⟩ := by
  unfold SandboxCall.accept at h
  dsimp only at h
  split at h
  · cases h
  split at h
  · cases h
  rename_i hmounts
  split at h
  · cases h
  rename_i hpolicy
  cases hoverrides : profileOverrides numbers call.capability with
  | error e =>
    rw [hoverrides] at h
    cases h
  | ok overrides =>
    rw [hoverrides] at h
    obtain rfl := Except.ok.inj h
    refine ⟨overrides, rfl, not_not.mp hpolicy, fun m hm => ?_, rfl⟩
    have hnone := Option.eq_none_iff_forall_ne_some.mpr hmounts
    have hread := List.find?_eq_none.mp hnone m hm
    simpa using hread

/-- The backend keeps the name of its profile and takes the time of the call. -/
lemma accept_resolved {call : SandboxCall} {b : BackendCall F} (h : call.accept numbers = .ok b)
    (base : SandboxProfile F) :
    (resolveProfile base b.profile).name = base.name ∧ ∀ t, b.timeoutSeconds.getD t = call.timeout := by
  obtain ⟨o, ho, -, -, rfl⟩ := accept_eq_ok h
  obtain ⟨hname, -⟩ := profileOverrides_eq_ok ho
  refine ⟨?_, fun t => rfl⟩
  simp only [resolveProfile, hname, Option.getD_none]

lemma contained_runArgs {call : SandboxCall} {b : BackendCall F} {nano : ℤ} (h : call.accept numbers = .ok b)
    (hallowed : (resolveProfile backend.profile b.profile).allowsCommand b.command = true)
    (hnano : numbers.nano (resolveProfile backend.profile b.profile).cpuLimit = .ok nano) :
    Contained numbers backend call (runArgs backend.image (resolveProfile backend.profile b.profile) b nano) := by
  obtain ⟨o, ho, hpolicy, hmounts, rfl⟩ := accept_eq_ok h
  obtain ⟨-, hnetwork, hhost, hlist, hmemory, hcpu, hpids⟩ := profileOverrides_eq_ok ho
  refine ⟨rfl, rfl, ?_, hpolicy, ?_, rfl, fun v hv => ?_, fun hsecrets => ?_, fun s hs => ?_, fun s hs => ?_,
    fun s hs => ?_⟩
  · cases hcommand : call.command with
    | nil =>
      rw [hcommand] at hallowed
      cases hallowed
    | cons c rest =>
      rw [hcommand] at hallowed
      have hmem := of_decide_eq_true hallowed
      simp only [resolveProfile, hlist, Option.getD_some] at hmem
      exact ⟨c, rfl, hmem⟩
  · simp only [runArgs, resolveProfile, hnetwork, Option.getD_some, decide_true]
  · obtain ⟨m, hm, rfl⟩ := List.mem_map.mp (dictFrom_mem hv)
    have hro := hmounts m hm
    obtain ⟨host, target, readOnly⟩ := m
    obtain rfl : readOnly = true := hro
    exact ⟨rfl, hm⟩
  · simp only [runArgs, containerEnvironment, resolveProfile, hhost, Option.getD_none, hsecrets, Bool.false_eq_true,
      if_false, Dict.find?_put, if_true]
  · rw [Option.mem_def] at hs
    simp only [runArgs, resolveProfile, hmemory, hs, Option.getD_some]
  · obtain ⟨x, hx, hlimit⟩ := hpids s hs
    simp only [runArgs, resolveProfile, hlimit, Option.getD_some]
    exact hx
  · obtain ⟨x, hx, hlimit⟩ := hcpu s hs
    simp only [resolveProfile, hlimit, Option.getD_some] at hnano
    exact ⟨x, hx, hnano⟩

end Admission

section Runs

variable {numbers : Numbers F ε} {backend : DockerSandboxBackend F} {text : ε → String} {g : Seen} {c : Container}

lemma isAvailable_meets (hc : g.container = none) : (isAvailable : Docker ε Bool).Meets seen (May numbers backend)
    (fun g' b => g' = { g with available := b }) g := by
  refine meets_request_bind.mpr ⟨hc, fun answer => ?_⟩
  cases answer with
  | ok b => exact rfl
  | error e => exact rfl

lemma collect_meets (hc : g.container = some c) (hr : g.removed = none) :
    (collect c : Docker ε (Except ε (Str × Str))).Meets seen (May numbers backend) (fun g' _ => g' = g) g := by
  refine meets_request_bind.mpr ⟨⟨hc, hr⟩, fun answer => ?_⟩
  cases answer with
  | error e => exact rfl
  | ok stdout =>
    refine meets_request_bind.mpr ⟨⟨hc, hr⟩, fun answer => ?_⟩
    cases answer with
    | error e => exact rfl
    | ok stderr => exact rfl

lemma observe_meets {timeout : ℤ} {name : String} (hc : g.container = some c) (hr : g.removed = none)
    (ht : timeout = g.call.timeout) :
    (observe c timeout name : Docker ε (Except ε SandboxExecutionResult)).Meets seen (May numbers backend)
      (fun g' r => ∃ status, g' = { g with status } ∧
        ∀ out, r = .ok out → ∃ s logs, status = some s ∧ out = resultOf c (s.getD (-1)) logs false name) g := by
  refine meets_request_bind.mpr ⟨⟨hc, ht⟩, fun answer => ?_⟩
  cases answer with
  | error e =>
    refine ⟨_, rfl, fun out hout => ?_⟩
    cases hout
  | ok status =>
    refine (collect_meets (g := { g with status := some status }) hc hr).seq fun g' logs hg => ?_
    subst hg
    cases logs with
    | error e =>
      refine ⟨_, rfl, fun out hout => ?_⟩
      cases hout
    | ok logs =>
      refine ⟨_, rfl, fun out hout => ?_⟩
      obtain rfl := Except.ok.inj hout
      exact ⟨status, logs, rfl, rfl⟩

lemma handle_meets {timeout : ℤ} {name : String} {started : ℚ} {e : ε} (hc : g.container = some c)
    (hr : g.removed = none) (ht : timeout = g.call.timeout) (hclock : g.clock = [started]) :
    (handle text c timeout name started e).Meets seen (May numbers backend)
      (fun g' r => g'.call = g.call ∧ g'.available = g.available ∧ g'.container = some c ∧ g'.removed = none ∧
        (∀ out, r = .ok out → g'.killed = true ∧ ∃ logs, out = resultOf c 124 logs true name) ∧
        refuses r = false) g := by
  refine meets_request_bind.mpr ⟨trivial, fun now => ?_⟩
  split
  · rename_i hlate
    refine meets_request_bind.mpr ⟨⟨hc, hr, now, started, congrArg (now :: ·) hclock, ht ▸ hlate⟩, fun answer => ?_⟩
    refine (collect_meets (g := { g with clock := now :: g.clock, killed := true }) hc hr).seq fun g' logs hg => ?_
    subst hg
    cases logs with
    | error e =>
      refine ⟨rfl, rfl, hc, hr, fun out hout => ?_, rfl⟩
      cases hout
    | ok logs =>
      refine ⟨rfl, rfl, hc, hr, fun out hout => ?_, rfl⟩
      obtain rfl := Except.ok.inj hout
      exact ⟨rfl, logs, rfl⟩
  · refine ⟨rfl, rfl, hc, hr, fun out hout => ?_, rfl⟩
    cases hout

lemma perform_meets {args : RunArgs} {timeout : ℤ} (havailable : g.available = true) (hc : g.container = none)
    (hr : g.removed = none) (hclock : g.clock = []) (hkilled : g.killed = false) (ht : timeout = g.call.timeout)
    (hargs : Contained numbers backend g.call args) :
    (perform text args timeout backend.profile.name).Meets seen (May numbers backend) (Outcome backend) g := by
  refine meets_request_bind.mpr ⟨trivial, fun started => ?_⟩
  refine meets_request_bind.mpr ⟨⟨havailable, hc, hr, hargs⟩, fun answer => ?_⟩
  cases answer with
  | error e =>
    refine ⟨fun c hc => ?_, fun out hout => ?_, fun _ => rfl, fun _ => ⟨_, rfl⟩⟩
    · cases hc
    · cases hout
  | ok c =>
    let g' : Seen := { g with clock := started :: g.clock, container := some c }
    refine (observe_meets (g := g') rfl hr ht).seq fun g'' observed hobserved => ?_
    obtain ⟨status, rfl, hstatus⟩ := hobserved
    cases observed with
    | ok out =>
      obtain ⟨s, logs, rfl, rfl⟩ := hstatus out rfl
      refine ⟨⟨rfl, hr, rfl⟩, fun answer => ⟨fun c hc => ?_, fun out hout => ?_, ?_, ?_⟩⟩
      · exact Option.some_ne_none _
      · obtain rfl := Except.ok.inj hout
        refine ⟨c, rfl, rfl, rfl, rfl, hkilled.symm, fun h => ?_, fun _ => ⟨s, rfl, rfl⟩⟩
        cases h
      · intro h
        cases h
      · intro h
        exact absurd (havailable.symm.trans h) (by decide)
    | error e =>
      refine (handle_meets (g := { g' with status }) rfl hr ht (congrArg (started :: ·) hclock)).seq ?_
      rintro g'' result ⟨hcall, hstill, hc, hr, hresult, hrefuses⟩
      refine ⟨⟨hc, hr, rfl⟩, fun answer => ⟨fun c hc => ?_, fun out hout => ?_, ?_, ?_⟩⟩
      · exact Option.some_ne_none _
      · obtain ⟨hkilled, logs, rfl⟩ := hresult out hout
        refine ⟨c, hc, rfl, rfl, rfl, hkilled.symm, fun _ => rfl, fun h => ?_⟩
        cases h
      · intro h
        exact absurd (hrefuses.symm.trans h) (by decide)
      · intro h
        exact absurd ((hstill.trans havailable).symm.trans h) (by decide)

/-- A call that ends before a container has been started. -/
lemma outcome_error {e : SandboxFailure ε} (hc : g.container = none) :
    Outcome backend g (.error e : Except (SandboxFailure ε) SandboxExecutionResult) := by
  refine ⟨fun c h => ?_, fun out hout => ?_, fun _ => hc, fun _ => ⟨e, rfl⟩⟩
  · rw [hc] at h
    cases h
  · cases hout

lemma run_meets {call : SandboxCall} {b : BackendCall F} (haccept : call.accept numbers = .ok b) {available : Bool} :
    (backend.run numbers text b).Meets seen (May numbers backend) (Outcome backend)
      { Seen.init call with available } := by
  obtain ⟨hname, htimeout⟩ := accept_resolved haccept backend.profile
  unfold DockerSandboxBackend.run
  dsimp only
  split
  · exact outcome_error rfl
  rename_i hallowed
  split
  · exact outcome_error rfl
  split
  · exact outcome_error rfl
  refine (isAvailable_meets (g := { Seen.init call with available }) rfl).seq fun g' ready hg => ?_
  subst hg
  cases ready with
  | false => exact outcome_error rfl
  | true =>
    simp only [if_true]
    split
    · exact outcome_error rfl
    · rename_i nano hnano
      have hargs := @contained_runArgs _ _ numbers backend _ _ _ haccept (Bool.not_eq_false _ ▸ hallowed) hnano
      rw [hname, htimeout]
      exact perform_meets rfl rfl rfl rfl rfl rfl hargs

/-- Whatever the daemon answers, a call asks only what it may ask and ends in an outcome. -/
lemma execute_meets (call : SandboxCall) :
    (execute numbers text backend call).Meets seen (May numbers backend) (Outcome backend) (Seen.init call) := by
  have hchecked : (refusesHost call.capability : Docker ε Bool).Meets seen (May numbers backend)
      (fun g _ => ∃ available, g = { Seen.init call with available }) (Seen.init call) := by
    unfold refusesHost
    split
    · refine (isAvailable_meets (g := Seen.init call) rfl).seq fun g' ready hg => ?_
      exact ⟨ready, hg⟩
    · exact ⟨false, rfl⟩
  refine hchecked.seq ?_
  rintro g refused ⟨available, rfl⟩
  cases refused with
  | true => exact outcome_error rfl
  | false =>
    cases haccept : call.accept numbers with
    | error e => exact outcome_error rfl
    | ok b => exact run_meets haccept

end Runs

section Interleavings

/-- The ids of the containers that there are, of all that there have been, and of those that `run` has returned to the
calls. -/
structure Daemon where
  containers : List String
  issued : List String
  returned : List String

/-- What other clients do: they add containers of their own, and remove any. -/
structure Elsewhere (s t : Daemon) : Prop where
  returned : t.returned = s.returned
  issued : s.issued ⊆ t.issued
  containers : ∀ id ∈ t.containers, id ∈ s.containers ∨ id ∉ s.issued

/-- How the daemon answers. A `run` that fails may leave a container behind, which it has not returned. -/
def daemonAnswers (s : Daemon) : (q : DockerOp) → DockerAnswer ε q → Daemon → Prop
  | .run _, answer, t =>
    match (answer : Except ε Container) with
    | .ok c => c.id ∉ s.issued ∧ t = ⟨c.id :: s.containers, c.id :: s.issued, c.id :: s.returned⟩
    | .error _ => Elsewhere s t
  | .remove c _, answer, t =>
    match (answer : Except ε Unit) with
    | .ok _ => t = { s with containers := s.containers.filter fun id => decide (id ≠ c.id) }
    | .error _ => t = s
  | _, _, t => t = s

def dockerDaemon (ε : Type) : Environment DockerOp (DockerAnswer ε) Daemon where
  answers := daemonAnswers
  changes := Elsewhere
  crashes _ _ := False

/-- Every container that `run` has returned and that is still there is one that its call has not removed. -/
structure Tracked (s : Daemon) (gs : List Seen) : Prop where
  issued : ∀ id ∈ s.returned, id ∈ s.issued
  owned : ∀ id ∈ s.returned, id ∈ s.containers →
    ∃ g ∈ gs, ∃ c, g.container = some c ∧ c.id = id ∧ g.removed ≠ some true

variable (numbers : Numbers F ε) (backend : DockerSandboxBackend F) (text : ε → String)

/-- A call of the service. -/
def Calls (g : Seen) (program : Docker ε (Except (SandboxFailure ε) SandboxExecutionResult)) : Prop :=
  ∃ call, g = Seen.init call ∧ program = execute numbers text backend call

variable {numbers backend text} {s t : Daemon} {g : Seen} {gs : List Seen}

lemma Tracked.elsewhere (h : Tracked s gs) (he : Elsewhere s t) : Tracked t gs := by
  refine ⟨fun id hid => ?_, fun id hid hc => ?_⟩
  · rw [he.returned] at hid
    exact he.issued (h.issued id hid)
  · rw [he.returned] at hid
    rcases he.containers id hc with hc | hfresh
    · exact h.owned id hid hc
    · exact absurd (h.issued id hid) hfresh

/-- A call that has no container, or that keeps the one it has without removing it. -/
lemma Tracked.keep (h : Tracked s (g :: gs)) {g' : Seen}
    (hkeep : ∀ c ∈ g.container, g.removed ≠ some true → g'.container = some c ∧ g'.removed ≠ some true) :
    Tracked s (g' :: gs) := by
  refine ⟨h.issued, fun id hid hc => ?_⟩
  obtain ⟨x, hx, c, hxc, hcid, hr⟩ := h.owned id hid hc
  rcases List.mem_cons.mp hx with rfl | hx
  · obtain ⟨hc', hr'⟩ := hkeep c hxc hr
    exact ⟨g', List.mem_cons_self, c, hc', hcid, hr'⟩
  · exact ⟨x, List.mem_cons_of_mem _ hx, c, hxc, hcid, hr⟩

lemma Tracked.perm {gs' : List Seen} (h : Tracked s gs) (hperm : gs.Perm gs') : Tracked s gs' := by
  refine ⟨h.issued, fun id hid hc => ?_⟩
  obtain ⟨x, hx, hrest⟩ := h.owned id hid hc
  exact ⟨x, hperm.subset hx, hrest⟩

lemma Tracked.start (h : Tracked s gs) : Tracked s (g :: gs) := by
  refine ⟨h.issued, fun id hid hc => ?_⟩
  obtain ⟨x, hx, hrest⟩ := h.owned id hid hc
  exact ⟨x, List.mem_cons_of_mem _ hx, hrest⟩

lemma Tracked.ask (h : Tracked s (g :: gs)) {q : DockerOp} {answer : DockerAnswer ε q}
    (hmay : May numbers backend g q) (hanswer : daemonAnswers s q answer t) :
    Tracked t (seen q answer g :: gs) := by
  cases q with
  | run args =>
    obtain ⟨-, hc, hr, -⟩ := hmay
    have hnone : ∀ c, c ∉ g.container := by
      intro c hcontainer
      rw [hc] at hcontainer
      cases hcontainer
    cases answer with
    | error e => exact (h.elsewhere hanswer).keep fun c hcontainer => absurd hcontainer (hnone c)
    | ok c =>
      obtain ⟨hfresh, rfl⟩ := hanswer
      refine ⟨fun id hid => ?_, fun id hid hmem => ?_⟩
      · rcases List.mem_cons.mp hid with rfl | hid
        · exact List.mem_cons_self
        · exact List.mem_cons_of_mem _ (h.issued id hid)
      · rcases List.mem_cons.mp hid with rfl | hid
        · refine ⟨_, List.mem_cons_self, c, rfl, rfl, ?_⟩
          simp only [seen, hr, ne_eq, reduceCtorEq, not_false_eq_true]
        · have hne : id ≠ c.id := fun heq => hfresh (heq ▸ h.issued id hid)
          obtain ⟨x, hx, hrest⟩ := h.owned id hid ((List.mem_cons.mp hmem).resolve_left hne)
          rcases List.mem_cons.mp hx with rfl | hx
          · obtain ⟨c', hc', -⟩ := hrest
            exact absurd hc' (hnone c')
          · exact ⟨x, List.mem_cons_of_mem _ hx, hrest⟩
  | remove c force =>
    obtain ⟨hc, hr, -⟩ := hmay
    cases answer with
    | error e =>
      obtain rfl := hanswer
      refine h.keep fun c' hc' _ => ⟨hc', ?_⟩
      exact fun h => by cases h
    | ok u =>
      obtain rfl := hanswer
      refine ⟨h.issued, fun id hid hmem => ?_⟩
      obtain ⟨hmem, hne⟩ := List.mem_filter.mp hmem
      obtain ⟨x, hx, c', hc', rfl, hr'⟩ := h.owned id hid hmem
      rcases List.mem_cons.mp hx with rfl | hx
      · obtain rfl := Option.some.inj (hc.symm.trans hc')
        exact absurd rfl (of_decide_eq_true hne)
      · exact ⟨x, List.mem_cons_of_mem _ hx, c', hc', rfl, hr'⟩
  | ping =>
    obtain rfl := hanswer
    exact h.keep fun c hc hr => ⟨hc, hr⟩
  | wait c timeout =>
    obtain rfl := hanswer
    exact h.keep fun c hc hr => ⟨hc, hr⟩
  | logs c stdout stderr =>
    obtain rfl := hanswer
    exact h.keep fun c hc hr => ⟨hc, hr⟩
  | kill c =>
    obtain rfl := hanswer
    exact h.keep fun c hc hr => ⟨hc, hr⟩
  | monotonic =>
    obtain rfl := hanswer
    exact h.keep fun c hc hr => ⟨hc, hr⟩

variable (numbers backend text) in
lemma tracked_accounted : Accounted (dockerDaemon ε) seen (Calls numbers backend text) (May numbers backend)
    (Outcome backend) Tracked where
  perm h hperm := h.perm hperm
  start h _ := h.start
  ask h hmay hanswer := h.ask hmay hanswer
  change h he := h.elsewhere he
  crash _ _ hnever := hnever.elim

/-- The state of the daemon before any call. -/
def Untouched (s : Daemon) : Prop := s.returned = []

/-- Any number of calls under way over one daemon. -/
abbrev SandboxPool (ε : Type) :=
  Pool DockerOp (DockerAnswer ε) (Except (SandboxFailure ε) SandboxExecutionResult) Seen Daemon

variable (numbers backend text) in
abbrev SandboxStep := PoolStep (dockerDaemon ε) seen (Calls numbers backend text)

lemma sandbox_sane {p : SandboxPool ε} (hp : Reachable (Idle Untouched) (SandboxStep numbers backend text) p) :
    Sane seen (May numbers backend) (Outcome backend) Tracked p := by
  refine (sane_inductive ?_ (tracked_accounted numbers backend text) ?_).reachable hp
  · rintro g program ⟨call, rfl, rfl⟩
    exact execute_meets call
  · intro s hs
    refine ⟨fun id hid => ?_, fun id hid _ => ?_⟩
    all_goals
      rw [hs] at hid
      cases hid

section Sample

def sampleNumbers : Numbers ℤ Unit where
  float s := if s = "2.0" then some 2 else none
  int s := if s = "256" then some 256 else none
  nano n := .ok (n * 1000000000)

def sampleBackend : DockerSandboxBackend ℤ := ⟨"secscan-scanner", SandboxProfile.default 1⟩

def sampleCall : SandboxCall where
  capability := {
    capabilityId := "CAP-SAST-SEMGREP"
    sandboxRequirement := .required
    networkPolicy := .none
    timeoutSeconds := 300
    resourceLimits := dictFrom [("cpu", "2.0"), ("pids", "256")]
    commandAllowlist := ["semgrep"] }
  command := ["/usr/bin/semgrep", "scan"]
  timeoutSeconds := none
  mounts := [⟨"/work/target", "/target", true⟩]
  environment := []
  workingDir := none

/-- A daemon that does what it is asked. -/
def sampleOracle (s : Daemon) : (q : DockerOp) → DockerAnswer Unit q × Daemon
  | .ping => (Except.ok true, s)
  | .run _ => (Except.ok ⟨"4f1c", "4f"⟩, ⟨"4f1c" :: s.containers, "4f1c" :: s.issued, "4f1c" :: s.returned⟩)
  | .wait _ _ => (Except.ok (some 0), s)
  | .logs _ _ _ => (Except.ok [], s)
  | .kill _ => (Except.ok (), s)
  | .remove c _ => (Except.ok (), { s with containers := s.containers.filter fun id => decide (id ≠ c.id) })
  | .monotonic => ((0 : ℚ), s)

def sampleProgram : Docker Unit (Except (SandboxFailure Unit) SandboxExecutionResult) :=
  execute sampleNumbers (fun _ => "") sampleBackend sampleCall

def sampleDaemon : Daemon := ⟨[], [], []⟩

/-- The sample call after its first requests. -/
def sampleAfter (n : ℕ) : Daemon × Seen × Docker Unit (Except (SandboxFailure Unit) SandboxExecutionResult) :=
  sampleProgram.advance seen sampleOracle n sampleDaemon (Seen.init sampleCall)

def samplePool (n : ℕ) : SandboxPool Unit := ⟨(sampleAfter n).1, [(sampleAfter n).2], []⟩

lemma samplePool_reachable {n : ℕ} (h : sampleProgram.Answered (dockerDaemon Unit) sampleOracle n sampleDaemon) :
    Reachable (Idle Untouched) (SandboxStep sampleNumbers sampleBackend fun _ => "") (samplePool n) := by
  refine ⟨⟨sampleDaemon, [], []⟩, ⟨rfl, rfl, rfl⟩, ?_⟩
  exact Relation.ReflTransGen.head (.start ⟨sampleCall, rfl, rfl⟩) (run_advance h)

end Sample

/-- Whatever the daemon answers and in whatever order the calls go on, no call asks anything that it may not ask. -/
theorem requests_contained {p : SandboxPool ε}
    (hp : Reachable (Idle Untouched) (SandboxStep numbers backend text) p) {g : Seen} {q : DockerOp}
    {next : DockerAnswer ε q → Docker ε (Except (SandboxFailure ε) SandboxExecutionResult)}
    (hg : (g, .ask q next) ∈ p.running) : May numbers backend g q :=
  ((sandbox_sane hp).running _ hg).1

theorem run_contained : ∃ args, May sampleNumbers sampleBackend (sampleAfter 3).2.1 (.run args) :=
  ⟨_, requests_contained (p := samplePool 3) (samplePool_reachable (n := 3) ⟨rfl, rfl, rfl, trivial⟩)
    List.mem_cons_self⟩

/-- A container that `run` has returned to a call is gone once the call has ended, unless its removal was refused. -/
theorem containers_removed {p : SandboxPool ε}
    (hp : Reachable (Idle Untouched) (SandboxStep numbers backend text) p) :
    ∀ id ∈ p.state.returned, id ∈ p.state.containers →
      (∃ r ∈ p.running, ∃ c, r.1.container = some c ∧ c.id = id) ∨
        ∃ r ∈ p.ended, ∃ c, r.1.container = some c ∧ c.id = id ∧ r.1.removed = some false := by
  intro id hid hthere
  have hsane := sandbox_sane hp
  obtain ⟨g, hg, c, hc, hcid, hr⟩ := hsane.account.owned id hid hthere
  rcases List.mem_append.mp hg with hg | hg
  · obtain ⟨r, hrunning, rfl⟩ := List.mem_map.mp hg
    exact Or.inl ⟨r, hrunning, c, hc, hcid⟩
  · obtain ⟨r, hended, rfl⟩ := List.mem_map.mp hg
    refine Or.inr ⟨r, hended, c, hc, hcid, ?_⟩
    have hasked := (hsane.ended r hended).removed c hc
    cases hremoved : r.1.removed with
    | none => exact absurd hremoved hasked
    | some b =>
      cases b with
      | true => exact absurd hremoved hr
      | false => rfl

theorem container_owned : (∃ r ∈ (samplePool 4).running, ∃ c, r.1.container = some c ∧ c.id = "4f1c") ∨
    ∃ r ∈ (samplePool 4).ended, ∃ c, r.1.container = some c ∧ c.id = "4f1c" ∧ r.1.removed = some false :=
  containers_removed (samplePool_reachable (n := 4) ⟨rfl, rfl, rfl, ⟨List.not_mem_nil, rfl⟩, trivial⟩) "4f1c"
    List.mem_cons_self List.mem_cons_self

/-- A call that has ended has an outcome. -/
theorem outcomes_classified {p : SandboxPool ε}
    (hp : Reachable (Idle Untouched) (SandboxStep numbers backend text) p) :
    ∀ r ∈ p.ended, Outcome backend r.1 r.2 :=
  (sandbox_sane hp).ended

theorem scan_classified : Outcome sampleBackend (sampleAfter 8).2.1
    (.ok ⟨"4f", 0, [], [], false, "default", "docker"⟩ : Except (SandboxFailure Unit) SandboxExecutionResult) := by
  have hanswered : sampleProgram.Answered (dockerDaemon Unit) sampleOracle 8 sampleDaemon :=
    ⟨rfl, rfl, rfl, ⟨List.not_mem_nil, rfl⟩, rfl, rfl, rfl, rfl, trivial⟩
  obtain ⟨p, hstart, hrun⟩ := samplePool_reachable hanswered
  have hstop : SandboxStep sampleNumbers sampleBackend (fun _ => "") (samplePool 8) _ :=
    .stop (show [(sampleAfter 8).2] = [] ++ ((sampleAfter 8).2.1, _) :: [] from rfl)
  exact outcomes_classified ⟨p, hstart, hrun.tail hstop⟩ _ List.mem_cons_self

end Interleavings

end SecScanMonitor.Sandbox
