import SecScanMonitor.Foundations.Runs
import Mathlib.Data.List.Basic

/-! Programs that make requests of an environment they share, and what holds however their requests interleave. -/

namespace SecScanMonitor.Foundations

/-- A program that makes requests and goes on with their answers. -/
inductive Program (Q : Type) (A : Q → Type) (α : Type) where
  | done (a : α)
  | ask (q : Q) (next : A q → Program Q A α)

namespace Program

variable {Q : Type} {A : Q → Type} {α β : Type}

def bind : Program Q A α → (α → Program Q A β) → Program Q A β
  | done a, f => f a
  | ask q next, f => ask q fun answer => (next answer).bind f

instance : Monad (Program Q A) where
  pure := done
  bind := bind

/-- The program that makes one request. -/
def request (q : Q) : Program Q A (A q) := ask q done

lemma pure_eq (a : α) : (pure a : Program Q A α) = done a := rfl

lemma done_bind (a : α) (f : α → Program Q A β) : (done a >>= f) = f a := rfl

lemma ask_bind (q : Q) (next : A q → Program Q A α) (f : α → Program Q A β) :
    (ask q next >>= f) = ask q fun answer => next answer >>= f := rfl

lemma request_bind (q : Q) (f : A q → Program Q A β) : (request q >>= f) = ask q f := rfl

section Meets

variable {γ : Type} (upd : (q : Q) → A q → γ → γ) (may : γ → Q → Prop)

/-- Whatever the answers are, the program makes only requests that it may make after what it has seen, and ends in
`post`. What it has seen is kept in the ghost state. -/
def Meets (post : γ → α → Prop) : Program Q A α → γ → Prop
  | done a, g => post g a
  | ask q next, g => may g q ∧ ∀ answer, (next answer).Meets post (upd q answer g)

variable {upd may} {post : γ → α → Prop} {g : γ}

@[simp] lemma meets_done {a : α} : (done a : Program Q A α).Meets upd may post g ↔ post g a := Iff.rfl

@[simp] lemma meets_ask {q : Q} {next : A q → Program Q A α} : (ask q next).Meets upd may post g ↔
    may g q ∧ ∀ answer, (next answer).Meets upd may post (upd q answer g) := Iff.rfl

lemma meets_bind {post : γ → β → Prop} {p : Program Q A α} {f : α → Program Q A β} {g : γ} :
    (p >>= f).Meets upd may post g ↔ p.Meets upd may (fun g a => (f a).Meets upd may post g) g := by
  induction p generalizing g with
  | done a => exact Iff.rfl
  | ask q next ih =>
    rw [ask_bind, meets_ask, meets_ask]
    exact and_congr_right fun _ => forall_congr' fun answer => ih answer

lemma meets_request_bind {post : γ → β → Prop} {q : Q} {f : A q → Program Q A β} :
    (request q >>= f).Meets upd may post g ↔ may g q ∧ ∀ answer, (f answer).Meets upd may post (upd q answer g) :=
  Iff.rfl

lemma Meets.mono {post' : γ → α → Prop} {p : Program Q A α} (h : p.Meets upd may post g)
    (himp : ∀ g a, post g a → post' g a) : p.Meets upd may post' g := by
  induction p generalizing g with
  | done a => exact himp g a h
  | ask q next ih => exact ⟨h.1, fun answer => ih answer (h.2 answer)⟩

/-- The rule of sequence: the rest of the program starts from what the first part leaves. -/
lemma Meets.seq {post : γ → β → Prop} {mid : γ → α → Prop} {p : Program Q A α} {f : α → Program Q A β}
    (h : p.Meets upd may mid g) (hf : ∀ g a, mid g a → (f a).Meets upd may post g) :
    (p >>= f).Meets upd may post g :=
  meets_bind.mpr (h.mono hf)

end Meets

end Program

open Program

/-- An environment: what it may answer, and what else may happen to it. -/
structure Environment (Q : Type) (A : Q → Type) (σ : Type) where
  answers : σ → (q : Q) → A q → σ → Prop
  changes : σ → σ → Prop
  /-- What it is after all programs under way have been lost together. -/
  crashes : σ → σ → Prop

section Pools

variable {Q : Type} {A : Q → Type} {α γ σ : Type}

/-- The state of the environment, the programs under way with what each has seen, and what has ended. -/
structure Pool (Q : Type) (A : Q → Type) (α γ σ : Type) where
  state : σ
  running : List (γ × Program Q A α)
  ended : List (γ × α)

variable (env : Environment Q A σ) (upd : (q : Q) → A q → γ → γ) (starts : γ → Program Q A α → Prop)

/-- A program starts, makes its next request, or ends, something else happens to the environment, or all programs under
way are lost. -/
inductive PoolStep (p : Pool Q A α γ σ) : Pool Q A α γ σ → Prop
  | start {g : γ} {program : Program Q A α} : starts g program →
      PoolStep p { p with running := (g, program) :: p.running }
  | ask {before after : List (γ × Program Q A α)} {g : γ} {q : Q} {next : A q → Program Q A α} {answer : A q}
      {s : σ} : p.running = before ++ (g, .ask q next) :: after → env.answers p.state q answer s →
      PoolStep p { p with state := s, running := before ++ (upd q answer g, next answer) :: after }
  | stop {before after : List (γ × Program Q A α)} {g : γ} {a : α} :
      p.running = before ++ (g, .done a) :: after →
      PoolStep p { p with running := before ++ after, ended := (g, a) :: p.ended }
  | change {s : σ} : env.changes p.state s → PoolStep p { p with state := s }
  | crash {s : σ} : env.crashes p.state s → PoolStep p { p with state := s, running := [] }

/-- No program has started yet. -/
structure Idle (initial : σ → Prop) (p : Pool Q A α γ σ) : Prop where
  state : initial p.state
  running : p.running = []
  ended : p.ended = []

def Pool.ghosts (p : Pool Q A α γ σ) : List γ := p.running.map Prod.fst ++ p.ended.map Prod.fst

/-- A property of the environment and of what the programs have seen, in any order, that every request keeps that a
program may make. -/
structure Accounted (may : γ → Q → Prop) (post : γ → α → Prop) (account : σ → List γ → Prop) : Prop where
  perm : ∀ {s gs gs'}, account s gs → gs.Perm gs' → account s gs'
  start : ∀ {s gs g program}, account s gs → starts g program → account s (g :: gs)
  ask : ∀ {s gs g q answer s'}, account s (g :: gs) → may g q → env.answers s q answer s' →
    account s' (upd q answer g :: gs)
  change : ∀ {s gs s'}, account s gs → env.changes s s' → account s' gs
  crash : ∀ {s gs ended s'}, account s (gs ++ ended) → (∀ g ∈ ended, ∃ a, post g a) → env.crashes s s' →
    account s' ended

variable {env upd starts} {may : γ → Q → Prop} {post : γ → α → Prop} {account : σ → List γ → Prop}
  {initial : σ → Prop} {p : Pool Q A α γ σ}

/-- What holds of a pool at any time. -/
structure Sane (upd : (q : Q) → A q → γ → γ) (may : γ → Q → Prop) (post : γ → α → Prop)
    (account : σ → List γ → Prop) (p : Pool Q A α γ σ) : Prop where
  running : ∀ r ∈ p.running, r.2.Meets upd may post r.1
  ended : ∀ r ∈ p.ended, post r.1 r.2
  account : account p.state p.ghosts

/-- Whatever the order of the requests, no program makes a request that it may not make, what has ended has ended in
`post`, and the account is right. -/
lemma sane_inductive (hstarts : ∀ g program, starts g program → program.Meets upd may post g)
    (haccount : Accounted env upd starts may post account) (hinitial : ∀ s, initial s → account s []) :
    Inductive (Idle initial) (PoolStep env upd starts) (Sane upd may post account) where
  start p h := by
    refine ⟨fun r hr => ?_, fun r hr => ?_, ?_⟩
    · rw [h.running] at hr
      cases hr
    · rw [h.ended] at hr
      cases hr
    · rw [Pool.ghosts, h.running, h.ended]
      exact hinitial _ h.state
  next p p' h hstep := by
    obtain ⟨hrunning, hended, hsum⟩ := h
    cases hstep with
    | start hprogram =>
      refine ⟨fun r hr => ?_, hended, haccount.start hsum hprogram⟩
      rcases List.mem_cons.mp hr with rfl | hr
      · exact hstarts _ _ hprogram
      · exact hrunning r hr
    | @ask before after g q next answer s hsplit hanswer =>
      rw [hsplit] at hrunning
      have hmeets := hrunning _ (List.mem_append_right before List.mem_cons_self)
      refine ⟨fun r hr => ?_, hended, ?_⟩
      · rcases List.mem_append.mp hr with hr | hr
        · exact hrunning r (List.mem_append_left _ hr)
        · rcases List.mem_cons.mp hr with rfl | hr
          · exact hmeets.2 answer
          · exact hrunning r (List.mem_append_right _ (List.mem_cons_of_mem _ hr))
      · rw [Pool.ghosts, hsplit] at hsum
        simp only [Pool.ghosts, List.map_append, List.map_cons, List.append_assoc, List.cons_append] at hsum ⊢
        exact haccount.perm (haccount.ask (haccount.perm hsum List.perm_middle) hmeets.1 hanswer)
          List.perm_middle.symm
    | @stop before after g a hsplit =>
      rw [hsplit] at hrunning
      have hmeets := hrunning _ (List.mem_append_right before List.mem_cons_self)
      refine ⟨fun r hr => ?_, fun r hr => ?_, ?_⟩
      · rcases List.mem_append.mp hr with hr | hr
        · exact hrunning r (List.mem_append_left _ hr)
        · exact hrunning r (List.mem_append_right _ (List.mem_cons_of_mem _ hr))
      · rcases List.mem_cons.mp hr with rfl | hr
        · exact hmeets
        · exact hended r hr
      · rw [Pool.ghosts, hsplit] at hsum
        simp only [Pool.ghosts, List.map_append, List.map_cons, List.append_assoc, List.cons_append] at hsum ⊢
        refine haccount.perm hsum ?_
        refine List.perm_middle.trans ?_
        rw [← List.append_assoc, ← List.append_assoc]
        exact List.perm_middle.symm
    | change hchange => exact ⟨hrunning, hended, haccount.change hsum hchange⟩
    | crash hcrash =>
      refine ⟨fun r hr => ?_, hended, haccount.crash hsum (fun g hg => ?_) hcrash⟩
      · cases hr
      · obtain ⟨r, hr, rfl⟩ := List.mem_map.mp hg
        exact ⟨r.2, hended r hr⟩

end Pools

section Plays

variable {Q : Type} {A : Q → Type} {α γ σ : Type} (env : Environment Q A σ) (upd : (q : Q) → A q → γ → γ)
  (starts : γ → Program Q A α → Prop) (oracle : σ → (q : Q) → A q × σ)

/-- The first requests of a program, against an environment that always has an answer. -/
def Program.advance : ℕ → Program Q A α → σ → γ → σ × γ × Program Q A α
  | 0, p, s, g => (s, g, p)
  | _ + 1, .done a, s, g => (s, g, .done a)
  | n + 1, .ask q next, s, g =>
    (next (oracle s q).1).advance n (oracle s q).2 (upd q (oracle s q).1 g)

/-- The answers that the program is given are those of the environment. -/
def Program.Answered : ℕ → Program Q A α → σ → Prop
  | n + 1, .ask q next, s =>
    env.answers s q (oracle s q).1 (oracle s q).2 ∧ (next (oracle s q).1).Answered n (oracle s q).2
  | _, _, _ => True

variable {env upd starts oracle}

lemma run_advance {n : ℕ} {p : Program Q A α} {s : σ} {g : γ} {ended : List (γ × α)}
    (h : p.Answered env oracle n s) :
    Run (PoolStep env upd starts) ⟨s, [(g, p)], ended⟩
      ⟨(p.advance upd oracle n s g).1, [(p.advance upd oracle n s g).2], ended⟩ := by
  induction n generalizing p s g with
  | zero => exact Relation.ReflTransGen.refl
  | succ n ih =>
    cases p with
    | done a => exact Relation.ReflTransGen.refl
    | ask q next =>
      have hask : PoolStep env upd starts ⟨s, [(g, .ask q next)], ended⟩
          ⟨(oracle s q).2, [(upd q (oracle s q).1 g, next (oracle s q).1)], ended⟩ :=
        @PoolStep.ask Q A α γ σ env upd starts _ [] [] g q next _ _ rfl h.1
      exact Relation.ReflTransGen.head hask (ih h.2)

end Plays

end SecScanMonitor.Foundations
