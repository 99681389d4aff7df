import SecScanMonitor.Foundations.RegexShape

/-! Replacing every match of a text by a text that depends on the match: the scan of a text, which words of a
replaced text were there before, and where another expression can begin in it. -/

namespace SecScanMonitor.Foundations

namespace Regex

variable {α : Type} {r q : Regex α} {l m n : Option α} {t w : List α}

section Words

lemma ends_ne_nil : ends r ⟨l, t⟩ ≠ [] ↔ ∃ w rest, t = w ++ rest ∧ Reads r l w rest.head? := by
  rw [ne_eq, ends_eq_nil]
  push Not
  rfl

/-- A text, letter by letter, up to a folding of the letters. -/
def letters [DecidableEq α] (fold : α → α) (s : List α) : Regex α :=
  sequence (s.map fun x => one fun c => fold c = x)

lemma reads_letters [DecidableEq α] {fold : α → α} {s : List α} :
    Reads (letters fold s) l w n ↔ w.map fold = s := by
  induction s generalizing l w with
  | nil => simp [letters, sequence, reads_empty]
  | cons x s ih =>
    cases s with
    | nil =>
      simp only [letters, List.map_cons, List.map_nil, sequence, reads_one, decide_eq_true_eq,
        List.map_eq_singleton_iff]
    | cons y s =>
      change Reads (seq (one fun c => fold c = x) (letters fold (y :: s))) l w n ↔ _
      simp only [reads_seq, reads_one, decide_eq_true_eq, ih, List.map_eq_cons_iff]
      constructor
      · rintro ⟨_, v, rfl, ⟨z, rfl, rfl⟩, b, v, rfl, rfl, rfl⟩
        exact ⟨z, b :: v, rfl, rfl, b, v, rfl, rfl, rfl⟩
      · rintro ⟨z, _, rfl, rfl, b, v, rfl, rfl, rfl⟩
        exact ⟨[z], b :: v, rfl, ⟨z, rfl, rfl⟩, b, v, rfl, rfl, rfl⟩

end Words

section Greedy

lemma head?_flatMap {β : Type} {xs : List α} {f : α → List β} {b : β}
    (h : (xs.flatMap f).head? = some b) : ∃ x ∈ xs, (f x).head? = some b := by
  induction xs with
  | nil => cases h
  | cons x xs ih =>
    rw [List.flatMap_cons, List.head?_append, Option.or_eq_some_iff] at h
    rcases h with h | ⟨-, h⟩
    · exact ⟨x, List.mem_cons_self, h⟩
    · obtain ⟨y, hy, h⟩ := ih h
      exact ⟨y, List.mem_cons_of_mem x hy, h⟩

/-- The first end of a sequence is the first end of its last part at some place. -/
lemma head?_ends_seq {s : Regex α} {p e : Place α} (h : (ends (seq r s) p).head? = some e) :
    ∃ m ∈ ends r p, (ends s m).head? = some e := head?_flatMap h

lemma head?_starEnds_one {p : α → Bool} {k : ℕ} {m e : Place α} (hk : m.ahead.length ≤ k)
    (h : (starEnds (ends (one p)) true k m).head? = some e) : ∀ x, e.ahead.head? = some x → p x = false := by
  induction k generalizing m with
  | zero =>
    obtain rfl := Option.some.inj h
    rw [Nat.le_zero, List.length_eq_zero_iff] at hk
    simp [hk]
  | succ k ih =>
    obtain ⟨l, t⟩ := m
    cases t with
    | nil =>
      obtain rfl := Option.some.inj h
      simp
    | cons x t =>
      cases hx : p x with
      | true =>
        have hstep : starEnds (ends (one p)) true (k + 1) ⟨l, x :: t⟩ =
            starEnds (ends (one p)) true k ⟨some x, t⟩ ++ [⟨l, x :: t⟩] := by
          simp [starEnds, ends, hx]
        rw [hstep, List.head?_append, Option.or_eq_some_iff] at h
        rcases h with h | ⟨hnil, -⟩
        · exact ih (Nat.le_of_succ_le_succ hk) h
        · cases k <;> simp [starEnds] at hnil
      | false =>
        have hstep : starEnds (ends (one p)) true (k + 1) ⟨l, x :: t⟩ = [⟨l, x :: t⟩] := by
          simp [starEnds, ends, hx]
        rw [hstep] at h
        obtain rfl := Option.some.inj h
        rintro y ⟨⟩
        exact hx

/-- A greedy repetition of a class leaves no character of the class ahead. -/
lemma head?_ends_plus_one {p : α → Bool} {m e : Place α} (h : (ends (plus (one p)) m).head? = some e) :
    ∀ x, e.ahead.head? = some x → p x = false := by
  obtain ⟨m', -, h⟩ := head?_ends_seq h
  exact head?_starEnds_one (Nat.le_refl _) h

end Greedy

section Scan

/-- A scan passes the first character of a place, or finds a match from a place to a place. -/
inductive Piece (α : Type) where
  | kept (p : Place α)
  | found (p e : Place α)

/-- The scan goes on after `skip` characters. A match of no characters is passed. -/
def scanFrom (r : Regex α) : ℕ → Option α → List α → List (Piece α)
  | _, _, [] => []
  | skip + 1, _, x :: xs => scanFrom r skip (some x) xs
  | 0, l, x :: xs =>
    match (ends r ⟨l, x :: xs⟩).head? with
    | some e =>
      if e.ahead.length ≤ xs.length then
        .found ⟨l, x :: xs⟩ e :: scanFrom r (xs.length - e.ahead.length) (some x) xs
      else .kept ⟨l, x :: xs⟩ :: scanFrom r 0 (some x) xs
    | none => .kept ⟨l, x :: xs⟩ :: scanFrom r 0 (some x) xs

def scan (r : Regex α) (t : List α) : List (Piece α) := scanFrom r 0 none t

def Piece.rewrite (new : Place α → List α) : Piece α → List α
  | .kept p => p.ahead.take 1
  | .found p _ => new p

def rewrite (new : Place α → List α) (ps : List (Piece α)) : List α := ps.flatMap (Piece.rewrite new)

/-- Every match is replaced by what is made of the place where it starts. -/
def replace (r : Regex α) (new : Place α → List α) (t : List α) : List α := rewrite new (scan r t)

/-- What a part of an expression matches, on the first way through all of it. -/
def group (before part after : Regex α) (p : Place α) : List α :=
  let ways := (ends before p).flatMap fun m =>
    ((ends part m).filter fun e => !(ends after e).isEmpty).map fun e =>
      m.ahead.take (m.ahead.length - e.ahead.length)
  ways.head?.getD []

/-- The pieces of a text after a character. -/
inductive Scanned (r : Regex α) : Option α → List α → List (Piece α) → Prop
  | nil {l : Option α} : Scanned r l [] []
  | kept {l : Option α} {x : α} {xs : List α} {ps : List (Piece α)} : ends r ⟨l, x :: xs⟩ = [] →
      Scanned r (some x) xs ps → Scanned r l (x :: xs) (.kept ⟨l, x :: xs⟩ :: ps)
  | found {l : Option α} {w v : List α} {ps : List (Piece α)} : w ≠ [] →
      (ends r ⟨l, w ++ v⟩).head? = some ⟨w.getLast?.or l, v⟩ → Scanned r (w.getLast?.or l) v ps →
      Scanned r l (w ++ v) (.found ⟨l, w ++ v⟩ ⟨w.getLast?.or l, v⟩ :: ps)

lemma scanFrom_skip (w v : List α) :
    scanFrom r w.length l (w ++ v) = scanFrom r 0 (w.getLast?.or l) v := by
  induction w generalizing l with
  | nil => rfl
  | cons x w ih => rw [List.length_cons, List.cons_append, scanFrom, ih, getLast?_cons_or]

lemma scanFrom_kept {x : α} {xs : List α} (h : ends r ⟨l, x :: xs⟩ = []) :
    scanFrom r 0 l (x :: xs) = .kept ⟨l, x :: xs⟩ :: scanFrom r 0 (some x) xs := by
  rw [scanFrom, h]
  rfl

lemma scanFrom_found {w v : List α} (hw : w ≠ [])
    (h : (ends r ⟨l, w ++ v⟩).head? = some ⟨w.getLast?.or l, v⟩) :
    scanFrom r 0 l (w ++ v) =
      .found ⟨l, w ++ v⟩ ⟨w.getLast?.or l, v⟩ :: scanFrom r 0 (w.getLast?.or l) v := by
  cases w with
  | nil => exact absurd rfl hw
  | cons x w =>
    have hle : v.length ≤ (w ++ v).length := by simp
    have hskip : (w ++ v).length - v.length = w.length := by simp
    rw [List.cons_append] at h ⊢
    rw [scanFrom, h]
    simp only [hle, if_true, hskip, scanFrom_skip, getLast?_cons_or]

lemma scanned_scanFrom (hr : Solid r) (l : Option α) (t : List α) : Scanned r l t (scanFrom r 0 l t) := by
  induction hn : t.length using Nat.strongRecOn generalizing l t with
  | ind k ih =>
    subst hn
    cases t with
    | nil => exact .nil
    | cons x xs =>
      cases hhead : (ends r ⟨l, x :: xs⟩).head? with
      | none =>
        rw [List.head?_eq_none_iff] at hhead
        rw [scanFrom_kept hhead]
        exact .kept hhead (ih xs.length (by simp) _ _ rfl)
      | some e =>
        obtain ⟨w, v, ht, rfl, hw⟩ := ends_sound (List.mem_of_mem_head? hhead)
        have hne : w ≠ [] := by
          rintro rfl
          exact hr _ _ hw
        have hlt : v.length < (x :: xs).length := by
          rw [ht, List.length_append]
          have := List.length_pos_iff.mpr hne
          omega
        rw [ht] at hhead ⊢
        rw [scanFrom_found hne hhead]
        exact .found hne hhead (ih v.length hlt _ _ rfl)

lemma group_spec {before part after : Regex α} {p : Place α}
    (h : ends (seq before (seq part after)) p ≠ []) :
    ∃ u w rest, p.ahead = u ++ w ++ rest ∧ Reads before p.last u (w ++ rest).head? ∧
      Reads part (u.getLast?.or p.last) w rest.head? ∧ (∃ l, ends after ⟨l, rest⟩ ≠ []) ∧
      group before part after p = w := by
  obtain ⟨e, he⟩ := List.exists_mem_of_ne_nil _ h
  obtain ⟨m₀, hm₀, he⟩ := List.mem_flatMap.mp he
  obtain ⟨e₀, he₀, he⟩ := List.mem_flatMap.mp he
  rw [group]
  cases hhead : ((ends before p).flatMap fun m => ((ends part m).filter fun e =>
      !(ends after e).isEmpty).map fun e => m.ahead.take (m.ahead.length - e.ahead.length)).head? with
  | none =>
    exfalso
    rw [List.head?_eq_none_iff, List.flatMap_eq_nil_iff] at hhead
    have hnone := hhead m₀ hm₀
    rw [List.map_eq_nil_iff, List.filter_eq_nil_iff] at hnone
    exact hnone e₀ he₀ (by simpa using List.ne_nil_of_mem he)
  | some w =>
    obtain ⟨m, hm, hw⟩ := List.mem_flatMap.mp (List.mem_of_mem_head? hhead)
    obtain ⟨e, he, rfl⟩ := List.mem_map.mp hw
    obtain ⟨he, hafter⟩ := List.mem_filter.mp he
    obtain ⟨u, rest, hu, rfl, hreads⟩ := ends_sound (l := p.last) (t := p.ahead) hm
    obtain ⟨w, rest, rfl, rfl, hpart⟩ := ends_sound he
    refine ⟨u, w, rest, by rw [hu, List.append_assoc], hreads, hpart, ⟨_, by simpa using hafter⟩, ?_⟩
    simp

lemma Scanned.eq {ps : List (Piece α)} (h : Scanned r l t ps) : ps = scanFrom r 0 l t := by
  induction h with
  | nil => rfl
  | kept hnone _ ih => rw [scanFrom_kept hnone, ← ih]
  | found hw hhead _ ih => rw [scanFrom_found hw hhead, ← ih]

end Scan

section Alongside

variable {new : Place α → List α} {S : Option α → α → α → Prop} {ps : List (Piece α)} {x : α} {xs o : List α}

@[simp] lemma rewrite_nil : rewrite new [] = [] := rfl

@[simp] lemma rewrite_kept : rewrite new (.kept ⟨l, x :: xs⟩ :: ps) = x :: rewrite new ps := rfl

@[simp] lemma rewrite_found {p e : Place α} : rewrite new (.found p e :: ps) = new p ++ rewrite new ps := rfl

/-- Two texts are the same up to a place where each goes on in its own way. -/
inductive Alongside (S : Option α → α → α → Prop) : Option α → List α → List α → Prop
  | nil {l : Option α} : Alongside S l [] []
  | same {l : Option α} {x : α} {xs ys : List α} : Alongside S (some x) xs ys →
      Alongside S l (x :: xs) (x :: ys)
  | swap {l : Option α} {x y : α} {xs ys : List α} : S l x y → Alongside S l (x :: xs) (y :: ys)

lemma Alongside.flip (h : Alongside S l t o) : Alongside (fun l x y => S l y x) l o t := by
  induction h with
  | nil => exact .nil
  | same _ ih => exact .same ih
  | swap h => exact .swap h

/-- A text begins with a lead and a character of a class. -/
def Leads (L : List α → Prop) (C : α → Prop) (t : List α) : Prop := ∃ u c, L u ∧ C c ∧ u ++ [c] <+: t

lemma Leads.head {L : List α → Prop} {C P : α → Prop} (h : Leads L C t)
    (hL : ∀ u, L u → ∃ x u', u = x :: u' ∧ P x) : ∃ x, t.head? = some x ∧ P x := by
  obtain ⟨u, c, hu, -, rest, rfl⟩ := h
  obtain ⟨x, u', rfl, hx⟩ := hL u hu
  exact ⟨x, rfl, hx⟩

/-- What stands in one text before a character stands in the other one too, if neither goes its own way in it. -/
lemma Alongside.lead {u : List α} {c : α} (h : Alongside S (some x) xs o)
    (hu : (x :: u).IsChain fun a y => ∀ z, ¬ S (some a) z y) (hc : u ++ [c] <+: o) :
    ∃ c', u ++ [c'] <+: xs ∧ (c' = c ∨ ∃ l, S l c' c) := by
  induction u generalizing x xs o with
  | nil =>
    cases h with
    | nil => simp at hc
    | @same _ y xs ys h =>
      obtain ⟨rfl, -⟩ := List.cons_prefix_cons.mp hc
      exact ⟨c, List.cons_prefix_cons.mpr ⟨rfl, List.nil_prefix⟩, Or.inl rfl⟩
    | @swap _ y z xs ys hS =>
      obtain ⟨rfl, -⟩ := List.cons_prefix_cons.mp hc
      exact ⟨y, List.cons_prefix_cons.mpr ⟨rfl, List.nil_prefix⟩, Or.inr ⟨_, hS⟩⟩
  | cons z u ih =>
    obtain ⟨hz, hu⟩ := List.isChain_cons_cons.mp hu
    cases h with
    | nil => simp at hc
    | same h =>
      obtain ⟨rfl, hrest⟩ := List.cons_prefix_cons.mp hc
      obtain ⟨c', hc', hor⟩ := ih h hu hrest
      exact ⟨c', List.cons_prefix_cons.mpr ⟨rfl, hc'⟩, hor⟩
    | swap hS =>
      obtain ⟨rfl, -⟩ := List.cons_prefix_cons.mp hc
      exact absurd hS (hz _)

lemma Alongside.leads {L : List α → Prop} {C : α → Prop} (h : Alongside S (some x) xs o) (hnil : ¬ L [])
    (hL : ∀ u, L u → u.IsChain fun a y => ∀ z, ¬ S (some a) z y) (hC : ∀ l c c', S l c' c → C c → C c')
    (ho : Leads L C (x :: o)) : Leads L C (x :: xs) := by
  obtain ⟨u, c, hu, hc, hprefix⟩ := ho
  cases u with
  | nil => exact absurd hu hnil
  | cons y u =>
    obtain ⟨rfl, hrest⟩ := List.cons_prefix_cons.mp hprefix
    obtain ⟨c', hc', hor⟩ := h.lead (hL _ hu) hrest
    refine ⟨_, c', hu, ?_, List.cons_prefix_cons.mpr ⟨rfl, hc'⟩⟩
    rcases hor with rfl | ⟨l, hS⟩
    · exact hc
    · exact hC l c c' hS hc

/-- How matches and their replacements begin. -/
def Swaps (r : Regex α) (new : Place α → List α) (S : Option α → α → α → Prop) : Prop :=
  ∀ p e, (ends r p).head? = some e →
    ∃ x y, p.ahead.head? = some x ∧ (new p).head? = some y ∧ S p.last x y

lemma Swaps.mono {S' : Option α → α → α → Prop} (h : Swaps r new S) (hS : ∀ l x y, S l x y → S' l x y) :
    Swaps r new S' := by
  intro p e hhead
  obtain ⟨x, y, hx, hy, hswap⟩ := h p e hhead
  exact ⟨x, y, hx, hy, hS _ _ _ hswap⟩

lemma Scanned.alongside (hS : Swaps r new S) (h : Scanned r l t ps) : Alongside S l t (rewrite new ps) := by
  induction h with
  | nil => exact .nil
  | kept _ _ ih => exact .same ih
  | @found l w v ps _ hhead _ _ =>
    obtain ⟨x, y, hx, hy, hS⟩ := hS _ _ hhead
    obtain ⟨xs, hxs⟩ := List.head?_eq_some_iff.mp hx
    obtain ⟨ys, hys⟩ := List.head?_eq_some_iff.mp hy
    change w ++ v = x :: xs at hxs
    rw [rewrite_found, hys]
    simp only [hxs]
    exact .swap hS

end Alongside

section Occurrences

variable {new : Place α → List α} {S : Option α → α → α → Prop} {ps : List (Piece α)}
variable {A : Option α → Prop} {B : List α → Prop}

lemma occursFrom_iff : OccursFrom q l t ↔ ∃ u v, t = u ++ v ∧ ends q ⟨u.getLast?.or l, v⟩ ≠ [] := by
  constructor
  · rintro ⟨u, w, v, rfl, hw⟩
    exact ⟨u, w ++ v, List.append_assoc u w v, ends_ne_nil.mpr ⟨w, v, rfl, hw⟩⟩
  · rintro ⟨u, v, rfl, hv⟩
    obtain ⟨w, rest, rfl, hw⟩ := ends_ne_nil.mp hv
    exact ⟨u, w, rest, (List.append_assoc u w rest).symm, hw⟩

/-- An expression begins in a replaced text where it began in the text itself, at a character that was kept:
`A` is what it asks of the character before, `B` what it asks of the text ahead. -/
lemma Scanned.kept_of_occurs (hq : ∀ l t, ends q ⟨l, t⟩ ≠ [] ↔ A l ∧ B t) (hnil : ¬ B [])
    (hS : Swaps r new S)
    (hkept : ∀ x xs ys, Alongside S (some x) xs ys → B (x :: ys) → B (x :: xs))
    (hnew : ∀ p e, (ends r p).head? = some e → ∀ a b rest l, new p = a ++ b → b ≠ [] →
      A (a.getLast?.or l) → ¬ B (b ++ rest))
    (hnext : ∀ p e, (ends r p).head? = some e → ∀ l x ys, e.ahead.head? = some x → B (x :: ys) →
      A ((new p).getLast?.or l) → A e.last)
    (h : Scanned r l t ps) (hm : ∀ x ys, t.head? = some x → B (x :: ys) → A m → A l)
    (hocc : OccursFrom q m (rewrite new ps)) : ∃ p, .kept p ∈ ps ∧ ends q p ≠ [] := by
  obtain ⟨u, v, huv, hv⟩ := occursFrom_iff.mp hocc
  induction h generalizing m u with
  | nil =>
    obtain ⟨rfl, rfl⟩ := List.append_eq_nil_iff.mp huv.symm
    exact absurd ((hq _ _).mp hv).2 hnil
  | @kept l x xs ps _ hscan ih =>
    cases u with
    | nil =>
      obtain rfl : x :: rewrite new ps = v := huv
      obtain ⟨hA, hB⟩ := (hq _ _).mp hv
      refine ⟨⟨l, x :: xs⟩, List.mem_cons_self, (hq _ _).mpr ⟨hm x _ rfl hB hA, ?_⟩⟩
      exact hkept x xs _ (hscan.alongside hS) hB
    | cons y u =>
      obtain ⟨rfl, hrest⟩ := List.cons.inj huv
      rw [getLast?_cons_or] at hv
      obtain ⟨p, hp, hends⟩ := ih (fun _ _ _ _ h => h) (occursFrom_iff.mpr ⟨u, v, hrest, hv⟩) u hrest hv
      exact ⟨p, List.mem_cons_of_mem _ hp, hends⟩
  | @found l w rest ps _ hhead _ ih =>
    rw [rewrite_found] at huv
    obtain ⟨hA, hB⟩ := (hq _ _).mp hv
    rcases List.append_eq_append_iff.mp huv with ⟨u', rfl, hrest⟩ | ⟨b, hb, rfl⟩
    · rw [getLast?_append_or] at hv
      have hocc' := occursFrom_iff.mpr ⟨u', v, hrest, hv⟩
      obtain ⟨p, hp, hends⟩ := ih (fun x ys => hnext _ _ hhead m x ys) hocc' u' hrest hv
      exact ⟨p, List.mem_cons_of_mem _ hp, hends⟩
    · cases b with
      | nil =>
        rw [List.append_nil] at hb
        rw [List.nil_append] at hv
        subst hb
        have hocc' := occursFrom_iff.mpr ⟨[], rewrite new ps, rfl, hv⟩
        obtain ⟨p, hp, hends⟩ := ih (fun x ys => hnext _ _ hhead m x ys) hocc' [] rfl hv
        exact ⟨p, List.mem_cons_of_mem _ hp, hends⟩
      | cons y b => exact absurd hB (hnew _ _ hhead u (y :: b) _ m hb (List.cons_ne_nil y b) hA)

/-- An expression that looks at nothing before it begins in the replaced text too, where it began at a character
that was kept. -/
lemma Scanned.occurs_of_kept (hq : ∀ l t, ends q ⟨l, t⟩ ≠ [] ↔ B t) (hS : Swaps r new S)
    (hkept : ∀ x xs ys, Alongside S (some x) xs ys → B (x :: xs) → B (x :: ys))
    (h : Scanned r l t ps) {p : Place α} (hp : .kept p ∈ ps) (hends : ends q p ≠ []) :
    OccursFrom q m (rewrite new ps) := by
  induction h generalizing m with
  | nil => cases hp
  | @kept l x xs ps _ hscan ih =>
    rcases List.mem_cons.mp hp with heq | hp
    · obtain rfl := Piece.kept.inj heq
      refine occursFrom_iff.mpr ⟨[], _, rfl, (hq _ _).mpr ?_⟩
      exact hkept x xs _ (hscan.alongside hS) ((hq _ _).mp hends)
    · exact (ih hp (m := some x)).of_tail
  | @found l w rest ps _ _ _ ih =>
    have hp := (List.mem_cons.mp hp).resolve_left (by rintro ⟨⟩)
    obtain ⟨u, v, huv, hv⟩ := occursFrom_iff.mp (ih hp (m := (new ⟨l, w ++ rest⟩).getLast?.or m))
    refine occursFrom_iff.mpr ⟨new ⟨l, w ++ rest⟩ ++ u, v, ?_, ?_⟩
    · rw [rewrite_found, huv, List.append_assoc]
    · rw [getLast?_append_or]
      exact hv

/-- A text stays as it is once its matches are replaced, if a replacement is matched and replaced by itself and
nothing begins right after a match. -/
lemma Scanned.rewrite_again (hq : ∀ l t, ends r ⟨l, t⟩ ≠ [] ↔ A l ∧ B t) (hS : Swaps r new S)
    (hkept : ∀ x xs ys, Alongside S (some x) xs ys → B (x :: ys) → B (x :: xs))
    (hnext : ∀ p e, (ends r p).head? = some e → ∀ x ys, e.ahead.head? = some x → ¬ B (x :: ys))
    (hnew : ∀ p e m o, (ends r p).head? = some e → A m → Alongside S e.last e.ahead o →
      (ends r ⟨m, new p ++ o⟩).head? = some ⟨(new p).getLast?.or m, o⟩ ∧ new ⟨m, new p ++ o⟩ = new p)
    (h : Scanned r l t ps) (hm : ∀ x ys, t.head? = some x → B (x :: ys) → (A m ↔ A l)) :
    ∃ ps', Scanned r m (rewrite new ps) ps' ∧ rewrite new ps' = rewrite new ps := by
  induction h generalizing m with
  | nil => exact ⟨[], .nil, rfl⟩
  | @kept l x xs ps hnone hscan ih =>
    obtain ⟨ps', hscan', heq⟩ := ih (m := some x) fun _ _ _ _ => Iff.rfl
    have hnone' : ends r ⟨m, x :: rewrite new ps⟩ = [] := by
      by_contra hends
      obtain ⟨hA, hB⟩ := (hq _ _).mp hends
      refine (hq _ _).mpr ⟨(hm x _ rfl hB).mp hA, ?_⟩ hnone
      exact hkept x xs _ (hscan.alongside hS) hB
    exact ⟨_, .kept hnone' hscan', by rw [rewrite_kept, rewrite_kept, heq]⟩
  | @found l w v ps hw hhead hscan ih =>
    obtain ⟨ps', hscan', heq⟩ := ih (m := (new ⟨l, w ++ v⟩).getLast?.or m) fun x ys hx hB =>
      absurd hB (hnext _ _ hhead x ys hx)
    have hends : ends r ⟨l, w ++ v⟩ ≠ [] := by
      intro hnil
      rw [hnil] at hhead
      cases hhead
    obtain ⟨hA, hB⟩ := (hq _ _).mp hends
    obtain ⟨x, w, rfl⟩ := List.exists_cons_of_ne_nil hw
    obtain ⟨hhead', hsame⟩ := hnew _ _ m _ hhead ((hm x _ rfl hB).mpr hA) (hscan.alongside hS)
    have hne : new ⟨l, x :: w ++ v⟩ ≠ [] := by
      obtain ⟨_, y, -, hy, -⟩ := hS _ _ hhead
      intro hnil
      rw [hnil] at hy
      cases hy
    rw [rewrite_found]
    refine ⟨_, .found hne hhead' hscan', ?_⟩
    rw [rewrite_found, hsame, heq]

lemma Scanned.ends_of_kept (h : Scanned r l t ps) {p : Place α} (hp : .kept p ∈ ps) : ends r p = [] := by
  induction h with
  | nil => cases hp
  | kept hnone _ ih =>
    rcases List.mem_cons.mp hp with heq | hp
    · obtain rfl := Piece.kept.inj heq
      exact hnone
    · exact ih hp
  | found _ _ _ ih => exact ih ((List.mem_cons.mp hp).resolve_left (by rintro ⟨⟩))

lemma Scanned.occursFrom_of_kept (h : Scanned r l t ps) {p : Place α} (hp : .kept p ∈ ps)
    (hends : ends q p ≠ []) : OccursFrom q l t := by
  induction h with
  | nil => cases hp
  | kept _ _ ih =>
    rcases List.mem_cons.mp hp with heq | hp
    · obtain rfl := Piece.kept.inj heq
      exact occursFrom_iff.mpr ⟨[], _, rfl, hends⟩
    · exact (ih hp).of_tail
  | @found l w v ps _ _ _ ih =>
    have hp := (List.mem_cons.mp hp).resolve_left (by rintro ⟨⟩)
    obtain ⟨u, v', rfl, hv⟩ := occursFrom_iff.mp (ih hp)
    refine occursFrom_iff.mpr ⟨w ++ u, v', (List.append_assoc w u v').symm, ?_⟩
    rw [getLast?_append_or]
    exact hv

/-- Nothing is replaced where nothing occurs. -/
lemma replace_eq_self (hr : Solid r) (h : ¬ Occurs r t) : replace r new t = t := by
  have hscan := scanned_scanFrom hr none t
  suffices hself : ∀ {l t ps}, Scanned r l t ps → ¬ OccursFrom r l t → rewrite new ps = t from
    hself hscan h
  intro l t ps hscan hnone
  induction hscan with
  | nil => rfl
  | kept _ _ ih => rw [rewrite_kept, ih fun hocc => hnone hocc.of_tail]
  | @found l w v ps _ hhead _ _ =>
    refine absurd (occursFrom_iff.mpr ⟨[], w ++ v, rfl, ?_⟩) hnone
    intro hnil
    rw [List.getLast?_nil, Option.none_or] at hnil
    rw [hnil] at hhead
    cases hhead

end Occurrences

end Regex

end SecScanMonitor.Foundations
