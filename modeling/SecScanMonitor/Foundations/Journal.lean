import SecScanMonitor.Foundations.Dict

/-! Journals that keep the first record of every key. A later record of a kept key is a duplicate when
its content is that of the kept one, and a conflict otherwise. -/

namespace SecScanMonitor.Foundations.Journal

inductive Answer (ε : Type) where
  | refused
  | created (kept : ε)
  | duplicate (kept : ε)
  | conflict
  deriving DecidableEq

variable {ι ε κ φ : Type} [DecidableEq κ] [DecidableEq φ]

section Record

variable (accept : ι → Option ε) (key : ε → κ) (content : ε → φ)

/-- What the journal answers to a record, when `kept` is what it keeps under the record's key. -/
def answer (e : ε) (kept : Option ε) : Answer ε :=
  match kept with
  | none => .created e
  | some x => if content x = content e then .duplicate x else .conflict

def keep (e : ε) (d : Dict κ ε) : Dict κ ε :=
  match d.find? (key e) with
  | none => d.set (key e) e
  | some _ => d

/-- An arrival is refused on its own account, or its record is answered and kept. -/
def record (i : ι) (d : Dict κ ε) : Answer ε × Dict κ ε :=
  match accept i with
  | none => (.refused, d)
  | some e => (answer content e (d.find? (key e)), keep key e d)

def transcript : List ι → Dict κ ε → List (ι × Answer ε)
  | [], _ => []
  | i :: is, d => (i, (record accept key content i d).1) ::
      transcript is (record accept key content i d).2

def keepAll : List ε → Dict κ ε → Dict κ ε
  | [], d => d
  | e :: es, d => keepAll es (keep key e d)

def first (es : List ε) (k : κ) : Option ε := es.find? fun e => decide (key e = k)

/-- Records of one key have one content. -/
def Consistent (es : List ε) : Prop := ∀ a ∈ es, ∀ b ∈ es, key a = key b → content a = content b

end Record

variable {accept : ι → Option ε} {key : ε → κ} {content : ε → φ}

section Keep

lemma find?_keep (e : ε) (d : Dict κ ε) (k : κ) :
    (keep key e d).find? k = (d.find? k).or (if key e = k then some e else none) := by
  unfold keep
  cases hd : d.find? (key e) with
  | none =>
    by_cases hk : key e = k
    · subst hk
      simp [hd]
    · simp [hk, Dict.find?_set_of_ne d e (Ne.symm hk)]
  | some x =>
    by_cases hk : key e = k
    · subst hk
      simp [hd]
    · simp [hk]

omit [DecidableEq φ] in
lemma first_cons (e : ε) (es : List ε) (k : κ) :
    first key (e :: es) k = (if key e = k then some e else none).or (first key es k) := by
  rw [first, List.find?_cons]
  by_cases hk : key e = k
  · simp [hk]
  · simp [hk, first]

/-- Keeping a record anticipates its arrival. -/
lemma kept_or_first (e : ε) (es : List ε) (d : Dict κ ε) (k : κ) :
    ((keep key e d).find? k).or (first key es k) = (d.find? k).or (first key (e :: es) k) := by
  rw [find?_keep, first_cons, Option.or_assoc]

lemma find?_keepAll (es : List ε) (d : Dict κ ε) (k : κ) :
    (keepAll key es d).find? k = (d.find? k).or (first key es k) := by
  induction es generalizing d with
  | nil => simp [keepAll, first]
  | cons e es ih => rw [keepAll, ih, kept_or_first]

lemma key_of_first {es : List ε} {k : κ} {e : ε} (h : first key es k = some e) :
    e ∈ es ∧ key e = k :=
  ⟨List.mem_of_find?_eq_some h, by simpa using List.find?_some h⟩

variable (key) in
lemma first_isSome {es : List ε} {e : ε} (h : e ∈ es) : ∃ x, first key es (key e) = some x := by
  cases hf : first key es (key e) with
  | none =>
    have hnone := List.find?_eq_none.mp hf e h
    simp at hnone
  | some x => exact ⟨x, rfl⟩

end Keep

section Order

omit [DecidableEq φ] in
/-- Two arrivals of consistent records in different orders keep the same contents. -/
lemma first_perm {es es' : List ε} (hp : es.Perm es') (hc : Consistent key content es) (k : κ) :
    (first key es k).map content = (first key es' k).map content := by
  cases hf : first key es k with
  | none =>
    cases hf' : first key es' k with
    | none => rfl
    | some x =>
      obtain ⟨hx, rfl⟩ := key_of_first hf'
      obtain ⟨y, hy⟩ := first_isSome key (hp.mem_iff.mpr hx)
      rw [hf] at hy
      cases hy
  | some x =>
    obtain ⟨hx, rfl⟩ := key_of_first hf
    obtain ⟨y, hy⟩ := first_isSome key (hp.mem_iff.mp hx)
    obtain ⟨hmem, hkey⟩ := key_of_first hy
    rw [hy, Option.map_some, Option.map_some, hc x hx y (hp.mem_iff.mpr hmem) hkey.symm]

omit [DecidableEq κ] [DecidableEq φ] in
lemma Consistent.perm {es es' : List ε} (hp : es.Perm es') (hc : Consistent key content es) :
    Consistent key content es' :=
  fun a ha b hb => hc a (hp.mem_iff.mpr ha) b (hp.mem_iff.mpr hb)

end Order

section Transcript

lemma transcript_fst (is : List ι) (d : Dict κ ε) :
    (transcript accept key content is d).map Prod.fst = is := by
  induction is generalizing d with
  | nil => rfl
  | cons i is ih => rw [transcript, List.map_cons, ih]

lemma mem_transcript {is : List ι} {d : Dict κ ε} {r : ι × Answer ε}
    (h : r ∈ transcript accept key content is d) : r.1 ∈ is := by
  have hfst : (transcript accept key content is d).map Prod.fst = is := transcript_fst is d
  exact hfst ▸ List.mem_map_of_mem h

/-- An arrival is refused exactly when it brings no record. -/
lemma refused_iff {is : List ι} {d : Dict κ ε} {r : ι × Answer ε}
    (h : r ∈ transcript accept key content is d) : r.2 = .refused ↔ accept r.1 = none := by
  induction is generalizing d with
  | nil => cases h
  | cons i is ih =>
    rcases List.mem_cons.mp h with rfl | h
    · simp only [record]
      cases hi : accept i with
      | none => simp
      | some e =>
        simp only [answer, reduceCtorEq, iff_false]
        cases hd : d.find? (key e) with
        | none =>
          intro hrefused
          cases hrefused
        | some x =>
          by_cases hx : content x = content e
          · simp [hx]
          · simp [hx]
    · exact ih h

end Transcript

section Conflicts

lemma consistent_of_answers {is : List ι} {d : Dict κ ε}
    (h : ∀ r ∈ transcript accept key content is d, r.2 ≠ .conflict) :
    ∀ e ∈ is.filterMap accept, ∀ x, (d.find? (key e)).or (first key (is.filterMap accept) (key e)) =
      some x → content x = content e := by
  induction is generalizing d with
  | nil => exact nofun
  | cons i is ih =>
    have hhead := h _ List.mem_cons_self
    have htail := ih fun r hr => h r (List.mem_cons_of_mem _ hr)
    cases hi : accept i with
    | none =>
      simp only [record, hi] at htail
      simpa only [List.filterMap_cons, hi] using htail
    | some e =>
      simp only [record, hi] at hhead htail
      simp only [List.filterMap_cons, hi]
      intro a ha x hx
      cases ha with
      | head =>
        cases hd : d.find? (key e) with
        | none =>
          rw [hd, Option.none_or, first_cons, if_pos rfl] at hx
          rw [← Option.some.inj hx]
        | some y =>
          rw [hd, Option.some_or] at hx
          obtain rfl := Option.some.inj hx
          by_contra hne
          apply hhead
          simp only [answer, hd, if_neg hne]
      | tail _ ha =>
        rw [← kept_or_first] at hx
        exact htail a ha x hx

lemma answers_of_consistent {is : List ι} {d : Dict κ ε}
    (h : ∀ e ∈ is.filterMap accept, ∀ x, (d.find? (key e)).or
      (first key (is.filterMap accept) (key e)) = some x → content x = content e) :
    ∀ r ∈ transcript accept key content is d, r.2 ≠ .conflict := by
  induction is generalizing d with
  | nil => exact List.forall_mem_nil _
  | cons i is ih =>
    intro r hr
    cases hi : accept i with
    | none =>
      simp only [List.filterMap_cons, hi] at h
      simp only [transcript, record, hi] at hr
      rcases List.mem_cons.mp hr with rfl | hr
      · intro hconflict
        cases hconflict
      · exact ih h r hr
    | some e =>
      simp only [List.filterMap_cons, hi] at h
      simp only [transcript, record, hi] at hr
      rcases List.mem_cons.mp hr with rfl | hr
      · unfold answer
        cases hd : d.find? (key e) with
        | none =>
          intro hconflict
          cases hconflict
        | some x =>
          have hsame := h e List.mem_cons_self x (by rw [hd, Option.some_or])
          simp [hsame]
      · refine ih ?_ r hr
        intro a ha x hx
        rw [kept_or_first] at hx
        exact h a (List.mem_cons_of_mem e ha) x hx

/-- Arrivals at an empty journal meet no conflict exactly when their records are consistent. -/
theorem conflictFree_iff {is : List ι} :
    (∀ r ∈ transcript accept key content is Table.empty, r.2 ≠ .conflict) ↔
      Consistent key content (is.filterMap accept) := by
  constructor
  · intro h a ha b hb hkey
    have hkept := consistent_of_answers h
    simp only [Dict.find?_empty, Option.none_or] at hkept
    obtain ⟨x, hx⟩ := first_isSome key ha
    rw [← hkept a ha x hx]
    exact hkept b hb x (hkey ▸ hx)
  · intro h
    apply answers_of_consistent
    intro e he x hx
    rw [Dict.find?_empty, Option.none_or] at hx
    obtain ⟨hmem, hkey⟩ := key_of_first hx
    exact h x hmem e he hkey

end Conflicts

section Interference

variable (own : ε → Bool)

/-- The first record of a key, among what is kept already and what arrives, is an own one. -/
def ownFirst (key : ε → κ) (d : Dict κ ε) (es : List ε) (k : κ) : Bool :=
  ((d.find? k).or (first key es k)).any own

/-- An answer, unless a foreign record came first. -/
def unlessPreempted (accept : ι → Option ε) (key : ε → κ) (p : κ → Bool) (r : ι × Answer ε) :
    ι × Answer ε :=
  match accept r.1 with
  | none => r
  | some e => if p (key e) then r else (r.1, .conflict)

lemma ownFirst_keep (e : ε) (es : List ε) (d : Dict κ ε) :
    ownFirst own key (keep key e d) es = ownFirst own key d (e :: es) := by
  funext k
  rw [ownFirst, kept_or_first, ownFirst]

/-- The arrivals counted as own ones are told by their records, where they bring one. -/
def Marks (accept : ι → Option ε) (own : ε → Bool) (mine : ι → Bool) : Prop :=
  ∀ i e, accept i = some e → mine i = own e

variable {own} {mine : ι → Bool}

/-- Own arrivals are answered as in a journal of their own, except that a foreign record that came first
turns the answer into a conflict. -/
theorem transcript_owned {known : ε → Prop} (hmine : Marks accept own mine)
    (hforeign : ∀ a b, known a → known b → own a = true → own b = false → content b ≠ content a)
    {is : List ι} (his : ∀ e ∈ is.filterMap accept, known e) {d d' : Dict κ ε}
    (hd : ∀ k x, d.find? k = some x → known x)
    (hsome : ∀ k x, d.find? k = some x → own x = true → d'.find? k = some x)
    (hnone : ∀ k, d.find? k = none → d'.find? k = none) :
    (transcript accept key content is d).filter (fun r => mine r.1) =
      (transcript accept key content (is.filter mine) d').map
        (unlessPreempted accept key (ownFirst own key d (is.filterMap accept))) := by
  induction is generalizing d d' with
  | nil => rfl
  | cons i is ih =>
    cases hi : accept i with
    | none =>
      simp only [List.filterMap_cons, hi] at his
      have htail := ih his hd hsome hnone
      cases hm : mine i with
      | false =>
        simp only [List.filter_cons, hm, transcript, record, hi, List.filterMap_cons]
        exact htail
      | true =>
        simp only [List.filter_cons, hm, if_true, transcript, record, hi, List.filterMap_cons,
          List.map_cons, unlessPreempted, htail]
    | some e =>
      simp only [List.filterMap_cons, hi, List.mem_cons, forall_eq_or_imp] at his
      obtain ⟨he, his⟩ := his
      have hkept : ∀ k x, (keep key e d).find? k = some x → known x := by
        intro k x hx
        rw [find?_keep, Option.or_eq_some_iff] at hx
        rcases hx with hx | ⟨-, hx⟩
        · exact hd k x hx
        · split at hx
          · exact Option.some.inj hx ▸ he
          · cases hx
      cases hown : own e with
      | false =>
        have howned : mine i = false := (hmine i e hi).trans hown
        have hsome' : ∀ k x, (keep key e d).find? k = some x → own x = true →
            d'.find? k = some x := by
          intro k x hx hxo
          rw [find?_keep, Option.or_eq_some_iff] at hx
          rcases hx with hx | ⟨-, hx⟩
          · exact hsome k x hx hxo
          · split at hx
            · rw [← Option.some.inj hx, hown] at hxo
              cases hxo
            · cases hx
        have hnone' : ∀ k, (keep key e d).find? k = none → d'.find? k = none := by
          intro k hk
          rw [find?_keep, Option.or_eq_none_iff] at hk
          exact hnone k hk.1
        have htail := ih his hkept hsome' hnone'
        simp only [List.filter_cons, howned, transcript, record, hi, List.filterMap_cons]
        rw [ownFirst_keep] at htail
        exact htail
      | true =>
        have howned : mine i = true := (hmine i e hi).trans hown
        have hsome' : ∀ k x, (keep key e d).find? k = some x → own x = true →
            (keep key e d').find? k = some x := by
          intro k x hx hxo
          rw [find?_keep, Option.or_eq_some_iff] at hx ⊢
          rcases hx with hx | ⟨hn, hx⟩
          · exact Or.inl (hsome k x hx hxo)
          · exact Or.inr ⟨hnone k hn, hx⟩
        have hnone' : ∀ k, (keep key e d).find? k = none → (keep key e d').find? k = none := by
          intro k hk
          rw [find?_keep, Option.or_eq_none_iff] at hk ⊢
          exact ⟨hnone k hk.1, hk.2⟩
        have htail := ih his hkept hsome' hnone'
        rw [ownFirst_keep] at htail
        simp only [List.filter_cons, howned, if_true, transcript, record, hi, List.filterMap_cons,
          List.map_cons, htail]
        congr 1
        rw [unlessPreempted, hi]
        simp only
        cases hx : d.find? (key e) with
        | none =>
          have hfirst : ownFirst own key d (e :: is.filterMap accept) (key e) = true := by
            rw [ownFirst, hx, Option.none_or, first_cons, if_pos rfl]
            exact hown
          rw [hfirst, if_pos rfl, hnone _ hx]
        | some x =>
          have hfirst : ownFirst own key d (e :: is.filterMap accept) (key e) = own x := by
            rw [ownFirst, hx]
            rfl
          cases hxo : own x with
          | true => rw [hfirst, hxo, if_pos rfl, hsome _ x hx hxo]
          | false =>
            have hdiffers := hforeign e x he (hd _ x hx) hown hxo
            rw [hfirst, hxo, answer, if_neg hdiffers]
            rfl

variable (content) in
lemma first_created {is : List ι} {d : Dict κ ε} {k : κ} {x : ε}
    (h : first key (is.filterMap accept) k = some x) (hd : d.find? k = none) :
    ∃ i, accept i = some x ∧ (i, .created x) ∈ transcript accept key content is d := by
  induction is generalizing d with
  | nil => cases h
  | cons i is ih =>
    cases hi : accept i with
    | none =>
      simp only [List.filterMap_cons, hi] at h
      obtain ⟨j, hj, hmem⟩ := ih h hd
      refine ⟨j, hj, List.mem_cons_of_mem _ ?_⟩
      rw [record, hi]
      exact hmem
    | some e =>
      simp only [List.filterMap_cons, hi, first_cons] at h
      by_cases hk : key e = k
      · rw [if_pos hk, Option.some_or] at h
        obtain rfl := Option.some.inj h
        refine ⟨i, hi, ?_⟩
        have hanswer : (record accept key content i d).1 = .created e := by
          simp only [record, hi, hk, hd, answer]
        rw [transcript, hanswer]
        exact List.mem_cons_self
      · rw [if_neg hk, Option.none_or] at h
        have hkept : (keep key e d).find? k = none := by
          rw [find?_keep, hd, if_neg hk, Option.none_or]
        obtain ⟨j, hj, hmem⟩ := ih h hkept
        refine ⟨j, hj, List.mem_cons_of_mem _ ?_⟩
        rw [record, hi]
        exact hmem

/-- Two runs that agree on the own arrivals give them the same answers, as far as these are observed,
exactly when every own record is preempted by a foreign one in both runs or in neither. -/
theorem owned_answers_iff {known : ε → Prop} (hmine : Marks accept own mine)
    (hforeign : ∀ a b, known a → known b → own a = true → own b = false → content b ≠ content a)
    {β : Type} {observe : ι × Answer ε → β}
    (hobserve : ∀ i e, accept i = some e → observe (i, .created e) ≠ observe (i, .conflict))
    {is js : List ι} (his : ∀ e ∈ is.filterMap accept, known e)
    (hjs : ∀ e ∈ js.filterMap accept, known e) (hagree : is.filter mine = js.filter mine) :
    ((transcript accept key content is Table.empty).filter (fun r => mine r.1)).map observe =
        ((transcript accept key content js Table.empty).filter (fun r => mine r.1)).map observe ↔
      ∀ e ∈ is.filterMap accept, own e = true →
        ownFirst own key Table.empty (is.filterMap accept) (key e) =
          ownFirst own key Table.empty (js.filterMap accept) (key e) := by
  have hempty : ∀ k x, Dict.find? (Table.empty : Dict κ ε) k = some x → known x := nofun
  rw [transcript_owned hmine hforeign his hempty (fun _ _ h _ => h) (fun _ h => h),
    transcript_owned hmine hforeign hjs hempty (fun _ _ h _ => h) (fun _ h => h), ← hagree,
    List.map_map, List.map_map, List.map_inj_left]
  constructor
  · intro h e he hown
    obtain ⟨i, hi, haccept⟩ := List.mem_filterMap.mp he
    have howned : i ∈ is.filter mine := List.mem_filter.mpr ⟨hi, (hmine i e haccept).trans hown⟩
    obtain ⟨x, hx⟩ := first_isSome key (List.mem_filterMap.mpr ⟨i, howned, haccept⟩)
    obtain ⟨j, hj, hmem⟩ := first_created content hx (Dict.find?_empty (ν := ε) (key e))
    have hdiffers := hobserve j x hj
    have hsame := h _ hmem
    simp only [Function.comp_apply, unlessPreempted, hj, (key_of_first hx).2] at hsame
    cases hp : ownFirst own key Table.empty (is.filterMap accept) (key e) with
    | true =>
      cases hq : ownFirst own key Table.empty (js.filterMap accept) (key e) with
      | true => rfl
      | false =>
        simp only [hp, hq, if_true, Bool.false_eq_true, if_false] at hsame
        exact absurd hsame hdiffers
    | false =>
      cases hq : ownFirst own key Table.empty (js.filterMap accept) (key e) with
      | true =>
        simp only [hp, hq, if_true, Bool.false_eq_true, if_false] at hsame
        exact absurd hsame.symm hdiffers
      | false => rfl
  · intro h r hr
    obtain ⟨hi, howned⟩ := List.mem_filter.mp (mem_transcript hr)
    cases haccept : accept r.1 with
    | none => simp only [Function.comp_apply, unlessPreempted, haccept]
    | some e =>
      have hown : own e = true := (hmine r.1 e haccept).symm.trans howned
      simp only [Function.comp_apply, unlessPreempted, haccept]
      rw [h e (List.mem_filterMap.mpr ⟨r.1, hi, haccept⟩) hown]

end Interference

end SecScanMonitor.Foundations.Journal
