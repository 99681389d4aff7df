import SecScanMonitor.Capabilities.ScannerResults

/-! Redaction changes neither the outcome of a schema check nor the count, and a schema check changes no text. -/

namespace SecScanMonitor.Capabilities

open Foundations Domain Sanitize

section Shape

variable {u : UnicodeTables}

lemma redactItems_eq (items : List Parsed) : redactItems u items = items.map (redactJson u) := by
  induction items with
  | nil => rfl
  | cons item items ih => exact congrArg (List.cons (redactJson u item)) ih

lemma redactItems_cons (item : Parsed) (items : List Parsed) :
    redactItems u (item :: items) = redactJson u item :: redactItems u items := rfl

lemma redactMembers_cons (k : Str) (v : Parsed) (members : Payload) :
    redactMembers u ((k, v) :: members) = (k, redactJson u v) :: redactMembers u members := rfl

lemma redactMembers_eq (members : Payload) :
    redactMembers u members = members.map fun m => (m.1, redactJson u m.2) := by
  induction members with
  | nil => rfl
  | cons m members ih => exact congrArg (List.cons (m.1, redactJson u m.2)) ih

lemma redactJson_dict (members : Payload) : redactJson u (.dict members) = .dict (redactMembers u members) := rfl

lemma redactJson_list (items : List Parsed) : redactJson u (.list items) = .list (redactItems u items) := rfl

lemma redactJson_str (s : Str) : redactJson u (.str s) = .str (shown u s) := rfl

lemma lookup_redact (members : Payload) (k : Str) :
    (redactMembers u members).lookup k = (members.lookup k).map (redactJson u) := by
  induction members with
  | nil => rfl
  | cons m members ih =>
    obtain ⟨l, v⟩ := m
    rw [redactMembers_cons, List.lookup_cons, List.lookup_cons, ih]
    cases k == l <;> rfl

lemma hasMember_redact (members : Payload) (key : String) :
    hasMember (redactMembers u members) key = hasMember members key := by
  rw [hasMember, lookup_redact, Option.isSome_map, hasMember]

lemma setMember_redact (key : String) (v : Parsed) (members : Payload) :
    setMember key (redactJson u v) (redactMembers u members) = redactMembers u (setMember key v members) := by
  induction members with
  | nil => rfl
  | cons m members ih =>
    obtain ⟨k, w⟩ := m
    rw [redactMembers_cons, setMember, setMember, ih]
    split
    · rfl
    · rfl

lemma redactJson_nil : redactJson u (.list []) = .list [] := rfl

lemma setMember_nil_redact (key : String) (members : Payload) :
    setMember key (.list []) (redactMembers u members) = redactMembers u (setMember key (.list []) members) :=
  setMember_redact key (.list []) members

/-- A function that cannot tell a value from its redaction, but for what it returns of it. -/
def Blind {α : Type} (f : α → Except Raised α) (redact : α → α) : Prop := ∀ a, f (redact a) = (f a).map redact

lemma Blind.mapM {α : Type} {f : α → Except Raised α} {redact : α → α} (h : Blind f redact) (l : List α) :
    (l.map redact).mapM f = (l.mapM f).map (List.map redact) := by
  induction l with
  | nil => rfl
  | cons a l ih =>
    rw [List.map_cons, List.mapM_cons, List.mapM_cons, h a, ih]
    cases f a with
    | error e => rfl
    | ok b => cases l.mapM f <;> rfl

lemma objects_redact (items : List Parsed) :
    (redactItems u items).mapM Parsed.members? = (items.mapM Parsed.members?).map (List.map (redactMembers u)) := by
  induction items with
  | nil => rfl
  | cons item items ih =>
    rw [redactItems_cons, List.mapM_cons, List.mapM_cons, ih]
    cases item with
    | dict members => cases items.mapM Parsed.members? <;> rfl
    | _ => rfl

lemma dicts_redact (l : List Payload) :
    (l.map (redactMembers u)).map Parsed.dict = redactItems u (l.map Parsed.dict) := by
  induction l with
  | nil => rfl
  | cons members l ih => exact congrArg (List.cons (.dict (redactMembers u members))) ih

lemma normalizeReport_redact (keys : List String) : Blind (normalizeReport keys) (redactMembers u) := by
  induction keys with
  | nil => exact fun report => rfl
  | cons key keys ih =>
    intro report
    have hempty := (congrArg (normalizeReport keys) (setMember_nil_redact key report)).trans (ih _)
    rw [normalizeReport, normalizeReport, lookup_redact]
    cases report.lookup (Str.ofString key) with
    | none => exact hempty
    | some v =>
      cases v with
      | none => exact hempty
      | list items => exact ih report
      | str _ | dict _ => rfl
      | _ => rfl

lemma normalizePackage_redact : Blind normalizePackage (redactJson u) := by
  intro v
  cases v with
  | dict package =>
    have hempty := setMember_nil_redact (u := u) "vulnerabilities" package
    rw [redactJson_dict, normalizePackage, normalizePackage, lookup_redact]
    cases package.lookup (Str.ofString "vulnerabilities") with
    | none => exact congrArg Except.ok (redactJson_dict package).symm
    | some v =>
      cases v with
      | none =>
        change Except.ok (Parsed.dict (setMember _ _ (redactMembers u package))) = Except.ok (redactJson u _)
        rw [redactJson_dict, hempty]
      | list items =>
        rw [Option.map_some, redactJson_list]
        exact congrArg Except.ok (redactJson_dict package).symm
      | str _ | dict _ => rfl
      | _ => rfl
  | list _ | str _ => rfl
  | _ => rfl

lemma normalizeGroup_redact : Blind normalizeGroup (redactMembers u) := by
  intro group
  have hempty := setMember_nil_redact (u := u) "packages" group
  rw [normalizeGroup, normalizeGroup, lookup_redact]
  cases group.lookup (Str.ofString "packages") with
  | none => rfl
  | some v =>
    cases v with
    | none => exact congrArg Except.ok hempty
    | list packages =>
      rw [Option.map_some, redactJson_list]
      dsimp only
      rw [redactItems_eq, normalizePackage_redact.mapM packages]
      cases packages.mapM normalizePackage with
      | error e => rfl
      | ok normalized =>
        change Except.ok (setMember _ _ (redactMembers u group)) = Except.ok (redactMembers u _)
        rw [← redactItems_eq, ← redactJson_list, setMember_redact]
    | str _ | dict _ => rfl
    | _ => rfl

lemma listOrEmpty_redact (message : String) (v : Option Parsed) :
    listOrEmpty message (v.map (redactJson u)) = (listOrEmpty message v).map (redactItems u) := by
  cases v with
  | none => rfl
  | some v =>
    cases v with
    | none => rfl
    | list items =>
      rw [Option.map_some, redactJson_list]
      rfl
    | str _ | dict _ => rfl
    | _ => rfl

lemma normalizeObjects_redact {f : Payload → Except Raised Payload} (hf : Blind f (redactMembers u))
    (key message : String) (members : Payload) :
    normalizeObjects key message f (redactMembers u members) =
      (normalizeObjects key message f members).map (redactJson u) := by
  rw [normalizeObjects, normalizeObjects, lookup_redact, listOrEmpty_redact]
  cases listOrEmpty message (members.lookup (Str.ofString key)) with
  | error e => rfl
  | ok items =>
    change orRaise ((redactItems u items).mapM Parsed.members?) .valueError message >>= _ =
      (orRaise (items.mapM Parsed.members?) .valueError message >>= _).map _
    rw [objects_redact]
    cases items.mapM Parsed.members? with
    | none => rfl
    | some objects =>
      change (objects.map (redactMembers u)).mapM f >>= _ = (objects.mapM f >>= _).map _
      rw [hf.mapM objects]
      cases objects.mapM f with
      | error e => rfl
      | ok normalized =>
        change Except.ok (Parsed.dict (setMember _ (.list ((normalized.map _).map _)) _)) = Except.ok (redactJson u _)
        rw [dicts_redact, ← redactJson_list, setMember_redact, redactJson_dict]

lemma normalizeTrivy_redact : Blind normalizeTrivy (redactJson u) := by
  intro v
  cases v with
  | dict members =>
    have henvelope : trivyEnvelope.any (hasMember (redactMembers u members)) =
        trivyEnvelope.any (hasMember members) := congrArg trivyEnvelope.any (funext (hasMember_redact members))
    rw [redactJson_dict, normalizeTrivy, normalizeTrivy, hasMember_redact, henvelope, Domain.map_bind]
    refine congrArg (raiseIf _ _ _ >>= ·) (funext fun _ => ?_)
    exact normalizeObjects_redact (normalizeReport_redact trivyLists) _ _ members
  | list _ | str _ => rfl
  | _ => rfl

lemma normalizeOsv_redact : Blind normalizeOsv (redactJson u) := by
  intro v
  cases v with
  | dict members =>
    rw [redactJson_dict, normalizeOsv, normalizeOsv, hasMember_redact, Domain.map_bind]
    refine congrArg (raiseIf _ _ _ >>= ·) (funext fun _ => ?_)
    exact normalizeObjects_redact normalizeGroup_redact _ _ members
  | list _ | str _ => rfl
  | _ => rfl

lemma normalizeSemgrep_redact : Blind normalizeSemgrep (redactJson u) := by
  intro v
  cases v with
  | dict members =>
    have hempty := setMember_nil_redact (u := u) "results" members
    rw [redactJson_dict, normalizeSemgrep, normalizeSemgrep, lookup_redact]
    cases members.lookup (Str.ofString "results") with
    | none => rfl
    | some v =>
      cases v with
      | none =>
        change Except.ok (Parsed.dict (setMember _ _ (redactMembers u members))) = Except.ok (redactJson u _)
        rw [redactJson_dict, hempty]
      | list items =>
        rw [Option.map_some, redactJson_list]
        exact congrArg Except.ok (redactJson_dict members).symm
      | str _ | dict _ => rfl
      | _ => rfl
  | list _ | str _ => rfl
  | _ => rfl

lemma normalizeGitleaks_redact : Blind normalizeGitleaks (redactJson u) := by
  intro v
  cases v with
  | list items =>
    rw [redactJson_list, normalizeGitleaks, normalizeGitleaks, objects_redact, Domain.map_bind]
    cases items.mapM Parsed.members? with
    | none => rfl
    | some maps => exact congrArg Except.ok (redactJson_list items).symm
  | dict _ | str _ => rfl
  | _ => rfl

/-- Redacting and normalizing can be done in either order. -/
theorem normalizeScannerResult_redact (capabilityId : String) :
    Blind (normalizeScannerResult capabilityId) (redactJson u) := by
  intro v
  unfold normalizeScannerResult
  split
  · exact normalizeGitleaks_redact v
  · exact normalizeTrivy_redact v
  · exact normalizeOsv_redact v
  · exact normalizeSemgrep_redact v
  · rfl

lemma getMember_redact (members : Payload) (key : String) :
    getMember (redactMembers u members) key .none = redactJson u (getMember members key .none) := by
  rw [getMember, getMember, lookup_redact]
  cases members.lookup (Str.ofString key) with
  | none => rfl
  | some v => rfl

lemma measured_redact (v : Parsed) : measured (redactJson u v) = measured v := by
  cases v with
  | list _ | dict _ | str _ => simp only [redactJson_list, redactJson_dict, redactJson_str, measured, Bool.or_true]
  | _ => rfl

lemma measuredAt_redact (members : Payload) (key : String) :
    measuredAt (redactMembers u members) key = measuredAt members key := by
  rw [measuredAt, getMember_redact, measured_redact, measuredAt]

lemma listAt_redact (members : Payload) (key : String) :
    listAt (redactMembers u members) key = (listAt members key).map (redactItems u) := by
  rw [listAt, listAt, lookup_redact]
  cases members.lookup (Str.ofString key) with
  | none => rfl
  | some v => cases v <;> rfl

lemma isPackaged_redact (v : Parsed) : isPackaged (redactJson u v) = isPackaged v := by
  cases v with
  | dict group => exact hasMember_redact group "packages"
  | str _ => simp only [redactJson_str, isPackaged]
  | _ => rfl

lemma packageMeasured_redact (v : Parsed) : packageMeasured (redactJson u v) = packageMeasured v := by
  cases v with
  | dict package => exact measuredAt_redact package "vulnerabilities"
  | str _ => simp only [redactJson_str, packageMeasured]
  | _ => rfl

lemma reportMeasured_redact (v : Parsed) : reportMeasured (redactJson u v) = reportMeasured v := by
  cases v with
  | dict report =>
    rw [redactJson_dict]
    exact congrArg trivyLists.all (funext (measuredAt_redact report))
  | str _ => simp only [redactJson_str, reportMeasured]
  | _ => rfl

/-- What holds of a value and of its redaction alike holds of the items of both lists alike. -/
lemma all_redact {p : Parsed → Bool} (hp : ∀ v, p (redactJson u v) = p v) (items : List Parsed) :
    (redactItems u items).all p = items.all p := by
  rw [redactItems_eq, List.all_map]
  exact congrArg items.all (funext hp)

lemma any_redact {p : Parsed → Bool} (hp : ∀ v, p (redactJson u v) = p v) (items : List Parsed) :
    (redactItems u items).any p = items.any p := by
  rw [redactItems_eq, List.any_map]
  exact congrArg items.any (funext hp)

lemma groupMeasured_redact (v : Parsed) : groupMeasured (redactJson u v) = groupMeasured v := by
  cases v with
  | dict group =>
    rw [redactJson_dict, groupMeasured, groupMeasured, measuredAt_redact, getMember_redact]
    cases getMember group "packages" .none with
    | list packages =>
      rw [redactJson_list]
      exact congrArg (_ && ·) (all_redact packageMeasured_redact packages)
    | _ => rfl
  | str _ => simp only [redactJson_str, groupMeasured]
  | _ => rfl

/-- What is redacted is countable exactly if it was before. -/
theorem countable_redact (v : Parsed) : countable (redactJson u v) = countable v := by
  cases v with
  | dict members =>
    rw [redactJson_dict, countable, countable, listAt_redact, listAt_redact, listAt_redact]
    cases listAt members "results" with
    | some results =>
      rw [Option.map_some]
      dsimp only
      rw [any_redact isPackaged_redact, all_redact groupMeasured_redact]
    | none =>
      cases listAt members "findings" with
      | some findings => rfl
      | none =>
        cases listAt members "Results" with
        | some results => exact all_redact reportMeasured_redact results
        | none => rfl
  | str _ => simp only [redactJson_str, countable]
  | _ => rfl

end Shape

section Encoding

/-- What a function returns has the property exactly if what it is given has it. -/
def Keeps {α : Type} (p : α → Bool) (f : α → Except Raised α) : Prop := ∀ a b, f a = .ok b → p b = p a

lemma Keeps.mapM {α : Type} {p : α → Bool} {f : α → Except Raised α} (h : Keeps p f) {l l' : List α}
    (hl : l.mapM f = .ok l') : l'.all p = l.all p := by
  have hmap := congrArg (List.all · id) (mapM_map_eq hl h)
  rwa [List.all_map, List.all_map] at hmap

lemma encodable_setMember {members : Payload} {key : String} {v : Parsed}
    (h : encodable v = encodable (getMember members key .none)) :
    encodableMembers (setMember key v members) = encodableMembers members := by
  induction members with
  | nil =>
    change encodable v = true at h
    rw [setMember, encodableMembers, encodableMembers, h, isEncodable_ofString]
    rfl
  | cons m members ih =>
    obtain ⟨k, w⟩ := m
    rw [getMember, List.lookup_cons] at h
    rw [setMember]
    by_cases hkey : k = Str.ofString key
    · rw [hkey, beq_self_eq_true] at h
      rw [if_pos hkey, encodableMembers, encodableMembers, h]
      rfl
    · rw [beq_false_of_ne (Ne.symm hkey)] at h
      rw [if_neg hkey, encodableMembers, encodableMembers, ih h]

lemma encodable_setMember_nil {members : Payload} {key : String}
    (h : members.lookup (Str.ofString key) = none ∨ members.lookup (Str.ofString key) = some .none) :
    encodableMembers (setMember key (.list []) members) = encodableMembers members := by
  apply encodable_setMember
  rw [getMember]
  rcases h with h | h
  all_goals
    rw [h]
    rfl

lemma normalizeReport_encodable (keys : List String) : Keeps encodableMembers (normalizeReport keys) := by
  induction keys with
  | nil =>
    intro report report' h
    rw [← Except.ok.inj h]
  | cons key keys ih =>
    intro report report' h
    rw [normalizeReport] at h
    split at h
    · rename_i hmissing
      exact (ih _ _ h).trans (encodable_setMember_nil (Or.inl hmissing))
    · rename_i hnull
      exact (ih _ _ h).trans (encodable_setMember_nil (Or.inr hnull))
    · exact ih _ _ h
    · cases h

lemma normalizePackage_encodable : Keeps encodable normalizePackage := by
  intro v w h
  cases v with
  | dict package =>
    rw [normalizePackage] at h
    split at h
    · rename_i hnull
      rw [← Except.ok.inj h, encodable, encodable, encodable_setMember_nil (Or.inr hnull)]
    · rw [← Except.ok.inj h]
    · rw [← Except.ok.inj h]
    · cases h
  | _ => cases h

lemma normalizeGroup_encodable : Keeps encodableMembers normalizeGroup := by
  intro group group' h
  rw [normalizeGroup] at h
  split at h
  · rw [← Except.ok.inj h]
  · rename_i hnull
    rw [← Except.ok.inj h, encodable_setMember_nil (Or.inr hnull)]
  · rename_i packages hpackages
    obtain ⟨normalized, hnormalized, h⟩ := bind_eq_ok.mp h
    rw [← Except.ok.inj h]
    apply encodable_setMember
    rw [getMember, hpackages, Option.getD_some, encodable, encodable, encodableItems_eq, encodableItems_eq]
    exact normalizePackage_encodable.mapM hnormalized
  · cases h

lemma objects_encodable {items : List Parsed} {maps : List Payload} (h : items.mapM Parsed.members? = some maps) :
    encodableItems items = maps.all encodableMembers := by
  induction items generalizing maps with
  | nil =>
    obtain rfl := Option.some.inj h
    rfl
  | cons item items ih =>
    rw [List.mapM_cons] at h
    obtain ⟨members, hitem, h⟩ := Option.bind_eq_some_iff.mp h
    obtain ⟨rest, hrest, h⟩ := Option.bind_eq_some_iff.mp h
    obtain rfl := Option.some.inj h
    cases item with
    | dict members' =>
      obtain rfl := Option.some.inj hitem
      rw [encodableItems, encodable, ih hrest, List.all_cons]
    | _ => cases hitem

lemma dicts_encodable (maps : List Payload) : encodableItems (maps.map .dict) = maps.all encodableMembers := by
  induction maps with
  | nil => rfl
  | cons members maps ih => rw [List.map_cons, encodableItems, encodable, ih, List.all_cons]

lemma listOrEmpty_encodable {message : String} {v : Option Parsed} {items : List Parsed}
    (h : listOrEmpty message v = .ok items) : encodable (v.getD .none) = encodableItems items := by
  cases v with
  | none =>
    obtain rfl := Except.ok.inj h
    rfl
  | some v =>
    cases v with
    | none | list _ =>
      obtain rfl := Except.ok.inj h
      rfl
    | _ => cases h

/-- The objects of a list keep their texts where each keeps its own. -/
lemma normalizeObjects_encodable {f : Payload → Except Raised Payload} (hf : Keeps encodableMembers f)
    {key message : String} {members : Payload} {w : Parsed} (h : normalizeObjects key message f members = .ok w) :
    encodable w = encodableMembers members := by
  obtain ⟨items, hitems, h⟩ := bind_eq_ok.mp h
  obtain ⟨objects, hobjects, h⟩ := bind_eq_ok.mp h
  obtain ⟨normalized, hnormalized, h⟩ := bind_eq_ok.mp h
  rw [← Except.ok.inj h, encodable]
  apply encodable_setMember
  rw [getMember, listOrEmpty_encodable hitems, encodable, dicts_encodable, objects_encodable (orRaise_eq_ok.mp hobjects)]
  exact hf.mapM hnormalized

lemma normalizeGitleaks_encodable : Keeps encodable normalizeGitleaks := by
  intro v w h
  cases v with
  | list items =>
    obtain ⟨-, -, h⟩ := bind_eq_ok.mp h
    rw [← Except.ok.inj h]
  | _ => cases h

lemma normalizeTrivy_encodable : Keeps encodable normalizeTrivy := by
  intro v w h
  cases v with
  | dict members =>
    obtain ⟨-, -, h⟩ := bind_eq_ok.mp h
    exact normalizeObjects_encodable (normalizeReport_encodable trivyLists) h
  | _ => cases h

lemma normalizeOsv_encodable : Keeps encodable normalizeOsv := by
  intro v w h
  cases v with
  | dict members =>
    obtain ⟨-, -, h⟩ := bind_eq_ok.mp h
    exact normalizeObjects_encodable normalizeGroup_encodable h
  | _ => cases h

lemma normalizeSemgrep_encodable : Keeps encodable normalizeSemgrep := by
  intro v w h
  cases v with
  | dict members =>
    rw [normalizeSemgrep] at h
    split at h
    · cases h
    · rename_i hnull
      rw [← Except.ok.inj h, encodable, encodable, encodable_setMember_nil (Or.inr hnull)]
    · rw [← Except.ok.inj h]
    · cases h
  | _ => cases h

/-- A result that satisfies the schema keeps its texts. -/
theorem normalizeScannerResult_encodable (capabilityId : String) :
    Keeps encodable (normalizeScannerResult capabilityId) := by
  intro v w h
  unfold normalizeScannerResult at h
  split at h
  · exact normalizeGitleaks_encodable v w h
  · exact normalizeTrivy_encodable v w h
  · exact normalizeOsv_encodable v w h
  · exact normalizeSemgrep_encodable v w h
  · rw [← Except.ok.inj h]

end Encoding

end SecScanMonitor.Capabilities
