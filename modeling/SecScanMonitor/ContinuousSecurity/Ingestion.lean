import SecScanMonitor.ContinuousSecurity.Events

/-! What an ingestion can do to the plane (`SecurityEventPlane.ingest` of `continuous_security/events.py`). -/

namespace SecScanMonitor.ContinuousSecurity

open Foundations Domain DetectionResponse

namespace SecurityEventPlane

variable {codec : Codec} {plane : SecurityEventPlane} {e x : SecurityEvent}

lemma ingest_misnamed (hid : e.eventId ≠ expectedId codec e) : plane.ingest codec e =
    (raise .eventIdentityConflict "event_id does not match deterministic event identity", plane) := by
  unfold ingest
  rw [if_pos hid]

lemma ingest_kept (hid : e.eventId = expectedId codec e) (hx : plane.events.find? e.eventId = some x) :
    plane.ingest codec e =
      if x.fingerprint codec = e.fingerprint codec then (.ok ⟨x, false, true⟩, plane)
      else (raise .eventIdentityConflict
        ("event identity " ++ e.eventId ++ " was reused for different content"), plane) := by
  unfold ingest
  rw [if_neg (not_not.mpr hid), hx]
  by_cases hfp : x.fingerprint codec = e.fingerprint codec
  · simp only [hfp, ne_eq, not_true_eq_false, if_false, if_true]
  · simp only [hfp, ne_eq, not_false_eq_true, if_true, if_false]

/-- The plane has the event already, or room for it under its identity. -/
def Takes (codec : Codec) (plane : SecurityEventPlane) (e : SecurityEvent) : Prop :=
  (∃ x, plane.events.find? e.eventId = some x ∧ x.fingerprint codec = e.fingerprint codec) ∨
    plane.events.find? e.eventId = none ∧
      ∀ id ∈ plane.fingerprints.find? (e.fingerprint codec), id = e.eventId

/-- What an ingestion can do. -/
inductive Ingested (codec : Codec) (plane : SecurityEventPlane) (e : SecurityEvent) :
    Except Raised EventIngestResult × SecurityEventPlane → Prop
  | refused (x : Raised) (h : ¬ (e.eventId = expectedId codec e ∧ plane.Takes codec e)) :
      Ingested codec plane e (.error x, plane)
  | kept (x : SecurityEvent) (hx : plane.events.find? e.eventId = some x)
      (h : x.fingerprint codec = e.fingerprint codec) (r : EventIngestResult) :
      Ingested codec plane e (.ok r, plane)
  | added (hnone : plane.events.find? e.eventId = none) (h : plane.Takes codec e) (r : EventIngestResult)
      (fingerprints : Dict String String) :
      Ingested codec plane e (.ok r, ⟨plane.events.set e.eventId e, fingerprints⟩)

variable (codec plane e) in
lemma ingest_ingested : Ingested codec plane e (plane.ingest codec e) := by
  by_cases hid : e.eventId = expectedId codec e
  swap
  · rw [ingest_misnamed hid]
    exact .refused _ fun h => hid h.1
  cases hx : plane.events.find? e.eventId with
  | some x =>
    rw [ingest_kept hid hx]
    split
    · rename_i hsame
      exact .kept x hx hsame _
    · rename_i hother
      refine .refused _ ?_
      rintro ⟨-, ⟨y, hy, hsame⟩ | ⟨hnone, -⟩⟩
      · obtain rfl := Option.some.inj (hx.symm.trans hy)
        exact hother hsame
      · rw [hx] at hnone
        cases hnone
  | none =>
    unfold ingest
    rw [if_neg (not_not.mpr hid), hx]
    simp only
    split
    · rename_i hother
      refine .refused _ ?_
      rintro ⟨-, ⟨y, hy, -⟩ | ⟨-, hsingle⟩⟩
      · rw [hx] at hy
        cases hy
      · rw [Option.any_eq_true] at hother
        obtain ⟨id, hfound, hne⟩ := hother
        exact of_decide_eq_true hne (hsingle id hfound)
    · rename_i hsingle
      refine .added hx (Or.inr ⟨hx, fun id hid => ?_⟩) _ _
      rw [Bool.not_eq_true, Option.any_eq_false] at hsingle
      simpa using hsingle id hid

variable {r : Except Raised EventIngestResult × SecurityEventPlane}

lemma Ingested.extends (h : Ingested codec plane e r) {id : String} {x : SecurityEvent}
    (hx : plane.events.find? id = some x) : r.2.events.find? id = some x := by
  cases h with
  | refused _ _ => exact hx
  | kept _ _ _ _ => exact hx
  | added hnone _ _ _ =>
    have hne : id ≠ e.eventId := by
      rintro rfl
      rw [hnone] at hx
      cases hx
    exact (Dict.find?_set_of_ne _ _ hne).trans hx

lemma Ingested.origin (h : Ingested codec plane e r) {id : String} {x : SecurityEvent}
    (hx : r.2.events.find? id = some x) : plane.events.find? id = some x ∨ x = e := by
  cases h with
  | refused _ _ => exact Or.inl hx
  | kept _ _ _ _ => exact Or.inl hx
  | added _ _ _ _ => exact (Dict.find?_set_eq_some hx).symm.imp_right fun h => h.2

/-- An event that is taken is stored, or another one of its content was before. -/
lemma Ingested.stored (h : Ingested codec plane e r) {answer : EventIngestResult} (hr : r.1 = .ok answer) :
    ∃ x, r.2.events.find? e.eventId = some x ∧ x.fingerprint codec = e.fingerprint codec := by
  cases h with
  | refused _ _ => cases hr
  | kept x hx hsame _ => exact ⟨x, hx, hsame⟩
  | added _ _ _ _ => exact ⟨e, Dict.find?_set_self _ _ _, rfl⟩

lemma Ingested.extended (h : Ingested codec plane e r) : Table.Extends r.2.events plane.events := by
  cases h with
  | refused _ _ => exact Table.Extends.refl _
  | kept _ _ _ _ => exact Table.Extends.refl _
  | added hnone _ _ _ => exact Dict.extends_set hnone e

lemma Ingested.keyed (h : Ingested codec plane e r)
    (hkeyed : ∀ id x, plane.events.find? id = some x → x.eventId = id) :
    ∀ id x, r.2.events.find? id = some x → x.eventId = id := by
  intro id x hx
  cases h with
  | refused _ _ => exact hkeyed id x hx
  | kept _ _ _ _ => exact hkeyed id x hx
  | added _ _ _ _ =>
    rcases Dict.find?_set_eq_some hx with ⟨rfl, rfl⟩ | hold
    · rfl
    · exact hkeyed id x hold

/-- What is taken under a new identity is added. -/
lemma Ingested.set (h : Ingested codec plane e r) (hnew : plane.events.find? e.eventId = none)
    {answer : EventIngestResult} (hr : r.1 = .ok answer) : r.2.events = plane.events.set e.eventId e := by
  cases h with
  | refused _ _ => cases hr
  | kept x hx _ _ =>
    rw [hnew] at hx
    cases hx
  | added _ _ _ _ => rfl

end SecurityEventPlane

end SecScanMonitor.ContinuousSecurity
