import SecScanMonitor.Domain.Errors
import SecScanMonitor.Foundations.Base64
import SecScanMonitor.Foundations.CodePoints
import SecScanMonitor.Foundations.Numerals
import SecScanMonitor.Foundations.SortBy
import SecScanMonitor.Foundations.Table

/-! The pages of a listing and the cursors that lead from one to the next (`read_models.py`, and `_read_window`
and `_read_page` of `persistence/repositories.py`). -/

namespace SecScanMonitor.ReadModels

open Foundations Domain

section Cursors

/-- `_encode_cursor` -/
def encodeCursor (offset : ℕ) : Except Raised Str := do
  let digits ← orRaise (Numerals.write offset) .valueError
    "Exceeds the limit (4300 digits) for integer string conversion"
  let letters := Base64.unpadded (Base64.encode (digits.map fun c => UInt8.ofNat c.toNat))
  return letters.map .scalar

def asciiPoint : CodePoint → Option Char
  | .scalar c => if c.toNat < 128 then some c else none
  | .surrogate _ => none

/-- `s.encode("ascii")` -/
def asciiText (s : Str) : Option (List Char) := s.mapM asciiPoint

/-- `bytes.decode("ascii")` -/
def asciiBytes (bytes : List UInt8) : Option (List Char) :=
  bytes.mapM fun b => if b.toNat < 128 then some (Char.ofNat b.toNat) else none

def offsetOf (cursor : Str) : Option ℤ := do
  let text ← asciiText cursor
  let bytes ← Base64.decode (Base64.padded text)
  let digits ← asciiBytes bytes
  Numerals.read digits

/-- `_decode_cursor` -/
def decodeCursor : Option Str → Except Raised ℕ
  | none => .ok 0
  | some cursor => do
    let offset ← orRaise (offsetOf cursor) .readModelError "invalid cursor"
    raiseIf (offset < 0) .readModelError "invalid cursor"
    return offset.toNat

lemma asciiBytes_map {digits : List Char} (h : ∀ c ∈ digits, c.toNat < 128) :
    asciiBytes (digits.map fun c => UInt8.ofNat c.toNat) = some digits := by
  induction digits with
  | nil => rfl
  | cons c digits ih =>
    obtain ⟨hc, hdigits⟩ := List.forall_mem_cons.mp h
    have hbyte : (UInt8.ofNat c.toNat).toNat = c.toNat := by
      rw [UInt8.toNat_ofNat', Nat.mod_eq_of_lt (by omega)]
    rw [asciiBytes, List.map_cons, List.mapM_cons, hbyte, if_pos hc, ← asciiBytes, ih hdigits, Char.ofNat_toNat]
    rfl

lemma asciiText_map {letters : List Char} (h : ∀ c ∈ letters, c.toNat < 128) :
    asciiText (letters.map .scalar) = some letters := by
  induction letters with
  | nil => rfl
  | cons c letters ih =>
    obtain ⟨hc, hletters⟩ := List.forall_mem_cons.mp h
    rw [asciiText, List.map_cons, List.mapM_cons, asciiPoint, if_pos hc, ← asciiText, ih hletters]
    rfl

/-- The offset of a cursor is read from it again. -/
lemma decodeCursor_encodeCursor {offset : ℕ} {cursor : Str} (h : encodeCursor offset = .ok cursor) :
    decodeCursor (some cursor) = .ok offset := by
  obtain ⟨digits, hdigits, h⟩ := orRaise_bind_eq_ok.mp h
  obtain rfl := Except.ok.inj h
  have hascii : ∀ c ∈ Base64.unpadded (Base64.encode (digits.map fun c => UInt8.ofNat c.toNat)), c.toNat < 128 :=
    fun c hc => Base64.ascii_of_encode ((List.rdropWhile_prefix _ _).subset hc)
  have hoffset : offsetOf ((Base64.unpadded (Base64.encode (digits.map fun c => UInt8.ofNat c.toNat))).map .scalar) =
      some (offset : ℤ) := by
    rw [offsetOf]
    simp only [asciiText_map hascii, Base64.padded_unpadded_encode, Base64.decode_encode,
      asciiBytes_map (Numerals.ascii_of_write hdigits), Option.bind_eq_bind, Option.bind_some]
    exact Numerals.read_write hdigits
  rw [decodeCursor, hoffset]
  rfl

end Cursors

section Pages

variable {α : Type}

structure CursorPage (α : Type) where
  items : List α
  nextCursor : Option Str
  limit : ℤ
  bounded : 1 ≤ limit ∧ limit ≤ 100

def checkLimit (limit : ℤ) : Except Raised Unit :=
  raiseIf (¬ (1 ≤ limit ∧ limit ≤ 100)) .readModelError "limit must be between 1 and 100"

/-- The page as its model takes it. -/
def cursorPage (items : List α) (nextCursor : Option Str) (limit : ℤ) : Except Raised (CursorPage α) :=
  if h : 1 ≤ limit ∧ limit ≤ 100 then .ok ⟨items, nextCursor, limit, h⟩
  else if limit < 1 then raise .validationError "Input should be greater than or equal to 1"
  else raise .validationError "Input should be less than or equal to 100"

/-- `_encode_cursor(offset) if c else None` -/
def cursorIf (c : Prop) [Decidable c] (offset : ℕ) : Except Raised (Option Str) :=
  if c then (encodeCursor offset).map some else .ok none

/-- `_page` -/
def page (items : List α) (cursor : Option Str) (limit : ℤ) : Except Raised (CursorPage α) := do
  checkLimit limit
  let offset ← decodeCursor cursor
  let pageItems := (items.drop offset).take limit.toNat
  let nextCursor ← cursorIf (offset + limit.toNat < items.length) (offset + limit.toNat)
  cursorPage pageItems nextCursor limit

/-- `_read_window` -/
def readWindow (cursor : Option Str) (limit : ℤ) : Except Raised (ℕ × ℕ) := do
  checkLimit limit
  let offset ← decodeCursor cursor
  return (offset, limit.toNat + 1)

/-- `_read_page` -/
def readPage (items : List α) (offset : ℕ) (limit : ℤ) : Except Raised (CursorPage α) := do
  let nextCursor ← cursorIf (limit.toNat < items.length) (offset + limit.toNat)
  cursorPage (if limit.toNat < items.length then items.take limit.toNat else items) nextCursor limit

/-- The largest offset of a query. -/
def maxOffset : ℕ := 2 ^ 63 - 1

/-- `OFFSET offset LIMIT fetch` of a query's rows -/
def window (rows : List α) (offset fetch : ℕ) : Except Raised (List α) := do
  raiseIf (maxOffset < offset) .dataError "bigint out of range"
  return (rows.drop offset).take fetch

/-- A listing of the repository: the page of a query's rows. -/
def readRows (rows : List α) (cursor : Option Str) (limit : ℤ) : Except Raised (CursorPage α) := do
  let (offset, fetch) ← readWindow cursor limit
  let items ← window rows offset fetch
  readPage items offset limit

/-- The next cursor is followed until there is none. -/
inductive Visits (fetch : Option Str → Except Raised (CursorPage α)) : Option Str → List α → Prop
  | last {cursor : Option Str} {p : CursorPage α} (hpage : fetch cursor = .ok p) (hnext : p.nextCursor = none) :
      Visits fetch cursor p.items
  | next {cursor : Option Str} {p : CursorPage α} {c : Str} {rest : List α} (hpage : fetch cursor = .ok p)
      (hnext : p.nextCursor = some c) (hrest : Visits fetch (some c) rest) : Visits fetch cursor (p.items ++ rest)

/-- Items with a key of their own. A list is no longer than the largest index. -/
structure Listing {κ : Type} (key : α → κ) extends Table key where
  sized : rows.length ≤ maxOffset

end Pages

section Steps

variable {α : Type} {items : List α} {limit : ℤ} {cursor : Option Str} {offset : ℕ}

/-- The page at an offset. -/
def pageAt (items : List α) (offset : ℕ) (limit : ℤ) : Except Raised (CursorPage α) := do
  let nextCursor ← cursorIf (offset + limit.toNat < items.length) (offset + limit.toNat)
  cursorPage ((items.drop offset).take limit.toNat) nextCursor limit

lemma page_eq (hlimit : 1 ≤ limit ∧ limit ≤ 100) (hcursor : decodeCursor cursor = .ok offset) :
    page items cursor limit = pageAt items offset limit := by
  rw [page, checkLimit, raiseIf, if_neg (not_not.mpr hlimit), ok_bind, hcursor, ok_bind]
  rfl

lemma readRows_eq (hlimit : 1 ≤ limit ∧ limit ≤ 100) (hcursor : decodeCursor cursor = .ok offset)
    (hoffset : offset ≤ maxOffset) : readRows items cursor limit = pageAt items offset limit := by
  rw [readRows, readWindow, checkLimit, raiseIf, if_neg (not_not.mpr hlimit), ok_bind, hcursor, ok_bind]
  change (window items offset (limit.toNat + 1) >>= fun rows => readPage rows offset limit) = _
  rw [window, raiseIf, if_neg (not_lt.mpr hoffset), ok_bind]
  change readPage ((items.drop offset).take (limit.toNat + 1)) offset limit = _
  rw [readPage, pageAt, List.length_take, List.length_drop]
  have hmore : limit.toNat < min (limit.toNat + 1) (items.length - offset) ↔ offset + limit.toNat < items.length := by
    omega
  by_cases h : offset + limit.toNat < items.length
  · rw [if_pos (hmore.mpr h), cursorIf, if_pos (hmore.mpr h), cursorIf, if_pos h, List.take_take,
      Nat.min_eq_left (Nat.le_succ _)]
  · have hall : (items.drop offset).length ≤ limit.toNat := by
      rw [List.length_drop]
      omega
    rw [if_neg (hmore.not.mpr h), cursorIf, if_neg (hmore.not.mpr h), cursorIf, if_neg h,
      List.take_of_length_le hall, List.take_of_length_le (by omega)]

lemma encodeCursor_isOk (h : offset < 10 ^ 19) : ∃ c, encodeCursor offset = .ok c := by
  obtain ⟨digits, hdigits⟩ : ∃ digits, Numerals.write offset = some digits :=
    Numerals.write_isSome (lt_of_lt_of_le h (Nat.pow_le_pow_right (by decide) (by decide)))
  exact ⟨_, by rw [encodeCursor, hdigits]; rfl⟩

lemma maxOffset_lt : maxOffset < 10 ^ 19 := by decide

/-- A page is what stands at its offset, and its cursor leads to the offset after it, if there are items there. -/
lemma pageAt_isOk (hlimit : 1 ≤ limit ∧ limit ≤ 100)
    (hsized : offset + limit.toNat < items.length → offset + limit.toNat ≤ maxOffset) :
    ∃ p, pageAt items offset limit = .ok p ∧ p.items = (items.drop offset).take limit.toNat ∧
      ((items.length ≤ offset + limit.toNat ∧ p.nextCursor = none) ∨
        offset + limit.toNat < items.length ∧ ∃ c, p.nextCursor = some c ∧
          decodeCursor (some c) = .ok (offset + limit.toNat)) := by
  rw [pageAt]
  by_cases h : offset + limit.toNat < items.length
  · obtain ⟨c, hc⟩ := encodeCursor_isOk (lt_of_le_of_lt (hsized h) maxOffset_lt)
    refine ⟨⟨(items.drop offset).take limit.toNat, some c, limit, hlimit⟩, ?_, rfl, Or.inr ⟨h, c, rfl, ?_⟩⟩
    · rw [cursorIf, if_pos h, hc]
      change cursorPage _ (some c) limit = _
      rw [cursorPage, dif_pos hlimit]
    · exact decodeCursor_encodeCursor hc
  · refine ⟨⟨(items.drop offset).take limit.toNat, none, limit, hlimit⟩, ?_, rfl, Or.inl ⟨not_lt.mp h, rfl⟩⟩
    rw [cursorIf, if_neg h, ok_bind, cursorPage, dif_pos hlimit]

end Steps

section Traversal

variable {α : Type} {fetch : Option Str → Except Raised (CursorPage α)} {items visited : List α} {limit : ℤ}

/-- From an offset the rest of the items is visited, a page after another. -/
lemma visits_drop (hlimit : 1 ≤ limit ∧ limit ≤ 100) (hsized : items.length ≤ maxOffset)
    (hfetch : ∀ cursor offset, decodeCursor cursor = .ok offset → offset ≤ items.length →
      fetch cursor = pageAt items offset limit)
    {cursor : Option Str} {offset : ℕ} (hcursor : decodeCursor cursor = .ok offset) (hoffset : offset ≤ items.length) :
    Visits fetch cursor (items.drop offset) := by
  induction hleft : items.length - offset using Nat.strong_induction_on generalizing cursor offset with
  | _ left ih =>
    obtain ⟨p, hp, hitems, hnext⟩ : ∃ p, pageAt items offset limit = .ok p ∧ _ :=
      pageAt_isOk hlimit fun h => h.le.trans hsized
    have hpage := (hfetch cursor offset hcursor hoffset).trans hp
    rcases hnext with ⟨hend, hnone⟩ | ⟨hmore, c, hc, hdecode⟩
    · have hrest : p.items = items.drop offset := by
        rw [hitems, List.take_of_length_le]
        rw [List.length_drop]
        omega
      rw [← hrest]
      exact .last hpage hnone
    · have hsplit : items.drop offset = p.items ++ items.drop (offset + limit.toNat) := by
        rw [hitems, ← List.drop_drop, List.take_append_drop]
      rw [hsplit]
      exact .next hpage hc (ih _ (by omega) hdecode (by omega) rfl)

/-- A traversal visits one list. -/
lemma Visits.unique {cursor : Option Str} {other : List α} (h : Visits fetch cursor visited)
    (hother : Visits fetch cursor other) : visited = other := by
  induction h generalizing other with
  | last hpage hnext =>
    cases hother with
    | last hpage' hnext' => rw [Except.ok.inj (hpage.symm.trans hpage')]
    | next hpage' hnext' hrest' =>
      obtain rfl := Except.ok.inj (hpage.symm.trans hpage')
      rw [hnext] at hnext'
      cases hnext'
  | next hpage hnext hrest ih =>
    cases hother with
    | last hpage' hnext' =>
      obtain rfl := Except.ok.inj (hpage.symm.trans hpage')
      rw [hnext] at hnext'
      cases hnext'
    | next hpage' hnext' hrest' =>
      obtain rfl := Except.ok.inj (hpage.symm.trans hpage')
      obtain rfl := Option.some.inj (hnext.symm.trans hnext')
      rw [ih hrest']

/-- A traversal from the beginning visits the items, and nothing else. -/
lemma visits_iff (hlimit : 1 ≤ limit ∧ limit ≤ 100) (hsized : items.length ≤ maxOffset)
    (hfetch : ∀ cursor offset, decodeCursor cursor = .ok offset → offset ≤ items.length →
      fetch cursor = pageAt items offset limit) : Visits fetch none visited ↔ visited = items := by
  have hvisits : Visits fetch none items := visits_drop hlimit hsized hfetch rfl (Nat.zero_le _)
  constructor
  · exact fun h => h.unique hvisits
  · rintro rfl
    exact hvisits

end Traversal

section Listings

variable {α κ : Type} [LinearOrder κ]

/-- A listing is paged as it should be: following the cursors visits its items in order, each once, in memory and
in the database, in whatever order that holds its rows; the two give the same pages for every offset of a query;
and a cursor is read back. -/
structure Paginates (key : α → κ) (items : Listing key) : Prop where
  memory : ∀ limit : ℤ, 1 ≤ limit → limit ≤ 100 → ∀ visited,
    Visits (fun cursor => page items.rows cursor limit) none visited ↔ visited = items.rows
  repository : ∀ limit : ℤ, 1 ≤ limit → limit ≤ 100 → ∀ fetch : Option Str → Except Raised (CursorPage α),
    (∀ cursor, ∃ stored, stored.Perm items.rows ∧ fetch cursor = readRows (sortBy key stored) cursor limit) →
    ∀ visited, Visits fetch none visited ↔ visited = sortBy key items.rows
  agree : ∀ (cursor : Option Str) (limit : ℤ), (∀ offset, decodeCursor cursor = .ok offset → offset ≤ maxOffset) →
    readRows items.rows cursor limit = page items.rows cursor limit
  cursors : ∀ offset cursor, encodeCursor offset = .ok cursor → decodeCursor (some cursor) = .ok offset

lemma readRows_eq_page {items : List α} {cursor : Option Str} {limit : ℤ}
    (hcursor : ∀ offset, decodeCursor cursor = .ok offset → offset ≤ maxOffset) :
    readRows items cursor limit = page items cursor limit := by
  by_cases hlimit : 1 ≤ limit ∧ limit ≤ 100
  · cases hoffset : decodeCursor cursor with
    | ok offset => rw [readRows_eq hlimit hoffset (hcursor offset hoffset), page_eq hlimit hoffset]
    | error e =>
      rw [readRows, readWindow, page, checkLimit, raiseIf, if_neg (not_not.mpr hlimit), ok_bind, ok_bind, hoffset]
      rfl
  · rw [readRows, readWindow, page, checkLimit, raiseIf, if_pos hlimit]
    rfl

/-- Every listing is paged as it should be. -/
theorem paginates (key : α → κ) (items : Listing key) : Paginates key items where
  memory limit h₁ h₂ visited := visits_iff ⟨h₁, h₂⟩ items.sized fun _ _ hcursor _ => page_eq ⟨h₁, h₂⟩ hcursor
  repository limit h₁ h₂ fetch hfetch visited := by
    have hsized : (sortBy key items.rows).length ≤ maxOffset := by
      rw [sortBy_perm.length_eq]
      exact items.sized
    refine visits_iff ⟨h₁, h₂⟩ hsized fun cursor offset hcursor hoffset => ?_
    obtain ⟨stored, hstored, hpage⟩ := hfetch cursor
    rw [hpage, ← sortBy_eq_of_perm items.nodup hstored.symm]
    exact readRows_eq ⟨h₁, h₂⟩ hcursor (hoffset.trans hsized)
  agree cursor limit hcursor := readRows_eq_page hcursor
  cursors offset cursor h := decodeCursor_encodeCursor h

/-- A larger limit is refused, and an offset beyond those of a query is an error of the database alone. -/
theorem pages_refused : (∀ visited, ¬ Visits (fun cursor => page ["EN-1"] cursor 101) none visited) ∧
    ∃ cursor, encodeCursor (2 ^ 63) = .ok cursor ∧ (∃ p, page ["EN-1"] (some cursor) 50 = .ok p) ∧
      readRows ["EN-1"] (some cursor) 50 = raise .dataError "bigint out of range" := by
  constructor
  · intro visited h
    cases h with
    | last hpage _ => cases hpage
    | next hpage _ _ => cases hpage
  · obtain ⟨cursor, hcursor⟩ := encodeCursor_isOk (by decide : 2 ^ 63 < 10 ^ 19)
    have hdecode := decodeCursor_encodeCursor hcursor
    refine ⟨cursor, hcursor, ?_, ?_⟩
    · rw [page_eq (by decide) hdecode]
      obtain ⟨p, hp, -⟩ : ∃ p, pageAt ["EN-1"] (2 ^ 63) 50 = .ok p ∧ _ :=
        pageAt_isOk (by decide) fun h => absurd h (by decide)
      exact ⟨p, hp⟩
    · rw [readRows, readWindow, checkLimit, raiseIf, if_neg (by decide), ok_bind, hdecode]
      rfl

end Listings

end SecScanMonitor.ReadModels
