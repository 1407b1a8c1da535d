import BoardQuery.Proofs.Outcome
import BoardQuery.Query.Page
import Mathlib.Order.Basic

/-!
# Texts sent as cursors

A client may send any text as a cursor. Most texts are taken or refused in words, but the checks
have gaps: a flag that is infinite, and an order that is stated as nothing, a truth value or a
number, end the reading in a fault (`decodeCursor_outcome`). Of what is read, the store can compare
with some of it only: a truth value, an array or an object, and an integer beyond 64 bits, are
faults later on (`bound_outcome`). So a text has its answer exactly if the order takes it
(`TaskOrder.Takes`, `place_outcome`).
-/

namespace BoardQuery

namespace Json

/-- Whether a value has nothing that could be taken one after another. -/
inductive Single : Json → Prop
  | null : Single .null
  | bool (b : Bool) : Single (.bool b)
  | int (n : Int) : Single (.int n)
  | num (x : Binary64) : Single (.num x)

theorem elements_eq_error {v : Json} {f : Fault} :
    v.elements = .error f ↔ v.Single ∧ f = .wrongShape := by
  constructor
  · intro h
    cases v <;> simp only [elements, reduceCtorEq, Except.error.injEq] at h
    all_goals
      subst h
      exact ⟨by constructor, rfl⟩
  · rintro ⟨hsingle, rfl⟩
    cases hsingle <;> rfl

theorem truncate?_eq_none {negative : Bool} {code : Nat} {le : code ≤ infinityCode}
    (h : (Binary64.signed negative code le).truncate? = none) : code = infinityCode := by
  by_contra hfinite
  have hfin : (Binary64.signed negative code le).isFinite = true := bne_iff_ne.2 hfinite
  rw [Binary64.truncate?, if_pos hfin] at h
  exact absurd h (by simp [Binary64.units?])

theorem infinity_eq (negative : Bool) (le : infinityCode ≤ infinityCode) :
    Binary64.infinity negative = .signed negative infinityCode le := by
  simp [Binary64.infinity, Binary64.ofCode]

/-- Only infinite numbers are too large to stand for an integer. -/
theorem toInteger_eq_outOfRange {v : Json} :
    v.toInteger = .error .outOfRange ↔ ∃ negative, v = .num (.infinity negative) := by
  constructor
  · intro h
    cases v with
    | num x =>
      rcases x with _ | ⟨negative, code, le⟩
      · exact absurd h (by simp [toInteger])
      · simp only [toInteger] at h
        split at h
        · exact absurd h (by simp)
        · rename_i hnone
          obtain rfl := truncate?_eq_none hnone
          exact ⟨negative, by rw [infinity_eq]⟩
    | str s =>
      simp only [toInteger] at h
      split at h <;> exact absurd h (by simp)
    | _ => exact absurd h (by simp [toInteger])
  · rintro ⟨negative, rfl⟩
    have hnone : (Binary64.infinity negative).truncate? = none := by
      rw [Binary64.truncate?, if_neg]
      simp [Binary64.infinity, Binary64.ofCode, Binary64.isFinite]
    rw [infinity_eq negative (Nat.le_refl _)] at hnone ⊢
    simp only [toInteger, hnone]

theorem toInteger_eq_error {v : Json} {f : Fault} (h : v.toInteger = .error f) :
    Cursor.unreadable f = .unreadable .cursor ∨ f = .outOfRange := by
  cases v with
  | num x =>
    rcases x with _ | ⟨negative, code, le⟩
    · obtain rfl := Except.error.inj h
      exact .inl rfl
    · simp only [toInteger] at h
      split at h
      · exact absurd h (by simp)
      · exact .inr (Except.error.inj h).symm
  | str s =>
    simp only [toInteger] at h
    split at h
    · exact absurd h (by simp)
    · obtain rfl := Except.error.inj h
      exact .inl rfl
    · obtain rfl := Except.error.inj h
      exact .inl rfl
  | null | arr | obj =>
    obtain rfl := Except.error.inj h
    exact .inl rfl
  | _ => exact absurd h (by simp [toInteger])

end Json

/-! ## Reading -/

namespace Cursor

variable {text : String} {fields : Fields} {f : Fault}

/-- Whether the document inside a text has certain fields. -/
def Holds (text : String) (fields : Fields) : Prop :=
  ∃ bytes document, Base64.decode text.toUTF8.toList = some bytes
    ∧ Json.readBytes bytes = .ok document ∧ document.fields = fields

/-- Whether the document inside a text states an order, and an infinite number as the flag. -/
def UnboundedFlag (text : String) : Prop :=
  ∃ fields sort negative, Holds text fields ∧ Fields.get? fields "s" = some sort
    ∧ Fields.get? fields "m" = some (.num (.infinity negative))

theorem field_eq_ok {name : String} {v : Json} :
    field fields name = .ok v ↔ Fields.get? fields name = some v := by
  unfold field
  split <;> simp_all

theorem field_eq_error {name : String} (h : field fields name = .error f) :
    f = .unreadable .cursor := by
  unfold field at h
  split at h
  · exact absurd h (by simp)
  · exact (Except.error.inj h).symm

theorem readValue_eq_error {v kind : Json} (h : readValue v kind = .error f) :
    f = .unreadable .cursor := by
  unfold readValue at h
  split_ifs at h
  split at h
  · exact absurd h (by simp)
  · exact (Except.error.inj h).symm

theorem mapError_unreadable_eq_error {v : Json} (h : v.toInteger.mapError unreadable = .error f) :
    f = .unreadable .cursor
      ∨ f = .outOfRange ∧ ∃ negative, v = .num (.infinity negative) := by
  rcases hinteger : v.toInteger with e | n
  · rw [hinteger] at h
    obtain rfl := Except.error.inj h
    rcases Json.toInteger_eq_error hinteger with hcursor | rfl
    · exact .inl hcursor
    · exact .inr ⟨rfl, Json.toInteger_eq_outOfRange.1 hinteger⟩
  · rw [hinteger] at h
    exact absurd h (by simp [Except.mapError])

/-- What a text without a document is read as. -/
theorem read_of_not_holds (h : ∀ fields, ¬ Holds text fields) :
    read text = .error (.unreadable .cursor) := by
  rw [read]
  rcases hbytes : Base64.decode text.toUTF8.toList with _ | bytes
  · rfl
  · rcases hdocument : Json.readBytes bytes with e | document
    · rw [Option.elim_some, ok_bind, hdocument]
      rfl
    · exact absurd ⟨bytes, document, hbytes, hdocument, rfl⟩ (h document.fields)

/-- What ends the reading of a text is an error in words, or its flag is infinite. -/
theorem read_eq_error (h : read text = .error f) :
    f = .unreadable .cursor ∨ f = .outOfRange ∧ UnboundedFlag text := by
  by_cases hholds : ∃ fields, Holds text fields
  · obtain ⟨fields, bytes, document, hbytes, hdocument, rfl⟩ := hholds
    rw [read, hbytes, Option.elim_some, ok_bind, hdocument] at h
    simp only [Except.mapError, ok_bind, bind_eq_error] at h
    -- One case for each step of the reading; only the flag may fail without words.
    rcases h with h | ⟨sort, hsort, h | ⟨flag, hflag, h | ⟨n, -, h | ⟨v, -, h | ⟨id, -, h |
      ⟨z, -, h⟩⟩⟩⟩⟩⟩
    · exact .inl (field_eq_error h)
    · exact .inl (field_eq_error h)
    · rcases mapError_unreadable_eq_error h with hcursor | ⟨hrange, negative, rfl⟩
      · exact .inl hcursor
      · exact .inr ⟨hrange, _, sort, negative, ⟨bytes, document, hbytes, hdocument, rfl⟩,
          field_eq_ok.1 hsort, field_eq_ok.1 hflag⟩
    · exact .inl (field_eq_error h)
    · exact .inl (field_eq_error h)
    · exact .inl (readValue_eq_error h)
    · exact absurd h (by simp [pure, Except.pure])
  · rw [read_of_not_holds (not_exists.1 hholds)] at h
    exact .inl (Except.error.inj h).symm

theorem read_of_unboundedFlag (h : UnboundedFlag text) : read text = .error .outOfRange := by
  obtain ⟨fields, sort, negative, ⟨bytes, document, hbytes, hdocument, rfl⟩, hsort, hflag⟩ := h
  have hinteger := Json.toInteger_eq_outOfRange.2 ⟨negative, rfl⟩
  rw [read, hbytes, Option.elim_some, ok_bind, hdocument]
  simp only [Except.mapError, ok_bind, field_eq_ok.2 hsort, field_eq_ok.2 hflag, hinteger]
  rfl

/-- Whether a text gets past the checks that refuse texts in words: its flag is infinite, or all of
it is read and the order is stated as a value that holds nothing. -/
inductive Strays (text : String) : Prop
  | flag (h : UnboundedFlag text)
  | order {sort : Json} {cursor : Cursor} (hread : read text = .ok (sort, cursor))
    (hsort : sort.Single)

end Cursor

/-- Whether a value is one that the store can compare with. -/
def CursorValue.Comparable : CursorValue → Prop
  | .plain (.int n) => fitsInteger n = true
  | .plain (.bool _) | .plain (.arr _) | .plain (.obj _) => False
  | _ => True

/-- Whether the store can compare with what a cursor says. -/
structure Cursor.Comparable (c : Cursor) : Prop where
  flag : fitsInteger c.flag = true
  value : c.value.Comparable

namespace TaskOrder

variable {o : TaskOrder} {text : String} {f : Fault}

theorem decodeCursor_of_read {sort : Json} {cursor : Cursor} {stated : List Json}
    (hread : Cursor.read text = .ok (sort, cursor)) (hstated : sort.elements = .ok stated) :
    o.decodeCursor text = .error (.unreadable .cursorOfOtherSort)
      ∨ ∃ taken, o.decodeCursor text = .ok taken := by
  rw [decodeCursor, hread, ok_bind]
  simp only [hstated, ok_bind, error_bind]
  split_ifs
  · exact .inl rfl
  · exact .inr ⟨_, rfl⟩
  · exact .inr ⟨_, rfl⟩

/-- What a text comes to as a cursor: it is taken or refused in words, whatever the order, unless it
strays. -/
theorem decodeCursor_outcome (o : TaskOrder) (text : String) :
    ¬ Cursor.Strays text ∧ ((∃ cursor, o.decodeCursor text = .ok cursor)
        ∨ o.decodeCursor text = .error (.unreadable .cursor)
        ∨ o.decodeCursor text = .error (.unreadable .cursorOfOtherSort))
      ∨ Cursor.Strays text ∧ (o.decodeCursor text = .error .outOfRange
        ∨ o.decodeCursor text = .error .wrongShape) := by
  -- An infinite flag ends the reading whatever else the text holds, so it comes first.
  by_cases hflag : Cursor.UnboundedFlag text
  · refine .inr ⟨.flag hflag, .inl ?_⟩
    rw [decodeCursor, Cursor.read_of_unboundedFlag hflag]
    rfl
  rcases hread : Cursor.read text with f | ⟨sort, cursor⟩
  · obtain rfl := (Cursor.read_eq_error hread).resolve_right fun h => hflag h.2
    refine .inl ⟨?_, .inr (.inl ?_)⟩
    · rintro (h | ⟨h, -⟩)
      · exact hflag h
      · exact absurd (hread.symm.trans h) (by simp)
    · rw [decodeCursor, hread]
      rfl
  rcases hstated : sort.elements with f | stated
  · obtain ⟨hsingle, rfl⟩ := Json.elements_eq_error.1 hstated
    refine .inr ⟨.order hread hsingle, .inr ?_⟩
    rw [decodeCursor, hread, ok_bind]
    simp only [hstated]
    rfl
  · refine .inl ⟨?_, ?_⟩
    · rintro (h | ⟨h, hsingle⟩)
      · exact hflag h
      · obtain ⟨rfl, -⟩ := Prod.mk.inj (Except.ok.inj (hread.symm.trans h))
        have herror := Json.elements_eq_error.2 ⟨hsingle, rfl⟩
        exact absurd (hstated.symm.trans herror) (by simp)
    · rcases decodeCursor_of_read (o := o) hread hstated with h | h
      · exact .inr (.inr h)
      · exact .inl h

theorem cell_outcome (v : CursorValue) :
    v.Comparable ∧ (∃ cell, v.cell = .ok cell)
      ∨ ¬ v.Comparable ∧ (v.cell = .error .outOfRange ∨ v.cell = .error .refused) := by
  rcases v with (_ | b | n | (_ | _) | s | items | fields) | z
  case plain.int =>
    by_cases hfits : fitsInteger n = true
    · exact .inl ⟨hfits, _, if_pos hfits⟩
    · exact .inr ⟨hfits, .inl (if_neg hfits)⟩
  case plain.bool | plain.arr | plain.obj => exact .inr ⟨id, .inr rfl⟩
  all_goals exact .inl ⟨trivial, _, rfl⟩

theorem bound_outcome (o : TaskOrder) (cursor : Cursor) :
    cursor.Comparable ∧ (∃ bound, o.bound cursor = .ok bound)
      ∨ ¬ cursor.Comparable ∧ (o.bound cursor = .error .outOfRange
        ∨ o.bound cursor = .error .refused) := by
  rcases cell_outcome cursor.value with ⟨hvalue, cell, hcell⟩ | ⟨hvalue, hcell⟩
  · rw [bound, hcell, ok_bind]
    by_cases hflag : fitsInteger cursor.flag = true
    · refine .inl ⟨⟨hflag, hvalue⟩, ?_⟩
      simp only [hflag, Bool.not_true, Bool.false_eq_true, if_false]
      exact ⟨_, rfl⟩
    · refine .inr ⟨fun h => hflag h.flag, .inl ?_⟩
      rw [if_pos (by simpa using hflag)]
      rfl
  · refine .inr ⟨fun h => hvalue h.value, hcell.imp (fun h => ?_) fun h => ?_⟩
    all_goals
      rw [bound, h]
      rfl

/-- The place in an order that a text stands for. -/
def place (o : TaskOrder) (text : String) : Except Fault Bound :=
  o.decodeCursor text >>= o.bound

/-- Whether an order has an answer to a text that is sent as its cursor: a page or a refusal. -/
structure Takes (o : TaskOrder) (text : String) : Prop where
  read : ¬ Cursor.Strays text
  compared : ∀ cursor, o.decodeCursor text = .ok cursor → cursor.Comparable

/-- An order has a place for the texts that it takes, or refuses them in words. Others are faults
without words. -/
theorem place_outcome (o : TaskOrder) (text : String) :
    o.Takes text ∧ ((∃ bound, o.place text = .ok bound)
        ∨ o.place text = .error (.unreadable .cursor)
        ∨ o.place text = .error (.unreadable .cursorOfOtherSort))
      ∨ ¬ o.Takes text ∧ ∃ f, o.place text = .error f ∧ (Refusal.fault f).text? = none := by
  unfold place
  rcases o.decodeCursor_outcome text with ⟨hstrays, ⟨cursor, h⟩ | h | h⟩ | ⟨hstrays, h | h⟩
  · rw [h, ok_bind]
    rcases o.bound_outcome cursor with ⟨hcomparable, hbound⟩ | ⟨hcomparable, hbound⟩
    · refine .inl ⟨⟨hstrays, fun cursor' h' => ?_⟩, .inl hbound⟩
      obtain rfl := Except.ok.inj (h.symm.trans h')
      exact hcomparable
    · refine .inr ⟨fun htakes => hcomparable (htakes.compared cursor h), ?_⟩
      rcases hbound with hbound | hbound
      · exact ⟨_, hbound, rfl⟩
      · exact ⟨_, hbound, rfl⟩
  · refine .inl ⟨⟨hstrays, fun cursor h' => absurd (h.symm.trans h') (by simp)⟩, .inr (.inl ?_)⟩
    rw [h, error_bind]
  · refine .inl ⟨⟨hstrays, fun cursor h' => absurd (h.symm.trans h') (by simp)⟩, .inr (.inr ?_)⟩
    rw [h, error_bind]
  · exact .inr ⟨fun htakes => htakes.read hstrays, _, by rw [h, error_bind], rfl⟩
  · exact .inr ⟨fun htakes => htakes.read hstrays, _, by rw [h, error_bind], rfl⟩

end TaskOrder

end BoardQuery
