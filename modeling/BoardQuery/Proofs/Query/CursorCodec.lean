import BoardQuery.Proofs.Calendar.Written
import BoardQuery.Proofs.Json.Bytes
import BoardQuery.Proofs.Query.KeyOrder
import BoardQuery.Proofs.Text.Base64

/-!
# Cursors read back

A cursor is issued for every row (`TaskOrder.issueCursor_row`), and it is read as the place of the
row (`TaskOrder.bound_cursorAfter`), with one exception. A cursor holds a moment to the microsecond,
but the store writes the stamps of its own clock without a fraction of a second: by these a cursor
is read as the place of the same task with its stamps written in full.
-/

namespace BoardQuery

open Json

namespace CursorValue

/-- Whether a value can be held by a cursor: a document that reads back, or a moment without a
zone. -/
def Holdable : CursorValue → Prop
  | .plain v => Writable v
  | .moment z => z.offset = none

theorem writable_written {v : CursorValue} (h : v.Holdable) : Writable v.written.1 := by
  rcases v with v | z
  · exact h
  · trivial

theorem readValue_written {v : CursorValue} (h : v.Holdable) :
    Cursor.readValue v.written.1 (.str v.written.2) = .ok v := by
  rcases v with v | ⟨m, offset⟩
  · rfl
  · obtain rfl : offset = none := h
    have hread := Iso.readStrict?_isoText m
    simp [Cursor.readValue, written, Json.str?, Json.isNull, hread]

end CursorValue

namespace TaskOrder

variable {o : TaskOrder} {flag : Int} {value : CursorValue}

theorem writable_cursorDocument (hflag : (Nat.toDigits 10 flag.natAbs).length ≤ maxIntegerDigits)
    (hvalue : value.Holdable) (id : String) :
    Writable (o.cursorDocument flag value (.str id)) := by
  have hnames : ["s", "m", "v", "t", "id"].Nodup := by decide
  refine ⟨hnames, ⟨trivial, trivial, trivial⟩, hflag, CursorValue.writable_written hvalue,
    trivial, trivial, trivial⟩

theorem issueCursor_eq (hflag : (Nat.toDigits 10 flag.natAbs).length ≤ maxIntegerDigits)
    (hvalue : value.Holdable) (id : String) :
    o.issueCursor flag value (.str id) = .ok (o.encodeCursor flag value (.str id)) := by
  have hshort := hasLongInteger_of_writable _ (writable_cursorDocument (o := o) hflag hvalue id)
  rw [issueCursor, hshort, if_neg Bool.false_ne_true]

/-- A cursor is read as what it was written for. -/
theorem read_encodeCursor (hflag : (Nat.toDigits 10 flag.natAbs).length ≤ maxIntegerDigits)
    (hvalue : value.Holdable) (id : String) :
    Cursor.read (o.encodeCursor flag value (.str id))
      = .ok (.ofStrings [o.sortBy, o.direction], ⟨flag, value, id⟩) := by
  have hbytes := Base64.decode_encode (o.cursorDocument flag value (.str id)).write.toUTF8.toList
  have hdocument := readBytes_write (writable_cursorDocument (o := o) hflag hvalue id)
  have hread := CursorValue.readValue_written hvalue
  set document := o.cursorDocument flag value (.str id) with hdoc
  have hs : Cursor.field document.fields "s" = .ok (.ofStrings [o.sortBy, o.direction]) := rfl
  have hm : Cursor.field document.fields "m" = .ok (.int flag) := rfl
  have hv : Cursor.field document.fields "v" = .ok value.written.1 := rfl
  have hid : Cursor.field document.fields "id" = .ok (.str id) := rfl
  have ht : Fields.get document.fields "t" = .str value.written.2 := rfl
  simp only [Cursor.read, encodeCursor, ← hdoc, hbytes, Option.elim_some, bind, Except.bind,
    hdocument, Except.mapError, hs, hm, hv, hid, ht, hread, Json.toInteger]
  rfl

theorem decodeCursor_encodeCursor
    (hflag : (Nat.toDigits 10 flag.natAbs).length ≤ maxIntegerDigits) (hvalue : value.Holdable)
    (id : String) :
    o.decodeCursor (o.encodeCursor flag value (.str id))
      = .ok ⟨flag, if flag == o.missingMarker then .plain .null else value, id⟩ := by
  rw [decodeCursor, read_encodeCursor hflag hvalue]
  simp only [bind, Except.bind, Json.elements, Json.ofStrings, List.map_cons, List.map_nil,
    Json.str?, bne_self_eq_false, Bool.false_eq_true, if_false]
  split_ifs <;> rfl

theorem flag_digits (o : TaskOrder) (c : Cell) :
    (Nat.toDigits 10 (o.flag c).natAbs).length ≤ maxIntegerDigits := by
  unfold flag missingMarker
  cases c.isNull <;> cases o.missing <;> decide

theorem fitsInteger_flag (o : TaskOrder) (c : Cell) : fitsInteger (o.flag c) = true := by
  unfold flag missingMarker
  cases c.isNull <;> cases o.missing <;> decide

end TaskOrder

theorem writable_toJson {c : Cell} (h : c.Sound) : Writable c.toJson := by
  rcases c with _ | n | x | s <;> first | trivial | skip
  have hbounds : -integerBound ≤ n ∧ n < integerBound := by
    have hfits : fitsInteger n = true := h
    simpa [fitsInteger] using hfits
  refine ((Nat.length_toDigits_le_iff (k := 19) (by decide) (by decide)).2 ?_).trans (by decide)
  simp only [integerBound] at hbounds
  omega

theorem cell_plain {c : Cell} (h : c.Sound) : CursorValue.cell (.plain c.toJson) = .ok c := by
  rcases c with _ | n | (_ | ⟨negative, code, le⟩) | s
  · rfl
  · have hfits : fitsInteger n = true := h
    simp [Cell.toJson, CursorValue.cell, hfits]
  · exact absurd rfl h
  · rfl
  · rfl

/-! ## Places of rows -/

/-- A stamp of the same moment that is written with its fraction, as a bound one is. -/
def Stamp.inFull (s : Stamp) : Stamp :=
  { s with byClock := false }

/-- A task with its stamps written in full. -/
def Task.inFull (t : Task) : Task :=
  { t with createdAt := t.createdAt.inFull, updatedAt := t.updatedAt.inFull }

namespace TaskOrder

variable {o : TaskOrder} {s : Store} {t : Task}

/-- An order whose key is not one of the stamps. -/
def Cursored (o : TaskOrder) : Prop :=
  o.key ≠ .native .createdAt ∧ o.key ≠ .native .updatedAt

theorem cell_inFull (h : ∀ a, o.key = .native a → t.inFull.cell a = t.cell a) :
    o.cell s t.inFull = o.cell s t := by
  rcases hkey : o.key with a | id
  · simp only [cell, hkey]
    exact h a hkey
  · simp only [cell, hkey]
    rfl

theorem Cursored.rowKey_inFull (ho : o.Cursored) (s : Store) (t : Task) :
    o.rowKey s t.inFull = o.rowKey s t := by
  have hcell : o.cell s t.inFull = o.cell s t := by
    refine cell_inFull fun a ha => ?_
    obtain ⟨hcreated, hupdated⟩ := ho
    rw [ha] at hcreated hupdated
    cases a
    case createdAt => exact absurd rfl hcreated
    case updatedAt => exact absurd rfl hupdated
    all_goals rfl
  simp only [rowKey, hcell]
  rfl

/-- Writing a stamp in full changes a text into another. -/
theorem cell_inFull_cases (o : TaskOrder) (s : Store) (t : Task) :
    o.cell s t.inFull = o.cell s t
      ∨ ∃ text text', o.cell s t.inFull = .text text ∧ o.cell s t = .text text' := by
  rcases hkey : o.key with a | id
  · simp only [cell, hkey]
    cases a
    case createdAt => exact .inr ⟨_, _, rfl, rfl⟩
    case updatedAt => exact .inr ⟨_, _, rfl, rfl⟩
    all_goals exact .inl rfl
  · simp only [cell, hkey]
    exact .inl rfl

theorem isNull_cell_inFull (o : TaskOrder) (s : Store) (t : Task) :
    (o.cell s t.inFull).isNull = (o.cell s t).isNull := by
  rcases o.cell_inFull_cases s t with h | ⟨_, _, h, h'⟩
  · rw [h]
  · rw [h, h']
    rfl

theorem sound_inFull (h : (o.cell s t).Sound) : (o.cell s t.inFull).Sound := by
  rcases o.cell_inFull_cases s t with h' | ⟨_, _, h', -⟩
  · rwa [h']
  · rw [h']
    trivial

theorem flag_cell_inFull (o : TaskOrder) (s : Store) (t : Task) :
    o.flag (o.cell s t.inFull) = o.flag (o.cell s t) := by
  rw [flag, flag, isNull_cell_inFull]

theorem holdable_cursorValue (h : (o.cell s t).Sound) : (o.cursorValue s t).Holdable := by
  unfold cursorValue
  split
  · split
    · rfl
    · exact writable_toJson h
  · exact writable_toJson h

/-- A cursor is issued for every row. -/
theorem issueCursor_row (h : (o.cell s t).Sound) :
    o.issueCursor (o.flag (o.cell s t)) (o.cursorValue s t) (.str t.id)
      = .ok (o.cursorAfter s t) :=
  issueCursor_eq (flag_digits o _) (holdable_cursorValue h) t.id

/-- The value that a cursor holds is compared as the cell of the row, with stamps in full. -/
theorem cell_cursorValue (h : (o.cell s t).Sound) :
    (o.cursorValue s t).cell = .ok (o.cell s t.inFull) := by
  have hplain := cell_plain h
  rcases hkey : o.key with a | id
  · unfold cursorValue
    simp only [hkey]
    rcases hmoment : t.moment? a with _ | m
    · rw [hplain, cell_inFull]
      intro a' ha'
      obtain rfl := OrderKey.native.inj (hkey.symm.trans ha')
      cases a <;> first | rfl | exact absurd hmoment (by simp [Task.moment?])
    · have hcell : t.inFull.cell a = .text m.microText := by
        cases a <;> simp_all [Task.moment?, Task.cell, Cell.ofMoment?, Cell.ofText?, Task.inFull,
          Stamp.inFull, Stamp.text]
      simp only [cell, hkey, hcell]
      rfl
  · unfold cursorValue
    simp only [hkey]
    rw [hplain, cell_inFull fun a ha => by simp [hkey] at ha]

/-- The form that an order gives to what it is compared with leaves the cells of its rows alone. -/
theorem affinity_cell (o : TaskOrder) (s : Store) (t : Task) :
    o.affinity.apply (o.cell s t.inFull) = o.cell s t.inFull := by
  rcases hkey : o.key with a | id
  · have hmoment (m : Option Moment) :
        Affinity.numeric.apply (Cell.ofMoment? m) = Cell.ofMoment? m := by
      rcases m with _ | m
      · rfl
      · simp [Cell.ofMoment?, Cell.ofText?, Affinity.apply, readLiteral?_microText]
    have htext (m : Option String) : Affinity.text.apply (Cell.ofText? m) = Cell.ofText? m := by
      rcases m with _ | m <;> rfl
    simp only [affinity, cell, hkey]
    cases a
    case createdAt => exact hmoment (some t.createdAt.moment)
    case updatedAt => exact hmoment (some t.updatedAt.moment)
    case dueDate => exact hmoment _
    case startDate => exact hmoment _
    case completedAt => exact hmoment _
    case archivedAt => exact hmoment _
    case description => exact htext _
    case assignee => exact htext _
    case creator => exact htext _
    all_goals rfl
  · simp only [affinity, hkey]
    rfl

theorem flag_beq_missingMarker (o : TaskOrder) (c : Cell) :
    (o.flag c == o.missingMarker) = c.isNull := by
  unfold flag missingMarker
  cases c.isNull <;> cases o.missing <;> rfl

theorem isNull_cursorValue (h : (o.cell s t).isNull = false) :
    (o.cursorValue s t).isNull = false := by
  have hplain : (CursorValue.plain (o.cell s t).toJson).isNull = false := by
    cases hc : o.cell s t <;> rw [hc] at h <;> first | rfl | exact h
  unfold cursorValue
  split
  · split
    · rfl
    · exact hplain
  · exact hplain

/-- The cursor of a row is taken back as the place of the row, with stamps in full. -/
theorem bound_cursorAfter (h : (o.cell s t).Sound) :
    (do o.bound (← o.decodeCursor (o.cursorAfter s t)))
      = .ok (boundOf (o.rowKey s t.inFull)) := by
  have hflag := fitsInteger_flag o (o.cell s t)
  have hnull' := o.isNull_cell_inFull s t
  rw [cursorAfter, decodeCursor_encodeCursor (flag_digits o _) (holdable_cursorValue h)]
  simp only [bind, Except.bind, bound, boundOf, rowKey, flag_beq_missingMarker, flag_cell_inFull]
  by_cases hnull : (o.cell s t).isNull = true
  · simp [hnull, hnull', CursorValue.cell, CursorValue.isNull, Json.isNull, hflag]
    rfl
  · rw [Bool.not_eq_true] at hnull
    simp [hnull, hnull', cell_cursorValue h, isNull_cursorValue hnull, affinity_cell, hflag]
    rfl

end TaskOrder

end BoardQuery
