import BoardQuery.Proofs.Outcome
import BoardQuery.Proofs.Query.CursorCodec

/-!
# Keys in cursors

A key that is put into a cursor comes out of it again under every order of the same column and
direction, and no other order takes the cursor back (`decodeCursor_lossless`). The one limit is the
length of integers: no cursor is issued for a key with an integer of more digits than are written
(`issueCursor_tooLong`), and a text that holds one all the same is no cursor, for a document with
such an integer is not read (`decodeCursor_tooLong`).
-/

namespace BoardQuery

namespace Json

/-! ## Integers that are too long -/

/-- Whether an integer has more digits than the reader takes. -/
def TooLong (n : Int) : Prop :=
  maxIntegerDigits < (Nat.toDigits 10 n.natAbs).length

section TooLong

variable {n : Int} (hlong : TooLong n)

include hlong

theorem readNumberTail_tooLong {rest : List Char} (hrest : Ends rest) (negative : Bool) :
    ∃ e, readNumberTail negative (Nat.toDigits 10 n.natAbs ++ rest) = .error e := by
  rw [readNumberTail_append (isWhole_toDigits _) hrest.not_isDigit, numberAfter]
  simp only [hrest.spanFraction, hrest.spanExponent, Option.map_none, Option.getD_none,
    Option.isNone_none, Bool.and_self, if_true]
  exact ⟨_, if_pos hlong⟩

theorem readValue_tooLong {rest : List Char} (hrest : Ends rest) :
    (fuel : Nat) → ∃ e, readValue fuel (intText n ++ rest) = .error e
  | 0 => ⟨_, rfl⟩
  | fuel + 1 => by
    have hstart := (startsWithDigit_toDigits n.natAbs).append rest
    unfold intText
    split_ifs
    · rw [List.cons_append, readValue_minus hstart]
      exact readNumberTail_tooLong hlong hrest true
    · rw [readValue_digits hstart]
      exact readNumberTail_tooLong hlong hrest false

/-- No object is read of which a field holds an integer that is too long, whatever comes after the
field. The induction is on the fields before it, each of which is read. -/
theorem readFields_tooLong (name : String) (after : Fields) :
    (before : Fields) → WritableFields before → (rest : List Char) → (fuel : Nat) →
    2 * (joinChars [','] (writeFields (before ++ (name, .int n) :: after))).length + 1 ≤ fuel →
    (acc : Fields) → ∃ e, readFields fuel acc
      (joinChars [','] (writeFields (before ++ (name, .int n) :: after)) ++ '\x7d' :: rest)
        = .error e
  | [], _, rest, fuel + 1, _, acc => by
    have htext : ∃ tail, Ends tail
        ∧ joinChars [','] (writeFields ((name, .int n) :: after)) ++ '\x7d' :: rest
          = '"' :: (name.toList.flatMap escapeChar ++ '"' :: ':' :: (writeChars (.int n)
            ++ tail)) := by
      rcases after with _ | ⟨f, fields⟩
      · exact ⟨_, by simp [Ends], writeFields_singleton name (.int n) rest⟩
      · exact ⟨_, by simp [Ends], writeFields_cons name (.int n) f fields rest⟩
    obtain ⟨tail, hends, htext⟩ := htext
    obtain ⟨e, he⟩ := readValue_tooLong hlong hends fuel
    rw [List.nil_append, htext, readFields, readString_escaped]
    simp only [bind, Except.bind, skipSpace_colon, skipSpace_writeChars]
    rw [writeChars, he]
    exact ⟨e, rfl⟩
  | (name', v) :: before, hw, rest, fuel + 1, hfuel, acc => by
    obtain ⟨f, fields, hfields⟩ : ∃ f fields, before ++ (name, .int n) :: after = f :: fields :=
      List.exists_cons_of_ne_nil (by simp)
    have hlater := readFields_tooLong name after before hw.2 rest fuel
    rw [List.cons_append, hfields] at hfuel ⊢
    rw [hfields] at hlater
    have hends : Ends (',' :: (joinChars [','] (writeFields (f :: fields)) ++ '\x7d' :: rest)) := by
      simp [Ends]
    have hlen : 2 * (writeChars v).length ≤ fuel
        ∧ 2 * (joinChars [','] (writeFields (f :: fields))).length + 1 ≤ fuel := by
      simp only [writeFields, joinChars, List.length_append, List.length_cons,
        List.length_nil] at hfuel ⊢
      omega
    have hv := readValue_writeChars v hw.1 _ hends fuel hlen.1
    obtain ⟨e, he⟩ := hlater hlen.2 (acc.insert name' v)
    obtain ⟨cs, hcs⟩ := startsWithQuote_writeFields f fields rest
    rw [writeFields_cons, readFields, readString_escaped]
    rw [hcs] at hv he ⊢
    simp only [bind, Except.bind, skipSpace_colon, skipSpace_writeChars, hv, skipSpace_comma,
      skipSpace_quote, he]
    exact ⟨e, rfl⟩
  | _, _, _, 0, hfuel, _ => absurd hfuel (by omega)

theorem readBytes_tooLong (name : String) (before : Fields) (hw : WritableFields before)
    (after : Fields) :
    ∃ e, readBytes (write (.obj (before ++ (name, .int n) :: after))).toUTF8.toList
      = .error e := by
  obtain ⟨f, fields, hfields⟩ : ∃ f fields, before ++ (name, .int n) :: after = f :: fields :=
    List.exists_cons_of_ne_nil (by simp)
  have hinner := readFields_tooLong hlong name after before hw []
  rw [hfields] at hinner ⊢
  have htext : writeChars (.obj (f :: fields))
      = '\x7b' :: (joinChars [','] (writeFields (f :: fields)) ++ ['\x7d']) := by
    rw [writeChars]
    rfl
  obtain ⟨e, he⟩ := hinner (2 * (writeChars (.obj (f :: fields))).length + 1) (by
    rw [htext, List.length_cons, List.length_append]
    omega) []
  obtain ⟨cs, hcs⟩ := startsWithQuote_writeFields f fields []
  have hread : readValue (2 * (writeChars (.obj (f :: fields))).length + 2)
      (writeChars (.obj (f :: fields))) = .error e := by
    rw [hcs] at he htext
    rw [htext] at he ⊢
    rw [readValue, skipSpace_quote]
    exact he
  have hskip := (startsValue_writeChars (.obj (f :: fields))).skipSpace
  refine ⟨e, ?_⟩
  rw [readBytes, write, Encoding.decode_ascii (ascii_writeChars _)]
  simp only [read, String.toList_ofList, hskip, hread, bind, Except.bind]

end TooLong

end Json

/-! ## Cursors -/

namespace TaskOrder

open Json

variable {o o' : TaskOrder} {flag : Int} {value : CursorValue} {id : String}

/-- Another order does not take a cursor back. -/
theorem decodeCursor_otherOrder
    (hflag : (Nat.toDigits 10 flag.natAbs).length ≤ maxIntegerDigits) (hvalue : value.Holdable)
    (hother : o'.sortBy ≠ o.sortBy ∨ o'.descending ≠ o.descending) :
    o'.decodeCursor (o.encodeCursor flag value (.str id))
      = .error (.unreadable .cursorOfOtherSort) := by
  have hstated : [some o.sortBy, some o.direction] ≠ [some o'.sortBy, some o'.direction] := by
    simp only [ne_eq, List.cons.injEq, Option.some.injEq, and_true, not_and]
    intro hcolumn hdirection
    refine hother.elim (fun hne => hne hcolumn.symm) fun hne => hne ?_
    unfold direction at hdirection
    cases hd : o.descending <;> cases hd' : o'.descending <;> rw [hd, hd'] at hdirection <;>
      first | rfl | exact absurd hdirection (by decide)
  rw [decodeCursor, read_encodeCursor hflag hvalue, ok_bind]
  simp only [Json.elements, Json.ofStrings, List.map_cons, List.map_nil, ok_bind, Json.str?,
    bne_iff_ne.2 hstated, if_true]
  rfl

/-- No cursor is issued for an integer that is too long. -/
theorem issueCursor_tooLong (hlong : TooLong flag ∨ ∃ n, value = .plain (.int n) ∧ TooLong n) :
    o.issueCursor flag value (.str id) = .error (.unreadable .integerUnwritten) := by
  have hdocument : (o.cursorDocument flag value (.str id)).hasLongInteger = true := by
    simp only [cursorDocument, hasLongInteger, anyFieldLongInteger, Bool.or_eq_true]
    rcases hlong with hflag | ⟨n, rfl, hn⟩
    · exact .inr (.inl (decide_eq_true hflag))
    · exact .inr (.inr (.inl (decide_eq_true hn)))
  rw [issueCursor, if_pos hdocument]

/-- A cursor that would hold an integer that is too long is no cursor. -/
theorem decodeCursor_tooLong
    (hlong : TooLong flag ∨ ∃ n, value = .plain (.int n) ∧ TooLong n) :
    o'.decodeCursor (o.encodeCursor flag value (.str id)) = .error (.unreadable .cursor) := by
  have hbytes := Base64.decode_encode (o.cursorDocument flag value (.str id)).write.toUTF8.toList
  obtain ⟨e, he⟩ : ∃ e, readBytes (o.cursorDocument flag value (.str id)).write.toUTF8.toList
      = .error e := by
    have hsort : Writable (.ofStrings [o.sortBy, o.direction]) := ⟨trivial, trivial, trivial⟩
    by_cases hflag : TooLong flag
    · exact readBytes_tooLong hflag "m" [("s", _)] ⟨hsort, trivial⟩ _
    · obtain ⟨n, rfl, hn⟩ := hlong.resolve_left hflag
      have hshort : Writable (.int flag) := Nat.not_lt.1 hflag
      exact readBytes_tooLong hn "v" [("s", _), ("m", _)] ⟨hsort, hshort, trivial⟩ _
  simp only [decodeCursor, Cursor.read, encodeCursor, hbytes, Option.elim_some, he, bind,
    Except.bind, Except.mapError]

/-- A cursor holds its key without loss, and holds it for its order only. It is issued, the order
that issues it takes it back as the key, in which the value of a row with the missing flag is
nothing, and an order by another column or in the other direction refuses it. -/
theorem decodeCursor_lossless (o : TaskOrder) (flag : Int) (value : CursorValue) (id : String)
    (hflag : (Nat.toDigits 10 flag.natAbs).length ≤ maxIntegerDigits) (hvalue : value.Holdable) :
    ∃ text, o.issueCursor flag value (.str id) = .ok text
      ∧ o.decodeCursor text
        = .ok ⟨flag, if flag == o.missingMarker then .plain .null else value, id⟩
      ∧ ∀ o' : TaskOrder, o'.sortBy ≠ o.sortBy ∨ o'.descending ≠ o.descending →
        o'.decodeCursor text = .error (.unreadable .cursorOfOtherSort) :=
  ⟨_, issueCursor_eq hflag hvalue id, decodeCursor_encodeCursor hflag hvalue id,
    fun _ => decodeCursor_otherOrder hflag hvalue⟩

end TaskOrder

section Examples

open TaskOrder Json

/-- An order by a column, in which the tasks without a value come first. -/
def Sample.byLength : TaskOrder := ⟨"Länge", true, .column "length", .first⟩

theorem decodeCursor_lossless_quotes :
    ((Nat.toDigits 10 (1 : Int).natAbs).length ≤ maxIntegerDigits
      ∧ CursorValue.Holdable (.plain (.str "\"😀\\")))
    ∧ ∃ text, Sample.byLength.issueCursor 1 (.plain (.str "\"😀\\")) (.str "t1") = .ok text
      ∧ Sample.byLength.decodeCursor text = .ok ⟨1, .plain (.str "\"😀\\"), "t1"⟩
      ∧ (defaultOrder .first).decodeCursor text = .error (.unreadable .cursorOfOtherSort) := by
  have hflag : (Nat.toDigits 10 (1 : Int).natAbs).length ≤ maxIntegerDigits := by decide
  have hvalue : CursorValue.Holdable (.plain (.str "\"😀\\")) := trivial
  obtain ⟨text, hissued, hsame, hother⟩ :=
    decodeCursor_lossless Sample.byLength 1 _ "t1" hflag hvalue
  exact ⟨⟨hflag, hvalue⟩, text, hissued, hsame, hother _ (.inl (by decide))⟩

/-- The value of a row with the missing flag would be read as nothing, but no cursor is issued for
it, and the text of one would not be taken. -/
theorem decodeCursor_long_integer :
    (defaultOrder .last).issueCursor 1 (.plain (.int (10 ^ maxIntegerDigits))) (.str "t1")
        = .error (.unreadable .integerUnwritten)
      ∧ (defaultOrder .last).decodeCursor ((defaultOrder .last).encodeCursor 1
        (.plain (.int (10 ^ maxIntegerDigits))) (.str "t1")) = .error (.unreadable .cursor) := by
  have hlong : TooLong (10 ^ maxIntegerDigits) := by
    rw [TooLong, ← not_le, Nat.length_toDigits_le_iff (by decide) (by decide), Int.natAbs_pow,
      show (10 : Int).natAbs = 10 from rfl]
    exact lt_irrefl _
  exact ⟨issueCursor_tooLong (.inr ⟨_, rfl, hlong⟩), decodeCursor_tooLong (.inr ⟨_, rfl, hlong⟩)⟩

end Examples

end BoardQuery
