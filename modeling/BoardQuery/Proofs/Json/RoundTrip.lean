import BoardQuery.Proofs.Json.NumberText
import BoardQuery.Proofs.Json.Strings

/-!
# Documents read back

A written document is read as itself (`read_write`), whatever numbers and texts it holds: integers
may be as long as the reader takes them, and the fields of an object have different names.
-/

namespace BoardQuery

namespace Json

open Text

mutual

/-- Whether the reader takes a document back: its integers are not too long, and no object has two
fields of one name. -/
def Writable : Json → Prop
  | .int n => (Nat.toDigits 10 n.natAbs).length ≤ maxIntegerDigits
  | .arr items => WritableItems items
  | .obj fields => (fields.map (·.1)).Nodup ∧ WritableFields fields
  | _ => True

def WritableItems : List Json → Prop
  | [] => True
  | v :: rest => Writable v ∧ WritableItems rest

def WritableFields : List (String × Json) → Prop
  | [] => True
  | (_, v) :: rest => Writable v ∧ WritableFields rest

end

mutual

/-- What the reader takes back is written at all. -/
theorem hasLongInteger_of_writable : (v : Json) → Writable v → v.hasLongInteger = false
  | .null, _ | .bool _, _ | .num _, _ | .str _, _ => rfl
  | .int _, hw => decide_eq_false (Nat.not_lt.2 hw)
  | .arr items, hw => anyLongInteger_of_writable items hw
  | .obj fields, hw => anyFieldLongInteger_of_writable fields hw.2

theorem anyLongInteger_of_writable : (items : List Json) → WritableItems items →
    anyLongInteger items = false
  | [], _ => rfl
  | v :: rest, hw => by
    rw [anyLongInteger, hasLongInteger_of_writable v hw.1, anyLongInteger_of_writable rest hw.2,
      Bool.false_or]

theorem anyFieldLongInteger_of_writable : (fields : Fields) → WritableFields fields →
    anyFieldLongInteger fields = false
  | [], _ => rfl
  | (_, v) :: rest, hw => by
    rw [anyFieldLongInteger, hasLongInteger_of_writable v hw.1,
      anyFieldLongInteger_of_writable rest hw.2, Bool.false_or]

end

/-! ## Numbers -/

theorem isWhole_toDigits (n : Nat) : IsWhole (Nat.toDigits 10 n) := by
  refine ⟨fun c hc => Decimal.isDigit_of_mem_toDigits hc, ?_⟩
  rcases Nat.eq_zero_or_pos n with rfl | hn
  · exact .inl (Nat.toDigits_zero 10)
  · exact .inr (Decimal.toDigits_head hn)

theorem readNumberTail_toDigits {n : Nat} (hlen : (Nat.toDigits 10 n).length ≤ maxIntegerDigits)
    {rest : List Char} (hrest : Ends rest) (negative : Bool) :
    readNumberTail negative (Nat.toDigits 10 n ++ rest)
      = .ok (.int (if negative then -(n : Int) else n), rest) := by
  have hw := isWhole_toDigits n
  rw [readNumberTail_append hw hrest.not_isDigit, numberAfter_integer hw hlen hrest,
    Nat.ofDigitChars_ten_toDigits]

/-- Whether a text starts with a digit. -/
def StartsWithDigit (cs : List Char) : Prop :=
  ∃ c rest, cs = c :: rest ∧ c.isDigit = true

theorem StartsWithDigit.append {cs : List Char} (h : StartsWithDigit cs) (rest : List Char) :
    StartsWithDigit (cs ++ rest) := by
  obtain ⟨c, more, rfl, hc⟩ := h
  exact ⟨c, more ++ rest, rfl, hc⟩

theorem startsWithDigit_toDigits (n : Nat) : StartsWithDigit (Nat.toDigits 10 n) := by
  rcases hds : Nat.toDigits 10 n with _ | ⟨c, cs⟩
  · exact absurd hds Nat.toDigits_ne_nil
  · exact ⟨c, cs, rfl, Decimal.isDigit_of_mem_toDigits (m := n) (hds ▸ List.mem_cons_self)⟩

theorem startsWithDigit_magnitude {code : Nat} (hfin : code < infinityCode) :
    StartsWithDigit (NumberStyle.document.magnitude code) := by
  rcases Nat.eq_zero_or_pos code with rfl | hcode
  · exact ⟨'0', ['.', '0'], rfl, rfl⟩
  obtain ⟨hproper, -⟩ := Decimal.shortest_contains hcode hfin
  obtain ⟨c, cs, hcs, -⟩ := hproper.head
  have hc : c.isDigit = true := hproper.isDigit c (hcs ▸ List.mem_cons_self)
  have hdigits : NumberStyle.document.digits code = Decimal.shortest code := rfl
  rw [NumberStyle.magnitude, if_neg (by simpa using hcode.ne'), if_neg (by simpa using hfin.ne)]
  simp only [hdigits]
  split_ifs
  · unfold NumberStyle.positional
    split_ifs
    · exact ⟨'0', _, rfl, rfl⟩
    · rw [hcs]
      exact ⟨c, _, rfl, hc⟩
  · rw [NumberStyle.scientific, hcs]
    exact ⟨c, _, rfl, hc⟩

theorem ne_of_isDigit {c : Char} (hc : c.isDigit = true) (d : Char) (hd : d.isDigit = false) :
    d ≠ c := by
  rintro rfl
  exact Bool.noConfusion (hd.symm.trans hc)

theorem readWord?_of_digit {c : Char} (hc : c.isDigit = true) (cs : List Char) :
    readWord? (c :: cs) = none := by
  have hne := ne_of_isDigit hc
  simp [readWord?, words, hne 'n' rfl, hne 't' rfl, hne 'f' rfl, hne 'N' rfl, hne 'I' rfl,
    hne '-' rfl]

theorem readWord?_of_minus {c : Char} (hc : c.isDigit = true) (cs : List Char) :
    readWord? ('-' :: c :: cs) = none := by
  simp [readWord?, words, ne_of_isDigit hc 'I' rfl]

theorem readValue_digits {cs : List Char} (h : StartsWithDigit cs) (fuel : Nat) :
    readValue (fuel + 1) cs = readNumberTail false cs := by
  obtain ⟨c, cs, rfl, hc⟩ := h
  have hne (d : Char) (hd : d.isDigit = false) {rest : List Char} : c :: cs ≠ d :: rest :=
    fun heq => ne_of_isDigit hc d hd (List.cons.inj heq).1.symm
  unfold readValue
  split
  case h_1 heq => exact absurd heq (hne '"' rfl)
  case h_2 heq => exact absurd heq (hne '[' rfl)
  case h_3 heq => exact absurd heq (hne '\x7b' rfl)
  case h_4 =>
    rw [readWord?_of_digit hc]
    simp only []
    split
    case h_1 heq => exact absurd heq (hne '-' rfl)
    case h_2 => rfl

theorem readValue_minus {cs : List Char} (h : StartsWithDigit cs) (fuel : Nat) :
    readValue (fuel + 1) ('-' :: cs) = readNumberTail true cs := by
  obtain ⟨c, cs, rfl, hc⟩ := h
  simp [readValue, readWord?_of_minus hc]

theorem readValue_intText {n : Int} (hlen : (Nat.toDigits 10 n.natAbs).length ≤ maxIntegerDigits)
    {rest : List Char} (hrest : Ends rest) (fuel : Nat) :
    readValue (fuel + 1) (intText n ++ rest) = .ok (.int n, rest) := by
  have hstart := (startsWithDigit_toDigits n.natAbs).append rest
  unfold intText
  split_ifs with hn
  · have hneg : -(n.natAbs : Int) = n := by omega
    rw [List.cons_append, readValue_minus hstart, readNumberTail_toDigits hlen hrest]
    simp only [if_true, hneg]
  · have hpos : (n.natAbs : Int) = n := by omega
    rw [readValue_digits hstart, readNumberTail_toDigits hlen hrest]
    simp only [Bool.false_eq_true, if_false, hpos]

theorem ofCode_eq {code : Nat} (le : code ≤ infinityCode) (negative : Bool) :
    Binary64.ofCode negative code = .signed negative code le := by
  simp [Binary64.ofCode, Nat.min_eq_left le]

theorem magnitude_infinity :
    NumberStyle.document.magnitude infinityCode = "Infinity".toList := by
  rw [NumberStyle.magnitude, if_neg (by decide), if_pos (by simp)]
  rfl

theorem readValue_numberText (x : Binary64) {rest : List Char} (hrest : Ends rest) (fuel : Nat) :
    readValue (fuel + 1) (NumberStyle.document.text x ++ rest) = .ok (.num x, rest) := by
  rcases x with _ | ⟨negative, code, le⟩
  · rfl
  rcases le.lt_or_eq with hfin | rfl
  · have hstart := (startsWithDigit_magnitude hfin).append rest
    have hread := readNumberTail_magnitude hfin hrest negative
    rw [ofCode_eq le] at hread
    rcases negative with _ | _
    · exact (readValue_digits hstart fuel).trans hread
    · exact (readValue_minus hstart fuel).trans hread
  · have hvalue : Binary64.infinity negative = .signed negative infinityCode le := ofCode_eq le _
    rw [← hvalue]
    rcases negative with _ | _
    · change readValue (fuel + 1) (NumberStyle.document.magnitude infinityCode ++ rest) = _
      rw [magnitude_infinity]
      rfl
    · change readValue (fuel + 1) ('-' :: NumberStyle.document.magnitude infinityCode ++ rest) = _
      rw [magnitude_infinity]
      rfl

/-! ## Values -/

/-- How the text of a value starts: with no space, and not as an array ends. -/
def StartsValue (cs : List Char) : Prop :=
  ∃ c rest, cs = c :: rest ∧ isSpace c = false ∧ c ≠ ']'

theorem StartsWithDigit.startsValue {cs : List Char} (h : StartsWithDigit cs) : StartsValue cs := by
  obtain ⟨c, rest, rfl, hc⟩ := h
  have hne := ne_of_isDigit hc
  refine ⟨c, rest, rfl, ?_, (hne ']' rfl).symm⟩
  simp [isSpace, (hne ' ' rfl).symm, (hne '\t' rfl).symm, (hne '\n' rfl).symm,
    (hne '\r' rfl).symm]

theorem startsValue_intText (n : Int) : StartsValue (intText n) := by
  unfold intText
  split_ifs
  · exact ⟨'-', _, rfl, rfl, by decide⟩
  · exact (startsWithDigit_toDigits n.natAbs).startsValue

theorem startsValue_numberText (x : Binary64) : StartsValue (NumberStyle.document.text x) := by
  rcases x with _ | ⟨_ | _, code, le⟩
  · exact ⟨'N', _, rfl, rfl, by decide⟩
  · change StartsValue (NumberStyle.document.magnitude code)
    rcases le.lt_or_eq with hfin | rfl
    · exact (startsWithDigit_magnitude hfin).startsValue
    · rw [magnitude_infinity]
      exact ⟨'I', _, rfl, rfl, by decide⟩
  · exact ⟨'-', _, rfl, rfl, by decide⟩

theorem startsValue_writeChars (v : Json) : StartsValue (writeChars v) := by
  rcases v with _ | b | n | x | s | items | fields
  · exact ⟨'n', _, rfl, rfl, by decide⟩
  · rcases b with _ | _
    · exact ⟨'f', _, rfl, rfl, by decide⟩
    · exact ⟨'t', _, rfl, rfl, by decide⟩
  · rw [writeChars]
    exact startsValue_intText n
  · rw [writeChars]
    exact startsValue_numberText x
  · exact ⟨'"', _, by rw [writeChars]; rfl, rfl, by decide⟩
  · exact ⟨'[', _, by rw [writeChars]; rfl, rfl, by decide⟩
  · exact ⟨'\x7b', _, by rw [writeChars]; rfl, rfl, by decide⟩

theorem StartsValue.skipSpace {cs : List Char} (h : StartsValue cs) : skipSpace cs = cs := by
  obtain ⟨c, rest, rfl, hc, -⟩ := h
  simp [Json.skipSpace, hc]

theorem StartsValue.append {cs : List Char} (h : StartsValue cs) (rest : List Char) :
    StartsValue (cs ++ rest) := by
  obtain ⟨c, more, rfl, hc⟩ := h
  exact ⟨c, more ++ rest, rfl, hc⟩

theorem skipSpace_writeChars (v : Json) (rest : List Char) :
    skipSpace (writeChars v ++ rest) = writeChars v ++ rest :=
  ((startsValue_writeChars v).append rest).skipSpace

theorem insert_of_not_mem {fields : Fields} {name : String} (h : name ∉ fields.map (·.1))
    (v : Json) : Fields.insert fields name v = fields ++ [(name, v)] := by
  induction fields with
  | nil => rfl
  | cons f fields ih =>
    rw [List.map_cons, List.mem_cons, not_or] at h
    rw [Fields.insert, if_neg (by simpa using fun heq => h.1 heq.symm), ih h.2]
    rfl

theorem not_mem_of_nodup {acc fields : Fields} {name : String} {v : Json}
    (h : ((acc ++ (name, v) :: fields).map (·.1)).Nodup) : name ∉ acc.map (·.1) := by
  rw [List.map_append, List.nodup_append] at h
  exact fun hmem => h.2.2 name hmem name (by simp) rfl

theorem startsValue_writeItems (v : Json) (vs : List Json) :
    StartsValue (joinChars [','] (writeItems (v :: vs))) := by
  rcases vs with _ | ⟨w, ws⟩
  · exact startsValue_writeChars v
  · simp only [writeItems, joinChars, List.append_assoc]
    exact (startsValue_writeChars v).append _

theorem skipSpace_quote (cs : List Char) : skipSpace ('"' :: cs) = '"' :: cs := rfl

theorem skipSpace_comma (cs : List Char) : skipSpace (',' :: cs) = ',' :: cs := rfl

theorem skipSpace_colon (cs : List Char) : skipSpace (':' :: cs) = ':' :: cs := rfl

theorem skipSpace_brace (cs : List Char) : skipSpace ('\x7d' :: cs) = '\x7d' :: cs := rfl

theorem writeFields_singleton (name : String) (v : Json) (rest : List Char) :
    joinChars [','] (writeFields [(name, v)]) ++ '\x7d' :: rest
      = '"' :: (name.toList.flatMap escapeChar ++ '"' :: ':' :: (writeChars v
        ++ '\x7d' :: rest)) := by
  simp [writeFields, joinChars, writeString]

theorem writeFields_cons (name : String) (v : Json) (f : String × Json) (fields : Fields)
    (rest : List Char) :
    joinChars [','] (writeFields ((name, v) :: f :: fields)) ++ '\x7d' :: rest
      = '"' :: (name.toList.flatMap escapeChar ++ '"' :: ':' :: (writeChars v
        ++ ',' :: (joinChars [','] (writeFields (f :: fields)) ++ '\x7d' :: rest))) := by
  simp [writeFields, joinChars, writeString]

theorem startsWithQuote_writeFields (f : String × Json) (fields : Fields) (rest : List Char) :
    ∃ cs, joinChars [','] (writeFields (f :: fields)) ++ '\x7d' :: rest = '"' :: cs := by
  rcases fields with _ | ⟨g, fields⟩
  · exact ⟨_, writeFields_singleton f.1 f.2 rest⟩
  · exact ⟨_, writeFields_cons f.1 f.2 g fields rest⟩

mutual

/-- What the reader makes of a written value that something else follows. -/
theorem readValue_writeChars : (v : Json) → Writable v → (rest : List Char) → Ends rest →
    (fuel : Nat) → 2 * (writeChars v).length ≤ fuel →
    readValue fuel (writeChars v ++ rest) = .ok (v, rest)
  | .null, _, _, _, fuel + 1, _ => rfl
  | .bool true, _, _, _, fuel + 1, _ => rfl
  | .bool false, _, _, _, fuel + 1, _ => rfl
  | .int n, hw, _, hrest, fuel + 1, _ => by
    rw [writeChars, readValue_intText hw hrest]
  | .num x, _, _, hrest, fuel + 1, _ => by
    rw [writeChars, readValue_numberText x hrest]
  | .str s, _, rest, _, fuel + 1, _ => by
    have htext : writeString s ++ rest = '"' :: (s.toList.flatMap escapeChar ++ '"' :: rest) := by
      simp [writeString]
    rw [writeChars, htext, readValue, readString_escaped]
    rfl
  | .arr [], _, rest, _, fuel + 1, _ => by
    simp [writeChars, writeItems, joinChars, readValue, skipSpace, isSpace]
  | .arr (v :: vs), hw, rest, _, fuel + 1, hfuel => by
    have hlen : 2 * (joinChars [','] (writeItems (v :: vs))).length + 1 ≤ fuel := by
      rw [writeChars, List.length_append, List.length_cons] at hfuel
      simp only [List.length_singleton] at hfuel
      omega
    have hread := readItems_writeItems (v :: vs) (by simp) hw rest fuel hlen []
    have hstart := (startsValue_writeItems v vs).append (']' :: rest)
    rw [writeChars, List.cons_append, List.cons_append, List.append_assoc,
      List.singleton_append, readValue, hstart.skipSpace]
    split
    case h_1 heq =>
      obtain ⟨c, cs, hcs, -, hc⟩ := hstart
      exact absurd (List.cons.inj (hcs.symm.trans heq)).1 hc
    case h_2 => exact hread
  | .obj [], _, rest, _, fuel + 1, _ => by
    simp [writeChars, writeFields, joinChars, readValue, skipSpace, isSpace]
  | .obj ((name, v) :: fields), hw, rest, _, fuel + 1, hfuel => by
    have hlen : 2 * (joinChars [','] (writeFields ((name, v) :: fields))).length + 1 ≤ fuel := by
      rw [writeChars, List.length_append, List.length_cons] at hfuel
      simp only [List.length_singleton] at hfuel
      omega
    have hread := readFields_writeFields ((name, v) :: fields) (by simp) hw.2 rest fuel hlen []
      (by simpa using hw.1)
    rw [writeChars, List.cons_append, List.cons_append, List.append_assoc,
      List.singleton_append, readValue]
    obtain ⟨cs, hcs⟩ := startsWithQuote_writeFields (name, v) fields rest
    rw [hcs] at hread ⊢
    rw [skipSpace_quote]
    exact hread
  | v, _, _, _, 0, hfuel => by
    obtain ⟨c, cs, hcs, -⟩ := startsValue_writeChars v
    simp [hcs] at hfuel

theorem readItems_writeItems : (items : List Json) → items ≠ [] → WritableItems items →
    (rest : List Char) → (fuel : Nat) →
    2 * (joinChars [','] (writeItems items)).length + 1 ≤ fuel → (acc : List Json) →
    readItems fuel acc (joinChars [','] (writeItems items) ++ ']' :: rest)
      = .ok (.arr (acc.reverse ++ items), rest)
  | [], hne, _, _, _, _, _ => absurd rfl hne
  | [v], _, hw, rest, fuel + 1, hfuel, acc => by
    have hends : Ends (']' :: rest) := by simp [Ends]
    have hlen : 2 * (writeChars v).length ≤ fuel := by
      simp only [writeItems, joinChars] at hfuel
      omega
    have hv := readValue_writeChars v hw.1 (']' :: rest) hends fuel hlen
    simp [writeItems, joinChars, readItems, hv, bind, Except.bind, skipSpace, isSpace]
  | v :: w :: ws, _, hw, rest, fuel + 1, hfuel, acc => by
    have htext : joinChars [','] (writeItems (v :: w :: ws))
        = writeChars v ++ ',' :: joinChars [','] (writeItems (w :: ws)) := by
      simp [writeItems, joinChars]
    rw [htext, List.length_append, List.length_cons] at hfuel
    have hends : Ends (',' :: (joinChars [','] (writeItems (w :: ws)) ++ ']' :: rest)) := by
      simp [Ends]
    have hv := readValue_writeChars v hw.1 _ hends fuel (by omega)
    have hws := readItems_writeItems (w :: ws) (by simp) hw.2 rest fuel (by omega) (v :: acc)
    have hskip := ((startsValue_writeItems w ws).append (']' :: rest)).skipSpace
    rw [htext, List.append_assoc, List.cons_append, readItems, hv]
    simp only [bind, Except.bind, skipSpace_comma, hskip, hws]
    simp
  | _, _, _, _, 0, hfuel, _ => absurd hfuel (by omega)

theorem readFields_writeFields : (fields : Fields) → fields ≠ [] → WritableFields fields →
    (rest : List Char) → (fuel : Nat) →
    2 * (joinChars [','] (writeFields fields)).length + 1 ≤ fuel → (acc : Fields) →
    ((acc ++ fields).map (·.1)).Nodup →
    readFields fuel acc (joinChars [','] (writeFields fields) ++ '\x7d' :: rest)
      = .ok (.obj (acc ++ fields), rest)
  | [], hne, _, _, _, _, _, _ => absurd rfl hne
  | [(name, v)], _, hw, rest, fuel + 1, hfuel, acc, hnodup => by
    have hends : Ends ('\x7d' :: rest) := by simp [Ends]
    have hlen : 2 * (writeChars v).length ≤ fuel := by
      simp only [writeFields, joinChars, List.length_append, List.length_cons] at hfuel
      omega
    have hv := readValue_writeChars v hw.1 _ hends fuel hlen
    have hinsert := insert_of_not_mem (not_mem_of_nodup hnodup) v
    rw [writeFields_singleton, readFields, readString_escaped]
    simp only [bind, Except.bind, skipSpace_colon, skipSpace_writeChars, hv, skipSpace_brace,
      hinsert]
  | (name, v) :: f :: fields, _, hw, rest, fuel + 1, hfuel, acc, hnodup => by
    have hends : Ends (',' :: (joinChars [','] (writeFields (f :: fields)) ++ '\x7d' :: rest)) := by
      simp [Ends]
    have hlen : 2 * (writeChars v).length ≤ fuel
        ∧ 2 * (joinChars [','] (writeFields (f :: fields))).length + 1 ≤ fuel := by
      simp only [writeFields, joinChars, List.length_append, List.length_cons,
        List.length_nil] at hfuel ⊢
      omega
    have hv := readValue_writeChars v hw.1 _ hends fuel hlen.1
    have hinsert := insert_of_not_mem (not_mem_of_nodup hnodup) v
    have hfields := readFields_writeFields (f :: fields) (by simp) hw.2 rest fuel hlen.2
      (acc ++ [(name, v)]) (by simpa using hnodup)
    obtain ⟨cs, hcs⟩ := startsWithQuote_writeFields f fields rest
    rw [writeFields_cons, readFields, readString_escaped]
    rw [hcs] at hv hfields ⊢
    simp only [bind, Except.bind, skipSpace_colon, skipSpace_writeChars, hv, skipSpace_comma,
      skipSpace_quote, hinsert, hfields]
    simp
  | _, _, _, _, 0, hfuel, _, _ => absurd hfuel (by omega)

end

/-- A written document is read as itself. -/
theorem read_write {v : Json} (hw : Writable v) : read v.write = .ok v := by
  have hskip := (startsValue_writeChars v).skipSpace
  have hread := readValue_writeChars v hw [] (by simp [Ends]) (2 * v.writeChars.length + 2)
    (by omega)
  rw [List.append_nil] at hread
  simp only [read, write, String.toList_ofList, hskip, hread, bind, Except.bind]
  rfl

end Json

end BoardQuery
