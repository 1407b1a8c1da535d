import BoardQuery.Proofs.Json.Strings
import BoardQuery.Store.Cell
import Mathlib.Data.List.Infix

/-!
# Where a written text occurs in a written list

A text in its quotes is sought in the text of a list. It occurs where an element begins only if it
is that element. But a quote inside an element is written as a quote too, after a backslash, and so
is the one that ends an element: the text is also found as the rest of an element after a quote, and
a lone comma between any two elements (`occursIn_listChars`).
-/

namespace BoardQuery

namespace Json

/-- The characters of a text as they are written. -/
def escaped (cs : List Char) : List Char :=
  cs.flatMap escapeChar

theorem escaped_cons (c : Char) (cs : List Char) : escaped (c :: cs) = escapeChar c ++ escaped cs :=
  List.flatMap_cons

/-! ## Escapes in small letters -/

/-- The characters that escapes are made of. -/
def escapeMarks : List Char := "\\nrtbfu0123456789abcdef".toList

theorem digitChar_lower : ∀ n < 16, (Nat.digitChar n).toLower = Nat.digitChar n
    ∧ Nat.digitChar n ∈ escapeMarks := by decide

theorem toLower_unitEscape {n : Nat} (h : n < 0x10000) :
    (unitEscape n).map Char.toLower = unitEscape n := by
  have hdigit (k : Nat) (hk : k < 16) := (digitChar_lower k hk).1
  simp only [unitEscape, hexText_four h, List.map_cons, List.map_nil, hdigit (n / 4096) (by omega),
    hdigit (n / 256 % 16) (by omega), hdigit (n / 16 % 16) (by omega), hdigit (n % 16) (by omega)]
  rfl

theorem mem_unitEscape {n : Nat} (h : n < 0x10000) {d : Char} (hd : d ∈ unitEscape n) :
    d ∈ escapeMarks := by
  have hdigit (k : Nat) (hk : k < 16) := (digitChar_lower k hk).2
  simp only [unitEscape, hexText_four h, List.mem_cons] at hd
  rcases hd with rfl | rfl | rfl | rfl | rfl | rfl | hd
  · decide
  · decide
  · exact hdigit _ (by omega)
  · exact hdigit _ (by omega)
  · exact hdigit _ (by omega)
  · exact hdigit _ (by omega)
  · exact absurd hd List.not_mem_nil

theorem mem_escape {c d : Char} (hc : c ∈ escapeMarks) (hd : d ∈ ['\\', c]) : d ∈ escapeMarks := by
  rw [List.mem_cons, List.mem_singleton] at hd
  rcases hd with rfl | rfl
  · decide
  · exact hc

/-- A character is written as itself, if it is printable, or as an escape. -/
theorem mem_escapeChar {c d : Char} (hd : d ∈ escapeChar c) :
    (d = c ∧ 32 ≤ c.toNat) ∨ d ∈ escapeMarks := by
  unfold escapeChar at hd
  split_ifs at hd with h1 h2 h3 h4 h5 h6 h7 h8 h9
  · rw [List.mem_cons, List.mem_singleton] at hd
    rcases hd with rfl | rfl
    · exact .inr (by decide)
    · exact .inl ⟨(beq_iff_eq.1 h1).symm, by rw [beq_iff_eq.1 h1]; decide⟩
  iterate 6
    · exact .inr (mem_escape (by decide) hd)
  · simp only [Bool.and_eq_true, decide_eq_true_eq] at h8
    exact .inl ⟨List.mem_singleton.1 hd, h8.1⟩
  · exact .inr (mem_unitEscape h9 hd)
  · have := toNat_lt c
    rcases List.mem_append.1 hd with hd | hd
    · exact .inr (mem_unitEscape (by omega) hd)
    · exact .inr (mem_unitEscape (by omega) hd)

theorem isCapital_iff {c : Char} :
    c.val ≥ 'A'.val ∧ c.val ≤ 'Z'.val ↔ 65 ≤ c.toNat ∧ c.toNat ≤ 90 :=
  and_congr UInt32.le_iff_toNat_le UInt32.le_iff_toNat_le

theorem toLower_eq_self {c : Char} (h : ¬ (65 ≤ c.toNat ∧ c.toNat ≤ 90)) : c.toLower = c :=
  dif_neg (isCapital_iff.not.2 h)

theorem toNat_toLower {c : Char} (h : 65 ≤ c.toNat ∧ c.toNat ≤ 90) :
    c.toLower.toNat = c.toNat + 32 := by
  have hsum : (c.val + 32).toNat = c.val.toNat + 32 := by
    rw [UInt32.toNat_add]
    have : c.val.toNat ≤ 90 := h.2
    change (c.val.toNat + 32) % 4294967296 = c.val.toNat + 32
    omega
  exact (congrArg Char.toNat (dif_pos (isCapital_iff.2 h))).trans hsum

/-- A printable character other than the quote and the backslash is written as itself. -/
theorem escapeChar_plain {c : Char} (h : 32 ≤ c.toNat ∧ c.toNat < 127) (hquote : c ≠ '"')
    (hslash : c ≠ '\\') : escapeChar c = [c] := by
  have hne (d : Char) (hd : d.toNat < 32) : c ≠ d := by
    rintro rfl
    omega
  simp [escapeChar, hquote, hslash, hne '\n' (by decide), hne '\r' (by decide),
    hne '\t' (by decide), h.1, h.2, show c.toNat ≠ 8 by omega, show c.toNat ≠ 12 by omega]

/-- Small letters are written as the small letters of what is written. -/
theorem map_toLower_escapeChar (c : Char) :
    (escapeChar c).map Char.toLower = escapeChar c.toLower := by
  by_cases hcapital : 65 ≤ c.toNat ∧ c.toNat ≤ 90
  · have hlower := toNat_toLower hcapital
    have hne (d : Char) (hd : d.toNat < 65 ∨ 90 < d.toNat) : c ≠ d := by
      rintro rfl
      omega
    have hne' (d : Char) (hd : d.toNat < 97 ∨ 122 < d.toNat) : c.toLower ≠ d := by
      rintro rfl
      omega
    rw [escapeChar_plain (by omega) (hne _ (by decide)) (hne _ (by decide)),
      escapeChar_plain (by omega) (hne' _ (by decide)) (hne' _ (by decide))]
    rfl
  · rw [toLower_eq_self hcapital]
    unfold escapeChar
    split_ifs with h1 h2 h3 h4 h5 h6 h7 h8 h9
    · rfl
    · rfl
    · rfl
    · rfl
    · rfl
    · rfl
    · rfl
    · rw [List.map_singleton, toLower_eq_self hcapital]
    · exact toLower_unitEscape h9
    · have := toNat_lt c
      simp only [List.map_append]
      rw [toLower_unitEscape (by omega), toLower_unitEscape (by omega)]

theorem map_toLower_escaped (cs : List Char) :
    (escaped cs).map Char.toLower = escaped (cs.map Char.toLower) := by
  induction cs with
  | nil => rfl
  | cons c cs ih =>
    rw [escaped_cons, List.map_append, map_toLower_escapeChar, ih, List.map_cons, escaped_cons]

/-! ## Quotes -/

theorem quote_not_mem_escapeChar {c : Char} (h : c ≠ '"') : '"' ∉ escapeChar c := by
  intro hmem
  rcases mem_escapeChar hmem with ⟨rfl, -⟩ | hmark
  · exact h rfl
  · exact absurd hmark (by decide)

/-- A written text up to its closing quote stands only at the start of what begins with it. -/
theorem escaped_isPrefix {x y rest : List Char} :
    escaped x ++ ['"'] <+: escaped y ++ '"' :: rest ↔ x = y := by
  constructor
  · rintro ⟨more, hmore⟩
    rw [List.append_assoc, List.singleton_append] at hmore
    have hx := readString_escaped (String.ofList x) more
    have hy := readString_escaped (String.ofList y) rest
    rw [String.toList_ofList] at hx hy
    change readString (escaped x ++ '"' :: more) = _ at hx
    change readString (escaped y ++ '"' :: rest) = _ at hy
    rw [hmore, hy] at hx
    have hsame := congrArg String.toList (Prod.mk.inj (Except.ok.inj hx)).1
    rw [String.toList_ofList, String.toList_ofList] at hsame
    exact hsame.symm
  · rintro rfl
    exact ⟨rest, by rw [List.append_assoc, List.singleton_append]⟩

end Json

open Json

/-! ## Occurrences -/

theorem occursIn_iff {pattern : List Char} : {cs : List Char} →
    (occursIn pattern cs = true ↔ pattern <:+: cs)
  | [] => by simp [occursIn]
  | c :: cs => by
    rw [occursIn, Bool.or_eq_true, List.isPrefixOf_iff_prefix, occursIn_iff, List.infix_cons_iff]

theorem occursIn_skip {q ds cs : List Char} (h : '"' ∉ ds) :
    occursIn ('"' :: q) (ds ++ cs) = occursIn ('"' :: q) cs := by
  induction ds with
  | nil => rfl
  | cons d ds ih =>
    rw [List.mem_cons, not_or] at h
    rw [List.cons_append, occursIn, ih h.2]
    simp [List.isPrefixOf, h.1]

namespace Json

/-- A text as it is written, in its quotes. -/
def inQuotes (cs : List Char) : List Char :=
  '"' :: (escaped cs ++ ['"'])

theorem writeString_eq (s : String) : writeString s = inQuotes s.toList := rfl

theorem inQuotes_isPrefix {x cs : List Char} :
    (inQuotes x).isPrefixOf ('"' :: cs) = true ↔ escaped x ++ ['"'] <+: cs := by
  rw [List.isPrefixOf_iff_prefix, inQuotes, List.cons_prefix_cons, and_iff_right rfl]

/-- Inside an element, a quoted text is found after a quote, as the rest of the element. -/
theorem occursIn_escaped {x rest : List Char} : (y : List Char) →
    (occursIn (inQuotes x) (escaped y ++ '"' :: rest) = true
      ↔ (∃ p, y = p ++ '"' :: x) ∨ occursIn (inQuotes x) ('"' :: rest) = true)
  | [] => by simp [escaped]
  | c :: y => by
    have ih : occursIn (inQuotes x) (escaped y ++ '"' :: rest) = true
        ↔ (∃ p, y = p ++ '"' :: x) ∨ occursIn (inQuotes x) ('"' :: rest) = true :=
      occursIn_escaped y
    rw [escaped_cons, List.append_assoc]
    by_cases hc : c = '"'
    · subst hc
      -- the backslash is passed over, and the quote may begin the text
      have hquote : escapeChar '"' ++ (escaped y ++ '"' :: rest)
          = ['\\'] ++ '"' :: (escaped y ++ '"' :: rest) := rfl
      rw [hquote, inQuotes, occursIn_skip (by decide), ← inQuotes, occursIn,
        Bool.or_eq_true, inQuotes_isPrefix, escaped_isPrefix, ih, ← or_assoc]
      refine or_congr ?_ Iff.rfl
      constructor
      · rintro (rfl | ⟨p, rfl⟩)
        · exact ⟨[], rfl⟩
        · exact ⟨'"' :: p, rfl⟩
      · rintro ⟨p, hp⟩
        cases p with
        | nil => exact .inl (List.cons.inj hp).2.symm
        | cons d p => exact .inr ⟨p, (List.cons.inj hp).2⟩
    · rw [inQuotes, occursIn_skip (quote_not_mem_escapeChar hc), ← inQuotes, ih]
      refine or_congr ?_ Iff.rfl
      constructor
      · rintro ⟨p, rfl⟩
        exact ⟨c :: p, rfl⟩
      · rintro ⟨p, hp⟩
        cases p with
        | nil => exact absurd (List.cons.inj hp).1 hc
        | cons d p => exact ⟨p, (List.cons.inj hp).2⟩

/-- What follows an element in a written list. -/
def tailChars : List (List Char) → List Char
  | [] => [']']
  | e :: es => ',' :: '"' :: (escaped e ++ '"' :: tailChars es)

/-- A written list of texts. -/
def listChars : List (List Char) → List Char
  | [] => ['[', ']']
  | e :: es => '[' :: '"' :: (escaped e ++ '"' :: tailChars es)

theorem not_occursIn {q cs : List Char} (h : '"' ∉ cs) : occursIn ('"' :: q) cs = false := by
  rw [← Bool.not_eq_true, occursIn_iff]
  exact fun hoccurs => h (hoccurs.subset List.mem_cons_self)

/-- After the quote that ends an element, only a comma can be found. -/
theorem occursIn_tail {x : List Char} (es : List (List Char)) :
    occursIn (inQuotes x) ('"' :: tailChars es) = true
      ↔ (x = [','] ∧ es ≠ []) ∨ occursIn (inQuotes x) (tailChars es) = true := by
  rw [occursIn, Bool.or_eq_true, inQuotes_isPrefix]
  refine or_congr ?_ Iff.rfl
  cases es with
  | nil =>
    simp only [ne_eq, not_true_eq_false, and_false, iff_false]
    intro hprefix
    have hmem : '"' ∈ tailChars [] := hprefix.subset (by simp)
    exact absurd hmem (by decide)
  | cons e es =>
    have hcomma : tailChars (e :: es)
        = escaped [','] ++ '"' :: (escaped e ++ '"' :: tailChars es) :=
      rfl
    rw [hcomma, escaped_isPrefix]
    simp

theorem occursIn_element {x e : List Char} (es : List (List Char)) :
    occursIn (inQuotes x) ('"' :: (escaped e ++ '"' :: tailChars es)) = true
      ↔ (x = e ∨ ∃ p, e = p ++ '"' :: x) ∨ (x = [','] ∧ es ≠ [])
        ∨ occursIn (inQuotes x) (tailChars es) = true := by
  rw [occursIn, Bool.or_eq_true, inQuotes_isPrefix, escaped_isPrefix, occursIn_escaped,
    occursIn_tail, or_assoc]

theorem occursIn_tailChars {x : List Char} : (es : List (List Char)) →
    (occursIn (inQuotes x) (tailChars es) = true
      ↔ (∃ e ∈ es, x = e ∨ ∃ p, e = p ++ '"' :: x) ∨ (x = [','] ∧ 2 ≤ es.length))
  | [] => by
    rw [tailChars, inQuotes, not_occursIn (by decide)]
    simp
  | e :: es => by
    have hskip : occursIn (inQuotes x) (tailChars (e :: es))
        = occursIn (inQuotes x) ('"' :: (escaped e ++ '"' :: tailChars es)) :=
      @occursIn_skip _ [','] _ (by decide)
    have hlength : (x = [','] ∧ es ≠ []) ∨ (x = [','] ∧ 2 ≤ es.length)
        ↔ x = [','] ∧ 2 ≤ (e :: es).length := by
      rw [← and_or_left, List.length_cons, ← List.length_pos_iff]
      refine and_congr_right fun _ => ?_
      omega
    rw [hskip, occursIn_element, occursIn_tailChars es, List.exists_mem_cons_iff, ← hlength]
    exact (or_congr_right or_left_comm).trans or_assoc.symm

/-- A quoted text is found in a written list as an element, as the rest of an element after a quote,
or as a comma between two elements. -/
theorem occursIn_listChars {x : List Char} (es : List (List Char)) :
    occursIn (inQuotes x) (listChars es) = true
      ↔ (∃ e ∈ es, x = e ∨ ∃ p, e = p ++ '"' :: x) ∨ (x = [','] ∧ 2 ≤ es.length) := by
  cases es with
  | nil =>
    rw [listChars, inQuotes, not_occursIn (by decide)]
    simp
  | cons e es =>
    have hskip (d : Char) (hd : '"' ∉ [d]) :
        occursIn (inQuotes x) (d :: '"' :: (escaped e ++ '"' :: tailChars es))
          = occursIn (inQuotes x) ('"' :: (escaped e ++ '"' :: tailChars es)) :=
      @occursIn_skip _ [d] _ hd
    rw [← occursIn_tailChars, listChars, tailChars, hskip '[' (by decide), hskip ',' (by decide)]

/-! ## Written lists -/

theorem map_toLower_tailChars : (es : List (List Char)) →
    (tailChars es).map Char.toLower = tailChars (es.map (·.map Char.toLower))
  | [] => rfl
  | e :: es => by
    simp only [tailChars, List.map_cons, List.map_append, map_toLower_escaped,
      map_toLower_tailChars es]
    rfl

theorem map_toLower_listChars (es : List (List Char)) :
    (listChars es).map Char.toLower = listChars (es.map (·.map Char.toLower)) := by
  cases es with
  | nil => rfl
  | cons e es =>
    simp only [listChars, List.map_cons, List.map_append, map_toLower_escaped,
      map_toLower_tailChars]
    rfl

theorem map_toLower_inQuotes (x : List Char) :
    (inQuotes x).map Char.toLower = inQuotes (x.map Char.toLower) := by
  simp only [inQuotes, List.map_cons, List.map_append, map_toLower_escaped]
  rfl

theorem joinChars_writeItems (s : String) : (items : List String) →
    joinChars [','] (writeItems ((s :: items).map Json.str)) ++ [']']
      = '"' :: (escaped s.toList ++ '"' :: tailChars (items.map String.toList))
  | [] => by
    simp [writeItems, joinChars, writeChars, writeString_eq, inQuotes, tailChars]
  | t :: items => by
    have ih := joinChars_writeItems t items
    simp only [List.map_cons, writeItems, joinChars, writeChars, writeString_eq, inQuotes,
      tailChars, List.append_assoc, List.cons_append, List.nil_append] at ih ⊢
    rw [ih]

theorem writeChars_ofStrings (items : List String) :
    (Json.ofStrings items).writeChars = listChars (items.map String.toList) := by
  cases items with
  | nil => rfl
  | cons s items =>
    rw [ofStrings, writeChars, List.cons_append, joinChars_writeItems, List.map_cons, listChars]

/-! ## No null characters -/

theorem null_not_mem_escaped (cs : List Char) : '\x00' ∉ escaped cs := by
  rw [escaped, List.mem_flatMap]
  rintro ⟨c, -, hc⟩
  rcases mem_escapeChar hc with ⟨rfl, hprintable⟩ | hmark
  · exact absurd hprintable (by decide)
  · exact absurd hmark (by decide)

theorem null_not_mem_inQuotes (cs : List Char) : '\x00' ∉ inQuotes cs := by
  simp only [inQuotes, List.mem_cons, List.mem_append, not_or]
  exact ⟨by decide, null_not_mem_escaped cs, by decide, List.not_mem_nil⟩

theorem null_not_mem_tailChars : (es : List (List Char)) → '\x00' ∉ tailChars es
  | [] => by decide
  | e :: es => by
    simp only [tailChars, List.mem_cons, List.mem_append, not_or]
    exact ⟨by decide, by decide, null_not_mem_escaped e, by decide, null_not_mem_tailChars es⟩

theorem null_not_mem_listChars (es : List (List Char)) : '\x00' ∉ listChars es := by
  cases es with
  | nil => decide
  | cons e es =>
    simp only [listChars, List.mem_cons, List.mem_append, not_or]
    exact ⟨by decide, by decide, null_not_mem_escaped e, by decide, null_not_mem_tailChars es⟩

end Json

end BoardQuery
