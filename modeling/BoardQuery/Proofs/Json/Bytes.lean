import BoardQuery.Json.Bytes
import BoardQuery.Proofs.Json.RoundTrip
import BoardQuery.Proofs.Text.AsciiBytes

/-!
# Documents as bytes

A written document has only printable characters of ASCII, so its bytes are read as the document
again (`readBytes_write`).
-/

namespace BoardQuery

namespace Json

open Text Encoding

theorem ascii_append {as bs : List Char} (ha : Ascii as) (hb : Ascii bs) : Ascii (as ++ bs) :=
  fun c hc => (List.mem_append.1 hc).elim (ha c) (hb c)

theorem ascii_cons {c : Char} {cs : List Char} (hc : 0 < c.toNat ∧ c.toNat < 128)
    (hcs : Ascii cs) : Ascii (c :: cs) := by
  intro d hd
  rcases List.mem_cons.1 hd with rfl | hd
  · exact hc
  · exact hcs d hd

theorem ascii_nil : Ascii [] := fun _ hc => absurd hc List.not_mem_nil

theorem ascii_of_isDigit {cs : List Char} (h : ∀ c ∈ cs, c.isDigit = true) : Ascii cs := by
  intro c hc
  have := isDigit_iff.1 (h c hc)
  omega

theorem ascii_replicate_zero (n : Nat) : Ascii (List.replicate n '0') := by
  refine ascii_of_isDigit fun c hc => ?_
  rw [List.eq_of_mem_replicate hc]
  rfl

theorem ascii_toDigits (n : Nat) : Ascii (Nat.toDigits 10 n) :=
  ascii_of_isDigit fun _ hc => Decimal.isDigit_of_mem_toDigits hc

/-! ## Texts and numbers -/

theorem ascii_digitChar : ∀ n < 16, 0 < (Nat.digitChar n).toNat
    ∧ (Nat.digitChar n).toNat < 128 := by
  decide

theorem ascii_unitEscape {n : Nat} (h : n < 0x10000) : Ascii (unitEscape n) := by
  rw [unitEscape, hexText_four h]
  refine ascii_cons (by decide) (ascii_cons (by decide) ?_)
  refine ascii_cons (ascii_digitChar _ (by omega)) (ascii_cons (ascii_digitChar _ (by omega)) ?_)
  exact ascii_cons (ascii_digitChar _ (by omega))
    (ascii_cons (ascii_digitChar _ (by omega)) ascii_nil)

theorem ascii_escapeChar (c : Char) : Ascii (escapeChar c) := by
  have hlt := toNat_lt c
  have hpair (d : Char) (hd : 0 < d.toNat ∧ d.toNat < 128) : Ascii ['\\', d] :=
    ascii_cons (by decide) (ascii_cons hd ascii_nil)
  unfold escapeChar
  split_ifs with h1 h2 h3 h4 h5 h6 h7 h8 h9
  · exact hpair '"' (by decide)
  · exact hpair '\\' (by decide)
  · exact hpair 'n' (by decide)
  · exact hpair 'r' (by decide)
  · exact hpair 't' (by decide)
  · exact hpair 'b' (by decide)
  · exact hpair 'f' (by decide)
  · simp only [Bool.and_eq_true, decide_eq_true_eq] at h8
    exact ascii_cons (by omega) ascii_nil
  · exact ascii_unitEscape h9
  · exact ascii_append (ascii_unitEscape (by omega)) (ascii_unitEscape (by omega))

theorem ascii_writeString (s : String) : Ascii (writeString s) := by
  refine ascii_cons (by decide) (ascii_append ?_ (ascii_cons (by decide) ascii_nil))
  intro c hc
  obtain ⟨d, -, hd⟩ := List.mem_flatMap.1 hc
  exact ascii_escapeChar d c hd

theorem ascii_positional {d : Decimal} (hd : d.Proper) : Ascii (NumberStyle.positional d) := by
  have hdigits := ascii_of_isDigit hd.isDigit
  unfold NumberStyle.positional
  split_ifs
  · exact ascii_cons (by decide) (ascii_cons (by decide)
      (ascii_append (ascii_replicate_zero _) hdigits))
  · refine ascii_append (ascii_append ?_ (ascii_replicate_zero _)) (ascii_cons (by decide) ?_)
    · exact fun c hc => hdigits c (List.mem_of_mem_take hc)
    · split_ifs
      · exact ascii_cons (by decide) ascii_nil
      · exact fun c hc => hdigits c (List.mem_of_mem_drop hc)

theorem ascii_scientific {d : Decimal} (hd : d.Proper) (style : NumberStyle) :
    Ascii (style.scientific d) := by
  have hdigits := ascii_of_isDigit hd.isDigit
  have hdrop : Ascii (d.digits.drop 1) := fun c hc => hdigits c (List.mem_of_mem_drop hc)
  have htake : Ascii (d.digits.take 1) := fun c hc => hdigits c (List.mem_of_mem_take hc)
  simp only [NumberStyle.scientific]
  refine ascii_append (ascii_append (ascii_append htake ?_) ?_) (ascii_toDigits _)
  · split_ifs
    · exact ascii_cons (by decide) (ascii_cons (by decide) ascii_nil)
    · exact ascii_nil
    · exact ascii_cons (by decide) hdrop
  · refine ascii_cons (by decide) (ascii_cons ?_ (ascii_replicate_zero _))
    split_ifs <;> decide

theorem ascii_magnitude {code : Nat} (le : code ≤ infinityCode) :
    Ascii (NumberStyle.document.magnitude code) := by
  rcases le.lt_or_eq with hfin | rfl
  · rcases Nat.eq_zero_or_pos code with rfl | hcode
    · exact ascii_cons (by decide) (ascii_cons (by decide) (ascii_cons (by decide) ascii_nil))
    · obtain ⟨hproper, -⟩ := Decimal.shortest_contains hcode hfin
      have hdigits : NumberStyle.document.digits code = Decimal.shortest code := rfl
      rw [NumberStyle.magnitude, if_neg (by simpa using hcode.ne'),
        if_neg (by simpa using hfin.ne)]
      simp only [hdigits]
      split_ifs
      · exact ascii_positional hproper
      · exact ascii_scientific hproper _
  · rw [magnitude_infinity]
    simp [Ascii]

theorem ascii_numberText (x : Binary64) : Ascii (NumberStyle.document.text x) := by
  rcases x with _ | ⟨_ | _, code, le⟩
  · simp [NumberStyle.text, NumberStyle.document, Ascii]
  · exact ascii_magnitude le
  · exact ascii_cons (by decide) (ascii_magnitude le)

theorem ascii_intText (n : Int) : Ascii (intText n) := by
  unfold intText
  split_ifs
  · exact ascii_cons (by decide) (ascii_toDigits _)
  · exact ascii_toDigits _

/-! ## Documents -/

theorem ascii_joinChars {sep : List Char} (hsep : Ascii sep) :
    (parts : List (List Char)) → (∀ p ∈ parts, Ascii p) → Ascii (joinChars sep parts)
  | [], _ => ascii_nil
  | [p], h => h p List.mem_cons_self
  | p :: q :: rest, h => by
    have hrest := ascii_joinChars hsep (q :: rest) fun r hr => h r (List.mem_cons_of_mem p hr)
    exact ascii_append (ascii_append (h p List.mem_cons_self) hsep) hrest

mutual

theorem ascii_writeChars : (v : Json) → Ascii (writeChars v)
  | .null => by simp [writeChars, Ascii]
  | .bool true => by simp [writeChars, Ascii]
  | .bool false => by simp [writeChars, Ascii]
  | .int n => by
    rw [writeChars]
    exact ascii_intText n
  | .num x => by
    rw [writeChars]
    exact ascii_numberText x
  | .str s => by
    rw [writeChars]
    exact ascii_writeString s
  | .arr items => by
    rw [writeChars]
    exact ascii_cons (by decide) (ascii_append (ascii_joinChars (ascii_cons (by decide) ascii_nil)
      _ (ascii_writeItems items)) (ascii_cons (by decide) ascii_nil))
  | .obj fields => by
    rw [writeChars]
    exact ascii_cons (by decide) (ascii_append (ascii_joinChars (ascii_cons (by decide) ascii_nil)
      _ (ascii_writeFields fields)) (ascii_cons (by decide) ascii_nil))

theorem ascii_writeItems : (items : List Json) → ∀ p ∈ writeItems items, Ascii p
  | [] => by simp [writeItems]
  | v :: rest => by
    rw [writeItems, List.forall_mem_cons]
    exact ⟨ascii_writeChars v, ascii_writeItems rest⟩

theorem ascii_writeFields : (fields : List (String × Json)) → ∀ p ∈ writeFields fields, Ascii p
  | [] => by simp [writeFields]
  | (name, v) :: rest => by
    rw [writeFields, List.forall_mem_cons]
    exact ⟨ascii_append (ascii_writeString name) (ascii_cons (by decide) (ascii_writeChars v)),
      ascii_writeFields rest⟩

end

/-- The bytes of a written document are read as that document. -/
theorem readBytes_write {v : Json} (hw : Writable v) : readBytes v.write.toUTF8.toList = .ok v := by
  rw [readBytes, write, decode_ascii (ascii_writeChars v)]
  exact read_write hw

end Json

end BoardQuery
