import TopDown.Proofs.Text.Lines
import TopDown.Text.Escape
import TopDown.Text.Hex

/-!
# Reading string literals

What stands between the quotes of a string literal is read back one character after the other, with
the character that each escape stands for. So a literal has one meaning, and where it ends is told
by the literal alone.

* `charOfHex?_toDigits` : a code point is read back from its hexadecimal digits;
* `Literal.readChar`, `Literal.readChar_escape` : every character is read back from its escape;
* `Literal.Body` : a text that ends no literal and breaks no line; `Literal.body_escapeString`;
* `quoteString_append_inj` : literals with any text behind them are equal only if the strings and
  the texts behind them are.
-/

namespace TopDown.Text

/-! ## Code points -/

theorem hexValue?_digitChar {n : Nat} (h : n < 16) : hexValue? n.digitChar = some n := by
  match n with
  | 0 | 1 | 2 | 3 | 4 | 5 | 6 | 7 | 8 | 9 | 10 | 11 | 12 | 13 | 14 | 15 => rfl
  | n + 16 => omega

theorem mapM_hexValue?_toDigits (n : Nat) :
    ∃ values, (Nat.toDigits 16 n).mapM hexValue? = some values ∧
      values.foldl (16 * · + ·) 0 = n := by
  induction n using Nat.strongRecOn with
  | ind n ih =>
    rw [Nat.toDigits_eq_if (by decide)]
    split
    · rename_i hlt
      exact ⟨[n], by simp [hexValue?_digitChar hlt], by simp⟩
    · obtain ⟨values, hvalues, hfold⟩ := ih (n / 16) (by omega)
      have hlast := hexValue?_digitChar (Nat.mod_lt n (by decide : 16 > 0))
      refine ⟨values ++ [n % 16], ?_, ?_⟩
      · rw [List.mapM_append, hvalues]
        simp [hlast]
      · rw [List.foldl_append, hfold, List.foldl_cons, List.foldl_nil]
        exact Nat.div_add_mod n 16

/-- A character is read back from the digits of its code point. -/
theorem charOfHex?_toDigits (c : Char) : charOfHex? (Nat.toDigits 16 c.toNat) = some c := by
  obtain ⟨values, hvalues, hfold⟩ := mapM_hexValue?_toDigits c.toNat
  have hne : (Nat.toDigits 16 c.toNat).isEmpty = false := by
    simp [Nat.toDigits_ne_nil]
  have hvalid : c.toNat.isValidChar := c.valid
  rw [charOfHex?, hne, hvalues]
  simp only [Bool.false_eq_true, if_false, hfold, scalar?, hvalid, if_true, Char.ofNat_toNat]

theorem exists_digit_of_mem_toDigits {c : Char} {n : Nat} (h : c ∈ Nat.toDigits 16 n) :
    ∃ k < 16, c = Nat.digitChar k := by
  induction n using Nat.strongRecOn with
  | ind n ih =>
    rw [Nat.toDigits_eq_if (by decide)] at h
    split at h
    · exact ⟨n, ‹_›, List.mem_singleton.1 h⟩
    · rcases List.mem_append.1 h with h | h
      · exact ih (n / 16) (by omega) h
      · exact ⟨n % 16, Nat.mod_lt n (by decide), List.mem_singleton.1 h⟩

namespace Literal

/-! ## Characters -/

/-- The character of an escape, behind its backslash, and the rest after it. -/
def readEscape : List Char → Option (Char × List Char)
  | 't' :: s => some ('\t', s)
  | 'n' :: s => some ('\n', s)
  | 'r' :: s => some ('\r', s)
  | '\\' :: s => some ('\\', s)
  | '"' :: s => some ('"', s)
  | '0' :: s => some ('\x00', s)
  | 'x' :: '0' :: '0' :: s => some ('\x00', s)
  | 'u' :: '\x7b' :: s =>
    match s.dropWhile (· != '\x7d') with
    | _ :: rest => (charOfHex? (s.takeWhile (· != '\x7d'))).map (·, rest)
    | [] => none
  | _ => none

/-- The first character inside a literal and the rest after it, unless the literal ends. -/
def readChar : List Char → Option (Char × List Char)
  | [] => none
  | c :: s => if c = '"' then none else if c = '\\' then readEscape s else some (c, s)

/-- The escape of a character in front of the others of its literal. -/
def escape (c : Char) (s : List Char) : String :=
  if c = '\x00' then escapeNul s else if c = '"' then "\\\"" else escapeChar c

theorem escapeString_cons (c : Char) (s : List Char) :
    escapeString (c :: s) = escape c s ++ escapeString s := rfl

theorem readEscape_code (c : Char) (rest : List Char) :
    readEscape ('u' :: '\x7b' :: (Nat.toDigits 16 c.toNat ++ '\x7d' :: rest)) =
      some (c, rest) := by
  have hdigits : ∀ d ∈ Nat.toDigits 16 c.toNat, (d != '\x7d') = true := by
    intro d hd
    obtain ⟨k, hk, rfl⟩ := exists_digit_of_mem_toDigits hd
    rw [bne_iff_ne]
    exact Nat.digitChar_ne _ (by decide)
  rw [readEscape, dropWhile_append_stop hdigits (stops_cons (by decide) rest),
    takeWhile_append_stop hdigits (stops_cons (by decide) rest), charOfHex?_toDigits]
  rfl

/-- A character that stands for itself in a literal. -/
def IsPlain (c : Char) : Prop := c ≠ '"' ∧ c ≠ '\\' ∧ c ≠ '\n' ∧ c ≠ '\r'

instance (c : Char) : Decidable (IsPlain c) := inferInstanceAs (Decidable (_ ∧ _))

/-- The text is the escape of `c` by a backslash. -/
def Escapes (c : Char) (text : List Char) : Prop :=
  ∃ e more, text = '\\' :: e :: more ∧ e ≠ '\n' ∧ e ≠ '\r' ∧ (∀ d ∈ more, IsPlain d) ∧
    ∀ rest, readEscape (e :: (more ++ rest)) = some (c, rest)

theorem escapes_code (c : Char) : Escapes c (escapeCode c).toList := by
  refine ⟨'u', '\x7b' :: (Nat.toDigits 16 c.toNat ++ ['\x7d']), by simp [escapeCode], by decide,
    by decide, ?_, fun rest => ?_⟩
  · intro d hd
    simp only [List.mem_cons, List.mem_append, List.not_mem_nil, or_false] at hd
    rcases hd with rfl | hd | rfl
    · decide
    · obtain ⟨k, hk, rfl⟩ := exists_digit_of_mem_toDigits hd
      exact ⟨Nat.digitChar_ne _ (by decide), Nat.digitChar_ne _ (by decide),
        Nat.digitChar_ne _ (by decide), Nat.digitChar_ne _ (by decide)⟩
    · decide
  · rw [List.cons_append, List.append_assoc, List.singleton_append]
    exact readEscape_code c rest

theorem escapes_nul (s : List Char) : Escapes '\x00' (escapeNul s).toList := by
  have hshort : Escapes '\x00' "\\0".toList :=
    ⟨'0', [], rfl, by decide, by decide, List.forall_mem_nil _, fun _ => rfl⟩
  unfold escapeNul
  split
  · split
    · have hzeros : ∀ d ∈ ['0', '0'], IsPlain d :=
        List.forall_mem_cons.2 ⟨by decide, List.forall_mem_singleton.2 (by decide)⟩
      exact ⟨'x', ['0', '0'], rfl, by decide, by decide, hzeros, fun _ => rfl⟩
    · exact hshort
  · exact hshort

/-- A character is escaped by a backslash or stands for itself. -/
theorem escape_cases (c : Char) (s : List Char) :
    Escapes c (escape c s).toList ∨ (escape c s).toList = [c] ∧ IsPlain c := by
  have hname {e : Char} (he : e ≠ '\n' ∧ e ≠ '\r')
      (hread : ∀ rest, readEscape (e :: rest) = some (c, rest)) : Escapes c ['\\', e] :=
    ⟨e, [], rfl, he.1, he.2, by simp, hread⟩
  unfold escape
  split
  · rename_i hc
    exact .inl (hc ▸ escapes_nul s)
  split
  · rename_i hc
    exact .inl (hname (e := '"') (by decide) fun _ => by rw [hc]; rfl)
  rename_i hquote
  unfold escapeChar
  split
  · rename_i hc
    exact .inl (hname (e := 't') (by decide) fun _ => by rw [hc]; rfl)
  split
  · rename_i hc
    exact .inl (hname (e := 'n') (by decide) fun _ => by rw [hc]; rfl)
  split
  · rename_i hc
    exact .inl (hname (e := 'r') (by decide) fun _ => by rw [hc]; rfl)
  split
  · rename_i hc
    exact .inl (hname (e := '\\') (by decide) fun _ => by rw [hc]; rfl)
  split
  · exact .inl (escapes_code c)
  · exact .inr ⟨String.toList_singleton c, hquote, ‹_›, ‹_›, ‹_›⟩

/-- Every character is read back from its escape. -/
theorem readChar_escape (c : Char) (s rest : List Char) :
    readChar ((escape c s).toList ++ rest) = some (c, rest) := by
  rcases escape_cases c s with ⟨e, more, htext, -, -, -, hread⟩ | ⟨htext, hplain⟩
  · rw [htext, List.cons_append, List.cons_append, readChar, if_neg (by decide), if_pos rfl, hread]
  · rw [htext, List.singleton_append, readChar, if_neg hplain.1, if_neg hplain.2.1]

/-! ## Literals -/

/-- The inside of a literal on one line. A backslash takes the character after it along. -/
inductive Body : List Char → Prop where
  | nil : Body []
  | plain {c : Char} {s : List Char} : IsPlain c → Body s → Body (c :: s)
  | escaped {c : Char} {s : List Char} : c ≠ '\n' → c ≠ '\r' → Body s → Body ('\\' :: c :: s)

theorem body_append_of_plain {s t : List Char} (hs : ∀ c ∈ s, IsPlain c) (ht : Body t) :
    Body (s ++ t) := by
  induction s with
  | nil => exact ht
  | cons c s ih =>
    obtain ⟨hc, hs⟩ := List.forall_mem_cons.1 hs
    exact .plain hc (ih hs)

theorem body_escapeString (s : List Char) : Body (escapeString s).toList := by
  induction s with
  | nil => exact .nil
  | cons c s ih =>
    rw [escapeString_cons, String.toList_append]
    rcases escape_cases c s with ⟨e, more, htext, hn, hr, hmore, -⟩ | ⟨htext, hplain⟩
    · rw [htext]
      exact .escaped hn hr (body_append_of_plain hmore ih)
    · rw [htext]
      exact .plain hplain ih

/-- The insides of two literals that are followed by a quote agree only if the strings do. -/
theorem escapeString_append_inj {s t r r' : List Char}
    (h : (escapeString s).toList ++ '"' :: r = (escapeString t).toList ++ '"' :: r') :
    s = t ∧ r = r' := by
  have hend (r : List Char) : readChar ((escapeString []).toList ++ '"' :: r) = none := rfl
  have hchar (c : Char) (s r : List Char) :
      readChar ((escapeString (c :: s)).toList ++ '"' :: r) =
        some (c, (escapeString s).toList ++ '"' :: r) := by
    rw [escapeString_cons, String.toList_append, List.append_assoc, readChar_escape]
  induction s generalizing t with
  | nil =>
    cases t with
    | nil => exact ⟨rfl, (List.cons.inj h).2⟩
    | cons d t =>
      have hread := hchar d t r'
      rw [← h, hend] at hread
      cases hread
  | cons c s ih =>
    have hread := hchar c s r
    cases t with
    | nil =>
      rw [h, hend] at hread
      cases hread
    | cons d t =>
      rw [h, hchar, Option.some.injEq, Prod.mk.injEq] at hread
      obtain ⟨rfl, htail⟩ := hread
      obtain ⟨rfl, rfl⟩ := ih htail.symm
      exact ⟨rfl, rfl⟩

end Literal

theorem quoteString_append_inj {s t : String} {r r' : List Char}
    (h : (quoteString s).toList ++ r = (quoteString t).toList ++ r') : s = t ∧ r = r' := by
  simp only [quoteString, String.toList_append, List.append_assoc] at h
  obtain ⟨hs, hr⟩ := Literal.escapeString_append_inj (List.cons.inj h).2
  exact ⟨String.toList_inj.1 hs, hr⟩

end TopDown.Text
