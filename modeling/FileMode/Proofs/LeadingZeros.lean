import FileMode.Mode.Rendering
import FileMode.Proofs.Kinds
import Mathlib.Data.List.Induction

/-!
# Leading zeros

A run of digits is **zeros with the significant digits of its value behind them**, and nothing else
(`Octal.exists_eq_replicate_append`). So all that a number leaves open of its numerals is how many
zeros there are: two numerals of a number are equal if they are equally long
(`Octal.eq_of_value_eq`), and the digits that are written for a number are the fewest that have its
value (`Octal.length_digits_le`).

Reading leaves the zeros open without any limit. It takes exactly the numerals of the numbers in
range, and every other text that does not begin like clauses fails at its first character
(`Mode.parse_eq_absolute_iff_isNumeral`). Rendering fixes the zeros by a width
(`Mode.render_absolute_eq`). The width counts the sign; it is **no** bound on what is written.
-/

namespace FileMode

namespace Octal

/-! ### Significant digits -/

/-- The digits of a number without leading zeros: of zero nothing is left. -/
def significant (n : Nat) : List Char := if n = 0 then [] else digits n

theorem significant_zero : significant 0 = [] := rfl

theorem significant_of_ne_zero {n : Nat} (h : n ≠ 0) : significant n = digits n := if_neg h

theorem value_significant (n : Nat) : value (significant n) = n := by
  rcases eq_or_ne n 0 with rfl | h
  · rfl
  · rw [significant_of_ne_zero h, value_digits]

theorem isDigit_of_mem_significant {n : Nat} {c : Char} (h : c ∈ significant n) :
    isDigit c = true := by
  rcases eq_or_ne n 0 with rfl | hn
  · contradiction
  · rw [significant_of_ne_zero hn] at h
    exact isDigit_of_mem_digits h

/-- One more digit makes a number eight times as large, and adds the digit to it. -/
theorem value_concat (text : List Char) {d : Nat} (h : d < 8) :
    value (text ++ [d.digitChar]) = 8 * value text + d := by
  rw [value, Nat.ofDigitChars_append, Nat.ofDigitChars_cons, Nat.ofDigitChars_nil,
    Nat.toNat_digitChar_of_lt_ten (by omega), value]
  exact congrArg _ (Nat.add_sub_cancel_left 48 d)

/-- One more digit is significant unless all is zero. -/
theorem significant_concat {n d : Nat} (hd : d < 8) (h : 8 * n + d ≠ 0) :
    significant (8 * n + d) = significant n ++ [d.digitChar] := by
  have hlast : digits d = [d.digitChar] := Nat.toDigits_of_lt_base hd
  rw [significant_of_ne_zero h]
  rcases Nat.eq_zero_or_pos n with rfl | hpos
  · rw [Nat.mul_zero, Nat.zero_add, hlast, significant_zero, List.nil_append]
  · rw [significant_of_ne_zero (by omega), ← hlast]
    exact (Nat.toDigits_append_toDigits (by decide) hpos hd).symm

/-- **Any digits are zeros with the significant digits of their value behind them.** -/
theorem exists_eq_replicate_append {text : List Char} (h : text.all isDigit = true) :
    ∃ zeros, text = List.replicate zeros '0' ++ significant (value text) := by
  -- the value of a text grows at its end, so that is where the text grows here
  induction text using List.reverseRecOn with
  | nil => exact ⟨0, rfl⟩
  | append_singleton front c ih =>
    rw [List.all_append, Bool.and_eq_true] at h
    obtain ⟨zeros, hfront⟩ := ih h.1
    have hc : isDigit c = true := List.all_eq_true.mp h.2 c List.mem_cons_self
    obtain ⟨d, hd, rfl⟩ := exists_digitChar_of_isDigit hc
    rw [value_concat front hd]
    rcases eq_or_ne (8 * value front + d) 0 with hzero | hne
    · -- all zeros so far, and another one
      obtain ⟨hvalue, rfl⟩ : value front = 0 ∧ d = 0 := by omega
      rw [hvalue, significant_zero, List.append_nil] at hfront
      refine ⟨zeros + 1, ?_⟩
      rw [hvalue, significant_zero, List.append_nil, List.replicate_succ', ← hfront]
      rfl
    · refine ⟨zeros, ?_⟩
      rw [significant_concat hd hne, ← List.append_assoc, ← hfront]

/-- Digits of the same value and the same length are the same. -/
theorem eq_of_value_eq {first second : List Char} (hfirst : first.all isDigit = true)
    (hsecond : second.all isDigit = true) (hvalue : value first = value second)
    (hlength : first.length = second.length) : first = second := by
  obtain ⟨zeros, hzeros⟩ := exists_eq_replicate_append hfirst
  obtain ⟨others, hothers⟩ := exists_eq_replicate_append hsecond
  rw [← hvalue] at hothers
  have hcount : zeros = others := by
    rw [hzeros, hothers] at hlength
    simpa using hlength
  rw [hzeros, hothers, hcount]

/-- **The digits that are written for a number are the fewest that have its value**: any others have
zeros in front. -/
theorem length_digits_le {text : List Char} (hne : text ≠ []) (h : text.all isDigit = true) :
    (digits (value text)).length ≤ text.length := by
  rcases eq_or_ne (value text) 0 with hzero | hpos
  · rw [hzero]
    exact List.length_pos_iff.mpr hne
  · obtain ⟨zeros, hzeros⟩ := exists_eq_replicate_append h
    rw [← significant_of_ne_zero hpos]
    calc
      (significant (value text)).length
      _ ≤ (List.replicate zeros '0' ++ significant (value text)).length := by simp
      _ = text.length := by rw [← hzeros]

/-- Only the digits of zero begin with a zero. -/
theorem eq_zero_of_head?_digits {n : Nat} (h : (digits n).head? = some '0') : n = 0 := by
  -- without the zero in front there would be fewer digits of the same value
  by_contra hne
  obtain ⟨rest, hrest⟩ := List.head?_eq_some_iff.mp h
  have hvalue : value rest = n := by
    rw [← value_digits n, hrest]
    exact (value_replicate_append 1 rest).symm
  have hrest_ne : rest ≠ [] := by
    rintro rfl
    exact hne hvalue.symm
  have hall : rest.all isDigit = true := List.all_eq_true.mpr fun c hc =>
    isDigit_of_mem_digits (n := n) (hrest ▸ List.mem_cons_of_mem '0' hc)
  have hle := length_digits_le hrest_ne hall
  rw [hvalue, hrest, List.length_cons] at hle
  omega

/-- A rendering begins its digits with a zero only if it is no longer than the width asks. -/
theorem length_render_of_head?_body {width : Nat} (hwidth : 0 < width) {n : Int}
    (h : (body width n).head? = some '0') : (render width n).length = width := by
  rw [length_render]
  rcases Nat.eq_zero_or_pos (width - ((sign n).length + (digits n.natAbs).length))
    with hfull | hroom
  · -- nothing was filled up, so the zero is the number
    rw [body, filling, hfull, List.replicate_zero, List.nil_append] at h
    obtain rfl : n = 0 := Int.natAbs_eq_zero.mp (eq_zero_of_head?_digits h)
    have hone : (sign 0).length + (digits (Int.natAbs 0)).length = 1 := by decide
    omega
  · omega

/-! ### Numerals -/

/-- A text **is a numeral** for a number: the number is in range, and the text is any number of
zeros with the significant digits of the number behind them, one character at least. -/
structure IsNumeral (text : List Char) (n : Int) : Prop where
  nonneg : 0 ≤ n
  le_largest : n ≤ largest
  ne_nil : text ≠ []
  exists_eq : ∃ zeros, text = List.replicate zeros '0' ++ significant n.natAbs

/-- **Reading takes exactly the numerals.** -/
theorem read?_eq_some_iff_isNumeral {text : List Char} {n : Int} :
    (∃ k, read? text = some k ∧ n = k) ↔ IsNumeral text n := by
  constructor
  · rintro ⟨k, hk, rfl⟩
    obtain ⟨hne, hall, rfl, hle⟩ := read?_eq_some_iff.mp hk
    exact ⟨by omega, by omega, hne, exists_eq_replicate_append hall⟩
  · rintro ⟨hnonneg, hle, hne, zeros, rfl⟩
    refine ⟨n.natAbs, read?_eq_some_iff.mpr ⟨hne, ?_, ?_, by omega⟩, by omega⟩
    · refine List.all_eq_true.mpr fun c hc => ?_
      rcases List.mem_append.mp hc with hc | hc
      · rw [List.eq_of_mem_replicate hc]
        decide
      · exact isDigit_of_mem_significant hc
    · rw [value_replicate_append, value_significant]

/-- A text is refused as a numeral exactly if it is one for no number. -/
theorem read?_eq_none_iff {text : List Char} :
    read? text = none ↔ ∀ n, ¬ IsNumeral text n := by
  constructor
  · intro h n hn
    obtain ⟨k, hk, -⟩ := read?_eq_some_iff_isNumeral.mpr hn
    rw [h] at hk
    contradiction
  · intro h
    exact Option.eq_none_iff_forall_ne_some.mpr fun k hk =>
      h k (read?_eq_some_iff_isNumeral.mp ⟨k, hk, rfl⟩)

/-- Digits of too large a number are no numeral. -/
theorem not_isNumeral_of_lt_value {text : List Char} (h : largest < value text) (n : Int) :
    ¬ IsNumeral text n := by
  intro hn
  obtain ⟨k, hk, -⟩ := read?_eq_some_iff_isNumeral.mpr hn
  obtain ⟨-, -, rfl, hle⟩ := read?_eq_some_iff.mp hk
  omega

/-- The rendering of a number in range is the only numeral for it that is as long. -/
theorem eq_render_iff (width : Nat) {n : Int} (hnonneg : 0 ≤ n) (hle : n ≤ largest)
    {text : List Char} :
    text = render width n ↔
      (∃ k, read? text = some k ∧ n = k) ∧ text.length = (render width n).length := by
  constructor
  · rintro rfl
    exact ⟨⟨n.natAbs, by rw [read?_render width hnonneg, if_pos hle], by omega⟩, rfl⟩
  · rintro ⟨⟨k, hk, rfl⟩, hlength⟩
    obtain ⟨-, hall, hvalue, -⟩ := read?_eq_some_iff.mp hk
    rw [render_of_nonneg width hnonneg] at hlength ⊢
    refine eq_of_value_eq hall (all_isDigit_body width k) ?_ hlength
    rw [hvalue, value_body, Int.natAbs_natCast]

end Octal

/-! ### Reading -/

/-- The characters that a text of clauses can begin with. -/
def clauseStarts : List Char := ['u', 'g', 'o', 'a', '+', '-', '=', ',']

/-- No segment begins with any other character. -/
theorem Segment.extend?_empty_of_not_mem {c : Char} (h : c ∉ clauseStarts) :
    Segment.empty.extend? c = none := by
  have hsymbol : Operator.ofSymbol? c = none := Option.eq_none_iff_forall_ne_some.mpr fun o ho => by
    rw [Operator.ofSymbol?_eq_some_iff.mp ho] at h
    cases o <;> exact h (by decide)
  have hletter : Who.ofLetter? c = none := Option.eq_none_iff_forall_ne_some.mpr fun w hw => by
    rw [Who.ofLetter?_eq_some_iff.mp hw] at h
    rcases w with s | _
    · cases s <;> exact h (by decide)
    · exact h (by decide)
  rw [Segment.extend?_of_ofSymbol?_eq_none hsymbol, Segment.empty, Segment.extendLetter?_nil,
    hletter, Option.map_none]

/-- A text that begins with any other character fails there, as clauses. -/
theorem Scan.feedAll_of_not_mem {c : Char} (h : c ∉ clauseStarts) (position : Nat)
    (rest : List Char) : ({} : Scan).feedAll position (c :: rest) = .error ⟨c, position⟩ := by
  have hcomma : c ≠ ',' := by
    rintro rfl
    exact h (by decide)
  have hrefused : (behind [] Segment.empty).feed? c = none :=
    feed?_behind_eq_none_iff.mpr ⟨hcomma, Segment.extend?_empty_of_not_mem h⟩
  rw [feedAll, ← behind_empty, hrefused]

/-- A digit is no character that clauses can begin with. -/
theorem not_mem_clauseStarts_of_isDigit {c : Char} (h : Octal.isDigit c = true) :
    c ∉ clauseStarts := by
  have hall : clauseStarts.all (fun d => !Octal.isDigit d) = true := by decide
  intro hc
  have hno := List.all_eq_true.mp hall c hc
  rw [h] at hno
  contradiction

namespace Mode

/-- A text that begins neither like clauses nor is a numeral fails at its first character. -/
theorem parse_eq_error_of_not_mem {text : String} {c : Char} (hhead : text.toList.head? = some c)
    (hc : c ∉ clauseStarts) (hnumeral : ∀ n, ¬ Octal.IsNumeral text.toList n) :
    parse text = .error ⟨c, 0⟩ := by
  obtain ⟨rest, htext⟩ := List.head?_eq_some_iff.mp hhead
  refine ofChars_eq_error_iff.mpr ⟨Octal.read?_eq_none_iff.mpr hnumeral, ?_⟩
  rw [htext]
  exact Scan.feedAll_of_not_mem hc 0 rest

/-- **Which texts are absolute modes.** A text is read as a number exactly if it is a numeral for
it: any number of zeros, and behind them the significant digits of the number, which is in range.
Where the text is no numeral no number is read, and unless it begins like clauses it fails at its
first character; so do digits of a number out of range, however many there are. -/
theorem parse_eq_absolute_iff_isNumeral (text : String) :
    (∀ n : Int, (Octal.read? text.toList).map Int.ofNat = some n ↔
      Octal.IsNumeral text.toList n) ∧
    (Octal.read? text.toList = none ↔ ∀ n, ¬ Octal.IsNumeral text.toList n) ∧
    (∀ n : Int, parse text = .ok (absolute n) ↔ Octal.IsNumeral text.toList n) ∧
    (∀ c, text.toList.head? = some c → c ∉ clauseStarts →
      (∀ n, ¬ Octal.IsNumeral text.toList n) → parse text = .error ⟨c, 0⟩) ∧
    (text.toList.all Octal.isDigit = true → Octal.largest < Octal.value text.toList →
      ∃ c, text.toList.head? = some c ∧ parse text = .error ⟨c, 0⟩) := by
  refine ⟨fun n => ?_, Octal.read?_eq_none_iff, fun n => ?_,
    fun c hhead hc hnumeral => parse_eq_error_of_not_mem hhead hc hnumeral, fun hall hlarge => ?_⟩
  · rw [Option.map_eq_some_iff, ← Octal.read?_eq_some_iff_isNumeral]
    exact exists_congr fun k => and_congr_right fun _ => eq_comm
  · exact ofChars_eq_absolute_iff.trans Octal.read?_eq_some_iff_isNumeral
  · rcases htext : text.toList with _ | ⟨c, rest⟩
    · rw [htext] at hlarge
      contradiction
    · have hhead : text.toList.head? = some c := by rw [htext]; rfl
      rw [htext] at hall
      have hc : Octal.isDigit c = true := List.all_eq_true.mp hall c List.mem_cons_self
      exact ⟨c, rfl, parse_eq_error_of_not_mem hhead (not_mem_clauseStarts_of_isDigit hc)
        (Octal.not_isNumeral_of_lt_value hlarge)⟩

/-- A numeral with many zeros in front, and digits of a number that is out of range by one. -/
theorem parse_eq_absolute_iff_isNumeral_bounds :
    Octal.IsNumeral "00000000000037777777777".toList 0xFFFFFFFF ∧
    parse "00000000000037777777777" = .ok (absolute 0xFFFFFFFF) ∧
    (∃ c, "40000000000".toList.head? = some c ∧ parse "40000000000" = .error ⟨c, 0⟩) ∧
    parse "0o755x" = .error ⟨'0', 0⟩ := by
  have hnumeral : Octal.IsNumeral "00000000000037777777777".toList 0xFFFFFFFF :=
    ⟨by decide, by decide, by decide, 12, by decide⟩
  obtain ⟨-, -, habsolute, -, -⟩ := parse_eq_absolute_iff_isNumeral "00000000000037777777777"
  obtain ⟨-, -, -, -, hlarge⟩ := parse_eq_absolute_iff_isNumeral "40000000000"
  obtain ⟨-, hnone, -, hother, -⟩ := parse_eq_absolute_iff_isNumeral "0o755x"
  exact ⟨hnumeral, (habsolute _).mpr hnumeral, hlarge (by decide) (by decide),
    hother '0' (by decide) (by decide) (hnone.mp (by decide))⟩

/-! ### Rendering -/

theorem toList_render_absolute (n : Int) :
    (absolute n).render.toList = Octal.render width n := String.toList_ofList

/-- **The text of an absolute mode**, for any integer. It is digits of the absolute value, behind a
minus exactly if the number is negative, and it is as long as the shortest such text, or has four
characters if that has fewer; only at this length do the digits begin with a zero. Of the numerals
for a number in range it is the only one of its length. -/
theorem render_absolute_eq (n : Int) :
    ∃ body : List Char,
      (absolute n).render.toList = (if n < 0 then ['-'] else []) ++ body ∧
      body ≠ [] ∧ body.all Octal.isDigit = true ∧ Octal.value body = n.natAbs ∧
      (absolute n).render.length = max 4 (Octal.sign n ++ Octal.digits n.natAbs).length ∧
      (∀ other : List Char, other ≠ [] → other.all Octal.isDigit = true →
        Octal.value other = n.natAbs → (Octal.digits n.natAbs).length ≤ other.length) ∧
      (body.head? = some '0' → (absolute n).render.length = 4) ∧
      (0 ≤ n → n ≤ Octal.largest → ∀ text : String,
        text = (absolute n).render ↔
          (Octal.read? text.toList).map Int.ofNat = some n ∧
            text.length = max 4 (Octal.digits n.natAbs).length) := by
  have hlength : (absolute n).render.length =
      max 4 (Octal.sign n ++ Octal.digits n.natAbs).length := by
    rw [← String.length_toList, toList_render_absolute, Octal.length_render, List.length_append]
    rfl
  have hbody : (absolute n).render.toList =
      (if n < 0 then ['-'] else []) ++ Octal.body width n := by
    rw [toList_render_absolute, Octal.render, Octal.sign, List.append_assoc]
    rfl
  have hne : Octal.body width n ≠ [] := by
    obtain ⟨d, rest, hcons, -⟩ := Octal.exists_body_eq_cons width n
    rw [hcons]
    exact List.cons_ne_nil d rest
  refine ⟨Octal.body width n, hbody, hne, Octal.all_isDigit_body width n, Octal.value_body width n,
    hlength, fun other hother hall hvalue => ?_, fun hzero => ?_, fun hnonneg hle text => ?_⟩
  · rw [← hvalue]
    exact Octal.length_digits_le hother hall
  · rw [← String.length_toList, toList_render_absolute]
    exact Octal.length_render_of_head?_body (by decide) hzero
  · have hsign : Octal.sign n = [] := if_neg (by omega)
    rw [hsign, List.nil_append] at hlength
    rw [← String.toList_inj, toList_render_absolute, Octal.eq_render_iff width hnonneg hle,
      Option.map_eq_some_iff, ← hlength, ← toList_render_absolute, String.length_toList,
      String.length_toList]
    exact and_congr_left' (exists_congr fun k => and_congr_right fun _ => eq_comm)

/-- A number with two digits, filled up to four, and a negative one that needs a digit more. -/
theorem render_absolute_eq_filled :
    (∃ body : List Char, (absolute 63).render.toList = body ∧ body.head? = some '0' ∧
      (absolute 63).render.length = 4) ∧
    ((0 : Int) ≤ 63 ∧ (63 : Int) ≤ Octal.largest ∧ ∀ text : String,
      text = (absolute 63).render ↔
        (Octal.read? text.toList).map Int.ofNat = some 63 ∧ text.length = 4) ∧
    (Octal.digits 63).length ≤ "077".toList.length ∧
    (absolute (-512)).render.length = 5 := by
  obtain ⟨body, hbody, -, -, -, -, hfewest, hzero, hunique⟩ := render_absolute_eq 63
  obtain ⟨-, -, -, -, -, hlength, -, -, -⟩ := render_absolute_eq (-512)
  have htext : (absolute 63).render.toList = ['0', '0', '7', '7'] := by decide +kernel
  have hhead : body.head? = some '0' := by
    have hfilled : body = ['0', '0', '7', '7'] := hbody.symm.trans htext
    rw [hfilled]
    rfl
  exact ⟨⟨body, hbody, hhead, hzero hhead⟩,
    ⟨by decide, by decide, hunique (by decide) (by decide)⟩,
    hfewest "077".toList (by decide) (by decide) (by decide), hlength⟩

end Mode

end FileMode
