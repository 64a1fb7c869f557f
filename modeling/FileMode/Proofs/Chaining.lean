import FileMode.Proofs.OpenSegment

/-!
# Texts chained at a symbol

A text that begins with the symbol of an operator goes on where another text ends: whatever is open
there, the symbol ends it and begins an action. So the two are read **as they are alone, but for one
place**, where the actions of the one's last clause and of the other's first clause become those of
one clause (`Mode.parse_append_symbol`). Behind a comma, and behind nothing at all, there is no
clause to go on with, and the clauses stand side by side.

On segments this is one operation, `Segment.chain`, which puts the phrases of a segment behind those
of another. A failure in the second text stays one, since the last phrase alone settles what a
segment can grow by (`Segment.extend?_chain`).
-/

namespace FileMode

/-! ### Chained segments -/

namespace Segment

/-- The segment with the phrases of another one behind its own. -/
def chain (s t : Segment) : Segment := ⟨s.who, s.phrases ++ t.phrases⟩

variable {s t : Segment}

theorem chars_chain (ht : t.who = []) : (s.chain t).chars = s.chars ++ t.chars := by
  rw [chars, chars, chars, chain, ht, List.flatMap_append, List.map_nil, List.nil_append,
    List.append_assoc]

/-- Nothing stands in front of what is chained to the empty segment. -/
theorem chain_empty (ht : t.who = []) : empty.chain t = t := by
  obtain ⟨who, phrases⟩ := t
  obtain rfl : who = [] := ht
  rfl

/-- Chaining two segments joins their texts, whatever stands in front of the one and behind the
other. -/
theorem charsOfList_chain (done : List Segment) (s : Segment) (ht : t.who = [])
    (rest : List Segment) :
    charsOfList (done ++ s.chain t :: rest) =
      charsOfList (done ++ [s]) ++ charsOfList (t :: rest) := by
  induction done with
  | nil =>
    rcases eq_or_ne rest [] with rfl | hrest
    · simp only [List.nil_append, charsOfList_singleton, chars_chain ht]
    · rw [List.nil_append, List.nil_append, charsOfList_cons hrest, charsOfList_cons hrest,
        charsOfList_singleton, chars_chain ht, List.append_assoc]
  | cons d done ih =>
    rw [List.cons_append, List.cons_append, charsOfList_cons (by simp), charsOfList_cons (by simp),
      ih]
    simp only [List.append_assoc, List.cons_append]

/-- What a segment can grow by is settled by the phrases that are chained to it. -/
theorem extend?_chain (s : Segment) (ht : t.phrases ≠ []) (c : Char) :
    (s.chain t).extend? c = (t.extend? c).map s.chain := by
  rcases t.eq_nil_or_concat with hnil | ⟨phrases, o, operand, hconcat⟩
  · rw [hnil] at ht
    contradiction
  · have hchain : s.chain t = ⟨s.who, s.phrases ++ phrases ++ [⟨o, operand⟩]⟩ := by
      rw [hconcat, chain, List.append_assoc]
    rw [hchain, hconcat]
    rcases hc : Operator.ofSymbol? c with _ | o'
    · rw [extend?_of_ofSymbol?_eq_none hc, extend?_of_ofSymbol?_eq_none hc, extendLetter?_concat,
        extendLetter?_concat]
      cases operand.extend? c <;> simp [chain]
    · obtain rfl := Operator.ofSymbol?_eq_some_iff.mp hc
      rw [extend?_symbol, extend?_symbol]
      simp [chain]

/-- The clause of chained segments has the actions of both. -/
theorem clause?_chain {c d : Clause} (hs : s.clause? = some c) (ht : t.clause? = some d) :
    (s.chain t).clause? = some { c with actions := c.actions ++ d.actions } := by
  obtain ⟨hne, rfl⟩ := clause?_eq_some_iff.mp hs
  obtain ⟨-, rfl⟩ := clause?_eq_some_iff.mp ht
  refine clause?_eq_some_iff.mpr ⟨fun hchain => ?_, ?_⟩
  · obtain ⟨hwho, hphrases⟩ := eq_empty_iff.mp hchain
    exact hne (eq_empty_iff.mpr ⟨hwho, (List.append_eq_nil_iff.mp hphrases).1⟩)
  · rw [chain, List.map_append]

end Segment

/-! ### Texts that begin with a symbol -/

/-- The text of segments is that of the first with a comma behind it, or with nothing. -/
theorem Segment.exists_charsOfList_cons (s : Segment) (rest : List Segment) :
    ∃ back, charsOfList (s :: rest) = s.chars ++ back ∧ ∀ c ∈ back.head?, c = ',' := by
  rcases eq_or_ne rest [] with rfl | hrest
  · exact ⟨[], by rw [charsOfList_singleton, List.append_nil], fun c hc => by contradiction⟩
  · exact ⟨_, charsOfList_cons hrest, fun c hc => (Option.some.inj hc).symm⟩

/-- The first segment of a text that begins with a symbol has phrases, and nothing in front of
them. -/
theorem Derived.first_of_symbol {o : Operator} {text : List Char} {s : Segment}
    {rest : List Segment} (h : Derived (o.symbol :: text) (s :: rest)) :
    s.who = [] ∧ s.phrases ≠ [] := by
  obtain ⟨back, hback, hcomma⟩ := s.exists_charsOfList_cons rest
  have htext : o.symbol :: text = s.chars ++ back := h.2.trans hback
  have hwho : s.who = [] := by
    rcases hw : s.who with _ | ⟨w, more⟩
    · rfl
    · rw [Segment.chars, hw] at htext
      have hletter := w.ofSymbol?_letter
      rw [← (List.cons.inj htext).1, Operator.ofSymbol?_symbol] at hletter
      contradiction
  refine ⟨hwho, fun hphrases => ?_⟩
  -- an empty segment leaves the symbol to what stands behind it, which is a comma
  have hchars := Segment.chars_eq_nil_iff.mpr (Segment.eq_empty_iff.mpr ⟨hwho, hphrases⟩)
  rw [hchars, List.nil_append] at htext
  have hsymbol := hcomma o.symbol (by rw [← htext]; rfl)
  cases o <;> contradiction

/-- A text that begins with a symbol can stand behind any text that is taken: it is taken there if
it is alone, and what then is refused is refused there too. -/
theorem Scan.exists_feedAll_append_symbol {first rest : List Char} {done : List Segment}
    {last : Segment} {o : Operator} {t : Scan} (hfirst : Derived first (done ++ [last]))
    (hrest : ({} : Scan).feedAll 0 (o.symbol :: rest) = .ok t) :
    ∃ u, ({} : Scan).feedAll 0 (first ++ o.symbol :: rest) = .ok u ∧
      ∀ c, t.feed? c = none → u.feed? c = none := by
  obtain ⟨done', last', hderived, rfl⟩ := feedAll_eq_ok_iff.mp hrest
  rcases done' with _ | ⟨s, done'⟩
  · -- the open segment of the second text is the one that is chained
    obtain ⟨hwho, hphrases⟩ := hderived.first_of_symbol
    refine ⟨behind done (last.chain last'), feedAll_eq_ok_iff.mpr ⟨_, _, ⟨by simp, ?_⟩, rfl⟩,
      fun c hc => ?_⟩
    · rw [hfirst.2, hderived.2, List.nil_append, Segment.charsOfList_chain done last hwho]
    · obtain ⟨hcomma, hnone⟩ := feed?_behind_eq_none_iff.mp hc
      refine feed?_behind_eq_none_iff.mpr ⟨hcomma, ?_⟩
      rw [Segment.extend?_chain last hphrases, hnone, Option.map_none]
  · refine ⟨behind (done ++ last.chain s :: done') last',
      feedAll_eq_ok_iff.mpr ⟨_, _, ⟨by simp, ?_⟩, rfl⟩, fun c hc => ?_⟩
    · rw [hfirst.2, hderived.2, List.cons_append, List.append_assoc, List.cons_append,
        Segment.charsOfList_chain done last hderived.first_of_symbol.1]
    · exact feed?_behind_eq_none_iff.mpr (feed?_behind_eq_none_iff.mp hc)

namespace Mode

/-- A failure behind a symbol stays one behind any text of segments. -/
theorem ofChars_append_symbol_of_error {first rest : List Char} {done : List Segment}
    {last : Segment} {o : Operator} {e : Unexpected} (hfirst : Derived first (done ++ [last]))
    (hrest : ofChars (o.symbol :: rest) = .error e) :
    ofChars (first ++ o.symbol :: rest) = .error ⟨e.char, first.length + e.position⟩ := by
  obtain ⟨front, back, t, htext, hposition, hfront, ht⟩ :=
    Scan.feedAll_eq_error_iff.mp (ofChars_eq_error_iff.mp hrest).2
  rcases front with _ | ⟨c, front⟩
  · -- the symbol itself is never refused
    cases hfront
    rw [← (List.cons.inj htext).1, ← Scan.behind_empty, Scan.feed?_behind_symbol] at ht
    contradiction
  · obtain ⟨rfl, hrest⟩ := List.cons.inj htext
    obtain ⟨u, hu, hrefused⟩ := Scan.exists_feedAll_append_symbol hfirst hfront
    have hlength : first.length + e.position = (first ++ o.symbol :: front).length := by
      rw [hposition, Nat.zero_add, List.length_append]
    refine ofChars_eq_error_of_ne_zero (Scan.feedAll_eq_error_iff.mpr
      ⟨first ++ o.symbol :: front, back, u, ?_, ?_, hu, hrefused _ ht⟩) ?_
    · rw [hrest, List.append_assoc]
      rfl
    · rw [Nat.zero_add]
      exact hlength
    · show first.length + e.position ≠ 0
      rw [hlength, List.length_append, List.length_cons]
      omega

/-- The clauses of two texts chained at a symbol are those of the segments, with two of them
chained. -/
theorem ofChars_append_symbol {first rest : List Char} {done more : List Segment}
    {last s : Segment} {o : Operator} (hfirst : Derived first (done ++ [last]))
    (hrest : Derived (o.symbol :: rest) (s :: more)) :
    ofChars (first ++ o.symbol :: rest) =
      .ok (symbolic ((done ++ last.chain s :: more).filterMap Segment.clause?)) := by
  refine ofChars_eq_symbolic_iff.mpr ⟨_, ⟨by simp, ?_⟩, rfl⟩
  rw [hfirst.2, hrest.2, Segment.charsOfList_chain done last hrest.first_of_symbol.1]

/-- A text that begins with a symbol is no numeral, and has a clause if it is a mode. -/
theorem exists_clause_of_symbol {rest : List Char} {o : Operator} {m : Mode}
    (h : ofChars (o.symbol :: rest) = .ok m) :
    ∃ s more c, Derived (o.symbol :: rest) (s :: more) ∧ s.clause? = some c ∧
      m = symbolic (c :: more.filterMap Segment.clause?) := by
  rcases m with value | clauses
  · obtain ⟨n, hn, -⟩ := ofChars_eq_absolute_iff.mp h
    obtain ⟨d, digits, htext, hd⟩ := Octal.exists_digit_of_read? hn
    have hsymbol := (Octal.kinds_of_isDigit hd).1
    rw [← (List.cons.inj htext).1, Operator.ofSymbol?_symbol] at hsymbol
    contradiction
  · obtain ⟨segments, hderived, rfl⟩ := ofChars_eq_symbolic_iff.mp h
    obtain ⟨s, more, rfl⟩ := List.exists_cons_of_ne_nil hderived.1
    have hne : s ≠ Segment.empty := by
      rintro rfl
      exact hderived.first_of_symbol.2 rfl
    have hc := Segment.clause?_eq_some_iff.mpr ⟨hne, rfl⟩
    exact ⟨s, more, _, hderived, hc, by rw [List.filterMap_cons_some hc]⟩

/-- **Two texts chained at a symbol.** Behind a text that is read as clauses, a text that begins
with a symbol fails as it does alone, or else both are read as they are alone, but for one place:
the first clause of the second text leaves its actions to the last clause of the first one, unless
the first text is empty or ends with a comma. A text that begins with a symbol and is a mode has a
first clause. -/
theorem parse_append_symbol {first second : String} {clauses : List Clause} {o : Operator}
    (hfirst : parse first = .ok (symbolic clauses))
    (hsymbol : second.toList.head? = some o.symbol) :
    (∀ e, parse second = .error e →
      parse (first ++ second) = .error ⟨e.char, first.length + e.position⟩) ∧
    (∀ c more, parse second = .ok (symbolic (c :: more)) →
      ((first.toList = [] ∨ first.toList.getLast? = some ',') →
        parse (first ++ second) = .ok (symbolic (clauses ++ c :: more))) ∧
      (¬ (first.toList = [] ∨ first.toList.getLast? = some ',') →
        ∃ earlier last, clauses = earlier ++ [last] ∧
          parse (first ++ second) = .ok (symbolic
            (earlier ++ { last with actions := last.actions ++ c.actions } :: more)))) ∧
    ∀ m, parse second = .ok m → ∃ c more, m = symbolic (c :: more) := by
  obtain ⟨rest, hsecond⟩ := List.head?_eq_some_iff.mp hsymbol
  obtain ⟨segments, hderived, rfl⟩ := ofChars_eq_symbolic_iff.mp hfirst
  obtain ⟨done, last, rfl⟩ := hderived.exists_eq_concat
  have hlast := hderived.last_eq_empty_iff
  simp only [parse, String.toList_append, hsecond]
  refine ⟨fun e he => ?_, fun c more hc => ?_, fun m hm => ?_⟩
  · exact ofChars_append_symbol_of_error hderived he
  · obtain ⟨s, segments, d, hs, hd, hmode⟩ := exists_clause_of_symbol hc
    obtain ⟨rfl, rfl⟩ := List.cons.inj (symbolic.inj hmode)
    rw [ofChars_append_symbol hderived hs, List.filterMap_append, List.filterMap_append]
    refine ⟨fun hend => ?_, fun hend => ?_⟩
    · rw [hlast.mp hend, Segment.chain_empty hs.first_of_symbol.1, List.filterMap_cons_some hd]
      simp [Segment.empty, Segment.clause?]
    · have hc' := Segment.clause?_eq_some_iff.mpr ⟨mt hlast.mpr hend, rfl⟩
      refine ⟨_, _, by rw [List.filterMap_cons_some hc']; rfl, ?_⟩
      rw [List.filterMap_cons_some (Segment.clause?_chain hc' hd)]
  · obtain ⟨s, segments, d, -, -, rfl⟩ := exists_clause_of_symbol hm
    exact ⟨d, _, rfl⟩

/-- A symbol behind letters to copy from, where the second text is a mode and where it is none, and
a symbol behind a comma. -/
theorem parse_append_symbol_open :
    parse ("u+g" ++ "=rg") = .error ⟨'g', 5⟩ ∧
    (∃ earlier last, [⟨.ofList [.user], [⟨.add, .ofList [.group], ∅, true⟩], true⟩] =
        earlier ++ [last] ∧
      parse ("u+g" ++ "-w,o") = .ok (symbolic (earlier ++
        { last with actions := last.actions ++ [⟨.remove, ∅, .ofList [.write], true⟩] } ::
          [⟨.ofList [.others], [], true⟩]))) ∧
    parse ("u+g," ++ "-w,o") = .ok (symbolic
      ([⟨.ofList [.user], [⟨.add, .ofList [.group], ∅, true⟩], true⟩] ++
        ⟨∅, [⟨.remove, ∅, .ofList [.write], true⟩], true⟩ ::
          [⟨.ofList [.others], [], true⟩])) := by
  have hopen : parse "u+g" = .ok (symbolic
      [⟨.ofList [.user], [⟨.add, .ofList [.group], ∅, true⟩], true⟩]) := by cbv
  have hcomma : parse "u+g," = .ok (symbolic
      [⟨.ofList [.user], [⟨.add, .ofList [.group], ∅, true⟩], true⟩]) := by cbv
  have hfailure : parse "=rg" = .error ⟨'g', 2⟩ := by cbv
  have hsecond : parse "-w,o" = .ok (symbolic
      [⟨∅, [⟨.remove, ∅, .ofList [.write], true⟩], true⟩, ⟨.ofList [.others], [], true⟩]) := by
    cbv
  have hset : "=rg".toList.head? = some Operator.set.symbol := by decide
  have hremove : "-w,o".toList.head? = some Operator.remove.symbol := by decide
  have hlength : "u+g".length + 2 = 5 := by decide
  have herror := (parse_append_symbol hopen hset).1 _ hfailure
  rw [hlength] at herror
  exact ⟨herror, ((parse_append_symbol hopen hremove).2.1 _ _ hsecond).2 (by decide),
    ((parse_append_symbol hcomma hremove).2.1 _ _ hsecond).1 (by decide)⟩

end Mode

end FileMode
