import FileMode.Text.WordChar

/-!
# Chunks

Between which characters a line may end. A text is cut into **chunks**, none of which is divided as
long as it fits on a line: runs of spaces, dashes of two or more hyphens between words, and words. A
word that is joined by hyphens is cut behind a hyphen if letters stand on both sides of it, and a
word is cut in front of a dash.

Only the ordinary space separates words here; other blanks count as parts of a word. The chunks of a
text, one after the other, are the text again (`flatten_chunks`).
-/

namespace FileMode.Text

/-- Whether a dash may follow a character, as it may follow a word, a quote or a mark at the end of
a sentence. -/
def precedesDash (c : Char) : Bool :=
  isWordChar c || ['!', '"', '\'', '&', '.', ',', '?'].contains c

/-- Whether two or more hyphens with a word behind them stand at the front. -/
def startsWithDash (rest : List Char) : Bool :=
  2 ≤ (rest.takeWhile (· == '-')).length && (rest.dropWhile (· == '-')).head?.any isWordChar

/-- Whether two letters stand at the front, with at most one hyphen between them. -/
def startsWithLetters : List Char → Bool
  | c :: d :: more => isWordLetter c && (isWordLetter d || d == '-' && more.head?.any isWordLetter)
  | _ => false

/-- Whether a dash between words stands here, given what is behind in reverse and what is ahead. -/
def isAtDash (behind ahead : List Char) : Bool :=
  behind.head?.any precedesDash && startsWithDash ahead

/-- Whether a hyphen stands here behind which a word may be divided. -/
def isAtHyphen (behind : List Char) : List Char → Bool
  | '-' :: ahead => startsWithLetters behind && startsWithLetters ahead
  | _ => false

/-- Whether a word is over here: at a space, at the end, and in front of a dash. -/
def isWordOver (behind ahead : List Char) : Bool :=
  ahead.head?.all (· == ' ') || isAtDash behind ahead

/-- Divides a text at the end of the word that begins it, which has one character at least. -/
def takeWord (behind : List Char) : List Char → List Char × List Char
  | [] => ([], [])
  | c :: ahead =>
    if isAtHyphen (c :: behind) ahead then (c :: ahead.take 1, ahead.drop 1)
    else if isWordOver (c :: behind) ahead then ([c], ahead)
    else
      let (word, rest) := takeWord (c :: behind) ahead
      (c :: word, rest)

/-- Divides a text at the end of its first chunk. -/
def takeChunk (behind : List Char) (text : List Char) : List Char × List Char :=
  if text.head? = some ' ' then (text.takeWhile (· == ' '), text.dropWhile (· == ' '))
  else if isAtDash behind text then (text.takeWhile (· == '-'), text.dropWhile (· == '-'))
  else takeWord behind text

/-- A division at a word loses nothing. -/
theorem takeWord_append (behind text : List Char) :
    (takeWord behind text).1 ++ (takeWord behind text).2 = text := by
  induction text generalizing behind with
  | nil => rfl
  | cons c ahead ih =>
    unfold takeWord
    split
    · exact congrArg (c :: ·) (List.take_append_drop 1 ahead)
    · split
      · rfl
      · simp [ih]

/-- A word has one character at least. -/
theorem takeWord_ne_nil (behind : List Char) (c : Char) (ahead : List Char) :
    (takeWord behind (c :: ahead)).1 ≠ [] := by
  unfold takeWord
  split
  · simp
  · split <;> simp

/-- A division at a chunk loses nothing. -/
theorem takeChunk_append (behind text : List Char) :
    (takeChunk behind text).1 ++ (takeChunk behind text).2 = text := by
  unfold takeChunk
  split
  · exact List.takeWhile_append_dropWhile
  · split
    · exact List.takeWhile_append_dropWhile
    · exact takeWord_append behind text

/-- A chunk has one character at least. -/
theorem takeChunk_ne_nil (behind : List Char) (c : Char) (ahead : List Char) :
    (takeChunk behind (c :: ahead)).1 ≠ [] := by
  unfold takeChunk
  split
  · next h => simp_all
  · split
    · next h =>
      simp only [isAtDash, startsWithDash, Bool.and_eq_true, decide_eq_true_eq] at h
      exact List.length_pos_iff.mp (Nat.lt_of_lt_of_le Nat.two_pos h.2.1)
    · exact takeWord_ne_nil behind c ahead

/-- What is left behind a chunk is shorter. -/
theorem length_takeChunk_lt (behind : List Char) (c : Char) (ahead : List Char) :
    (takeChunk behind (c :: ahead)).2.length < (c :: ahead).length := by
  have h := congrArg List.length (takeChunk_append behind (c :: ahead))
  have hpos := List.length_pos_iff.mpr (takeChunk_ne_nil behind c ahead)
  rw [List.length_append] at h
  omega

/-- The chunks of a text, given what stands behind it in reverse. -/
def chunksFrom (behind : List Char) : List Char → List (List Char)
  | [] => []
  | c :: ahead =>
    let cut := takeChunk behind (c :: ahead)
    cut.1 :: chunksFrom (cut.1.reverse ++ behind) cut.2
termination_by text => text.length
decreasing_by exact length_takeChunk_lt behind c ahead

/-- The chunks of a text. -/
def chunks (text : List Char) : List (List Char) := chunksFrom [] text

theorem flatten_chunksFrom (behind text : List Char) : (chunksFrom behind text).flatten = text := by
  fun_induction chunksFrom behind text with
  | case1 => rfl
  | case2 behind c ahead cut ih => rw [List.flatten_cons, ih, takeChunk_append]

/-- The chunks of a text are the text again. -/
theorem flatten_chunks (text : List Char) : (chunks text).flatten = text :=
  flatten_chunksFrom [] text

end FileMode.Text
