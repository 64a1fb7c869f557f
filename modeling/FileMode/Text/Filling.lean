import FileMode.Text.Blank
import FileMode.Text.Chunk

/-!
# Filling lines

A text is set in lines of a given width: each line takes the chunks that fit, and **only a chunk
wider than a whole line is broken**, behind its last hyphen that still fits, or else where the line
ends. Blank chunks are dropped at the end of a line and, from the second line on, at its start.
-/

namespace FileMode.Text

/-- A text with every run of plain blanks made one space. -/
def squeezeBlanks : List Char → List Char
  | [] => []
  | c :: rest =>
    if !isPlainBlank c then c :: squeezeBlanks rest
    else if rest.head?.any isPlainBlank then squeezeBlanks rest
    else ' ' :: squeezeBlanks rest

/-- Whether a chunk consists of blanks, as the empty one does. -/
def isBlankChunk (chunk : List Char) : Bool := chunk.all isBlank

/-- Divides chunks into those at the front that fit into a room together, and the others. -/
def fitting (room : Nat) : List (List Char) → List (List Char) × List (List Char)
  | [] => ([], [])
  | chunk :: rest =>
    if chunk.length ≤ room then
      let (line, below) := fitting (room - chunk.length) rest
      (chunk :: line, below)
    else ([], chunk :: rest)

/-- How much of a chunk goes into a room that is too small for it: all up to the last hyphen that
fits, provided that there is more than hyphens in front of it, and otherwise as much as fits. -/
def breakPoint (room : Nat) (chunk : List Char) : Nat :=
  let upToHyphen := ((chunk.take room).reverse.dropWhile (· != '-')).reverse
  if upToHyphen.any (· != '-') then upToHyphen.length else room

/-- Divides chunks into those of the first line and those of the lines below it, breaking the chunk
that the line ends with if no line can hold it. -/
def cutLine (width : Nat) (chunks : List (List Char)) : List (List Char) × List (List Char) :=
  match (fitting width chunks).2 with
  | [] => ((fitting width chunks).1, [])
  | chunk :: rest =>
    if width < chunk.length then
      let cut := breakPoint (width - (fitting width chunks).1.flatten.length) chunk
      ((fitting width chunks).1 ++ [chunk.take cut], chunk.drop cut :: rest)
    else ((fitting width chunks).1, chunk :: rest)

/-- Chunks without a blank one at the end. -/
def dropBlankEnd (line : List (List Char)) : List (List Char) :=
  if line.getLast?.any isBlankChunk then line.dropLast else line

/-- Chunks without a blank one at the start. -/
def dropBlankStart : List (List Char) → List (List Char)
  | [] => []
  | chunk :: rest => if isBlankChunk chunk then rest else chunk :: rest

/-! ### Every line makes progress -/

/-- What there is to set: the characters, and the chunks that they stand in. -/
def extent (chunks : List (List Char)) : Nat := chunks.flatten.length + chunks.length

theorem extent_nil : extent [] = 0 := rfl

theorem extent_cons (chunk : List Char) (rest : List (List Char)) :
    extent (chunk :: rest) = chunk.length + 1 + extent rest := by
  simp only [extent, List.flatten_cons, List.length_append, List.length_cons]
  omega

theorem extent_append (front back : List (List Char)) :
    extent (front ++ back) = extent front + extent back := by
  simp only [extent, List.flatten_append, List.length_append]
  omega

theorem fitting_append (room : Nat) (chunks : List (List Char)) :
    (fitting room chunks).1 ++ (fitting room chunks).2 = chunks := by
  induction chunks generalizing room with
  | nil => rfl
  | cons chunk rest ih =>
    unfold fitting
    split
    · exact congrArg (chunk :: ·) (ih (room - chunk.length))
    · rfl

/-- Nothing fits into a room that is smaller than the first chunk. -/
theorem fitting_of_lt {room : Nat} {chunk : List Char} {rest : List (List Char)}
    (h : room < chunk.length) : fitting room (chunk :: rest) = ([], chunk :: rest) :=
  if_neg (Nat.not_le.mpr h)

theorem extent_fitting_lt {room : Nat} {chunk : List Char} {rest : List (List Char)}
    (h : chunk.length ≤ room) :
    extent (fitting room (chunk :: rest)).2 < extent (chunk :: rest) := by
  have happ := congrArg extent (fitting_append (room - chunk.length) rest)
  rw [extent_append] at happ
  have hfit : (fitting room (chunk :: rest)).2 = (fitting (room - chunk.length) rest).2 := by
    simp only [fitting, if_pos h]
  rw [hfit, extent_cons]
  omega

/-- A chunk that is wider than a room takes at least one character of it. -/
theorem breakPoint_pos {room : Nat} (h : 0 < room) (chunk : List Char) :
    0 < breakPoint room chunk := by
  simp only [breakPoint]
  split
  · next hany =>
    refine List.length_pos_iff.mpr fun hnil => ?_
    rw [hnil] at hany
    cases hany
  · exact h

/-- A line takes no more than all there is to set, and if something fits it takes that. -/
theorem extent_cutLine_le (width : Nat) (chunks : List (List Char)) :
    extent (cutLine width chunks).2 ≤ extent (fitting width chunks).2 := by
  unfold cutLine
  split
  · next h => exact Nat.le_of_eq (congrArg extent h.symm)
  · next chunk rest h =>
    rw [h]
    split
    · simp only [extent_cons, List.length_drop]
      omega
    · exact Nat.le_refl _

/-- A line takes something of what there is to set. -/
theorem extent_cutLine_lt {width : Nat} (hwidth : 0 < width) (chunk : List Char)
    (rest : List (List Char)) :
    extent (cutLine width (chunk :: rest)).2 < extent (chunk :: rest) := by
  rcases Nat.lt_or_ge width chunk.length with h | h
  · have hcut := breakPoint_pos hwidth chunk
    simp only [cutLine, fitting_of_lt h, if_pos h, List.flatten_nil, List.length_nil, Nat.sub_zero,
      extent_cons, List.length_drop]
    omega
  · exact Nat.lt_of_le_of_lt (extent_cutLine_le width _) (extent_fitting_lt h)

theorem extent_dropBlankStart_le (chunks : List (List Char)) :
    extent (dropBlankStart chunks) ≤ extent chunks := by
  cases chunks with
  | nil => exact Nat.le_refl _
  | cons chunk rest =>
    simp only [dropBlankStart]
    split
    · rw [extent_cons]
      exact Nat.le_add_left _ _
    · exact Nat.le_refl _

/-- The lines that chunks are set in; `below` says whether a line stands above them. -/
def setLines (width : Nat) (hwidth : 0 < width) (below : Bool) (chunks : List (List Char)) :
    List (List Char) :=
  match h : if below then dropBlankStart chunks else chunks with
  | [] => []
  | chunk :: rest =>
    have : extent (cutLine width (chunk :: rest)).2 < extent chunks := by
      refine Nat.lt_of_lt_of_le (extent_cutLine_lt hwidth chunk rest) (h ▸ ?_)
      split
      · exact extent_dropBlankStart_le chunks
      · exact Nat.le_refl _
    match dropBlankEnd (cutLine width (chunk :: rest)).1 with
    | [] => setLines width hwidth below (cutLine width (chunk :: rest)).2
    | line => line.flatten :: setLines width hwidth true (cutLine width (chunk :: rest)).2
termination_by extent chunks

/-- A text set in lines of a given width. Before that its blanks are squeezed and those at its ends
are dropped. -/
def fill (width : Nat) (hwidth : 0 < width) (text : List Char) : List Char :=
  ['\n'].intercalate (setLines width hwidth false (chunks (trimBlanks (squeezeBlanks text))))

/-- A text with no more than two line feeds in a row, given how many stand in front of it. -/
def limitLineFeeds (inRow : Nat) : List Char → List Char
  | [] => []
  | c :: rest =>
    if c ≠ '\n' then c :: limitLineFeeds 0 rest
    else if inRow < 2 then c :: limitLineFeeds (inRow + 1) rest
    else limitLineFeeds (inRow + 1) rest

end FileMode.Text
