/-!
# Similarity of words

How much two words have in common, from 0 to 1, and the names that a mistyped word may stand for.

Two letters match if they are equal and not much further apart than half the longer word is long;
every letter matches at most one other.  The similarity is the mean of three shares: the matching
letters among those of either word, and the matching letters that stand in the same order.
-/

namespace Cellbook.CommandLine

/-- Marks the first unmarked letter that equals `letter`, from position `first` to `last`. -/
def markMatch? (letter : Char) (first last : Nat) :
    Nat → List (Char × Bool) → Option (List (Char × Bool))
  | _, [] => none
  | position, (c, marked) :: rest =>
    if last < position then none
    else if first ≤ position && c == letter && !marked then some ((c, true) :: rest)
    else (markMatch? letter first last (position + 1) rest).map ((c, marked) :: ·)

/-- The letters of a word that match one of another, and that other word with its matching letters
marked.  Letters match up to `range` apart. -/
def matchLetters (range : Nat) :
    Nat → List Char → List (Char × Bool) → List Char × List (Char × Bool)
  | _, [], other => ([], other)
  | position, c :: rest, other =>
    match markMatch? c (position - range) (position + range) 0 other with
    | none => matchLetters range (position + 1) rest other
    | some marked =>
      let (letters, other) := matchLetters range (position + 1) rest marked
      (c :: letters, other)

/-- The marked letters of a word. -/
def markedLetters (word : List (Char × Bool)) : List Char :=
  (word.filter Prod.snd).map Prod.fst

/-- The share of `part` in `whole`. -/
def share (part whole : Nat) : Float := part.toFloat / whole.toFloat

/-- The similarity of two words. -/
def similarity (a b : List Char) : Float :=
  let range := max a.length b.length / 2 - 1
  let (matching, marked) := matchLetters range 0 a (b.map fun c => (c, false))
  let moved := ((matching.zip (markedLetters marked)).filter fun p => p.1 != p.2).length / 2
  let count := matching.length
  if a.isEmpty && b.isEmpty then 1
  else if count == 0 then 0
  else (share count a.length + share count b.length + share (count - moved) count) / 3

/-- The similarity above which a name is suggested. -/
def suggestionThreshold : Float := 0.7

/-- Puts a name behind those that are no more similar. -/
def insertBySimilarity (entry : Float × String) :
    List (Float × String) → List (Float × String)
  | [] => [entry]
  | other :: rest =>
    if other.1 > entry.1 then entry :: other :: rest
    else other :: insertBySimilarity entry rest

/-- The names that a word may stand for, the most similar last. -/
def suggestions (word : String) (names : List String) : List String :=
  let scored := names.map fun name => (similarity word.toList name.toList, name)
  let close := scored.filter fun entry => entry.1 > suggestionThreshold
  (close.foldl (fun sorted entry => insertBySimilarity entry sorted) []).map Prod.snd

end Cellbook.CommandLine
