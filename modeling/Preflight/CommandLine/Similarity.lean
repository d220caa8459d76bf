/-!
The Jaro similarity of two words, for suggesting the word that was meant.

Letters match when they are equal and their places are no further apart than half the longer word;
each letter matches at most one. The similarity is the mean of three shares: the matched letters of
either word, and the matches that come in the same order in both.
-/

namespace Preflight.CommandLine

/-- Mark the first free letter equal to `c` among some letters, of which the first `skipped` are too
early and only the next `reach` are near enough. -/
def markFirst (c : Char) : Nat → Nat → List (Char × Bool) → Option (List (Char × Bool))
  | _, _, [] => none
  | skipped + 1, reach, letter :: rest => (markFirst c skipped reach rest).map (letter :: ·)
  | 0, 0, _ => none
  | 0, reach + 1, (other, taken) :: rest =>
      if other = c ∧ !taken then some ((other, true) :: rest)
      else (markFirst c 0 reach rest).map ((other, taken) :: ·)

/-- Match the letters of the first word, of which `index` have been matched already, with those of
the second; the result is the matched letters of the first and the marked letters of the second. -/
def matchLetters (range : Nat) :
    Nat → List Char → List (Char × Bool) → List Char × List (Char × Bool)
  | _, [], letters => ([], letters)
  | index, c :: rest, letters =>
      let skipped := index - range
      match markFirst c skipped (index + range + 1 - skipped) letters with
      | some marked =>
          let (matched, final) := matchLetters range (index + 1) rest marked
          (c :: matched, final)
      | none => matchLetters range (index + 1) rest letters

/-- The Jaro similarity of two words, from zero to one. -/
def similarity (first second : String) : Float :=
  let a := first.toList
  let b := second.toList
  if a.isEmpty ∧ b.isEmpty then 1.0
  else
    let range := max a.length b.length / 2 - 1
    let (matchedFirst, letters) := matchLetters range 0 a (b.map (·, false))
    let matchedSecond := (letters.filter (·.2)).map (·.1)
    let common := matchedFirst.length
    if common = 0 then 0.0
    else
      let displaced := (List.zip matchedFirst matchedSecond).countP fun (x, y) => x != y
      let share (part whole : Nat) : Float := Float.ofNat part / Float.ofNat whole
      (share common a.length + share common b.length + share (common - displaced / 2) common) / 3.0

/-- The word most similar to `written`, if one is similar enough; of equals the last. -/
def suggest? (written : String) (words : List String) : Option String :=
  let better (best : Option (Float × String)) (word : String) : Option (Float × String) :=
    let score := similarity written word
    if score > 0.7 then
      match best with
      | some (top, other) => if score >= top then some (score, word) else some (top, other)
      | none => some (score, word)
    else best
  (words.foldl better none).map (·.2)

end Preflight.CommandLine
