/-
Compatibility composition (NFKC).

Two passwords that look the same but were typed with different characters must hash
alike.  So a password is normalised first: every character is replaced by what it
stands for, combining marks are put into the order of their classes, and then marks
are joined to the character they belong to wherever the pair has a character of its
own.
-/
import SessionAuth.Text.Compatibility.Table

namespace SessionAuth.Text.Compatibility

/-! ### Hangul

Syllables are not in the tables: their parts follow from their code point. -/

/-- The first syllable, the first leading consonant, vowel and (before the) trailing consonant. -/
def hangulBase : Nat := 0xac00
def leadBase : Nat := 0x1100
def vowelBase : Nat := 0x1161
def tailBase : Nat := 0x11a7

/-- How many leading consonants, vowels and trailing consonants (or none) there are. -/
def leadCount : Nat := 19
def vowelCount : Nat := 21
def tailCount : Nat := 28

/-- How many syllables there are. -/
def syllableCount : Nat := leadCount * vowelCount * tailCount

/-- The parts of a syllable, when the code point is one. -/
def splitSyllable? (n : Nat) : Option (List Nat) :=
  if hangulBase ≤ n ∧ n < hangulBase + syllableCount then
    let i := n - hangulBase
    let lead := leadBase + i / (vowelCount * tailCount)
    let vowel := vowelBase + i % (vowelCount * tailCount) / tailCount
    if i % tailCount = 0 then some [lead, vowel]
    else some [lead, vowel, tailBase + i % tailCount]
  else none

/-- The syllable of a leading consonant and a vowel, or of a syllable and a trailing consonant. -/
def joinSyllable? (a b : Nat) : Option Nat :=
  if leadBase ≤ a ∧ a < leadBase + leadCount ∧ vowelBase ≤ b ∧ b < vowelBase + vowelCount then
    some (hangulBase + ((a - leadBase) * vowelCount + (b - vowelBase)) * tailCount)
  else if hangulBase ≤ a ∧ a < hangulBase + syllableCount ∧ (a - hangulBase) % tailCount = 0
      ∧ tailBase < b ∧ b < tailBase + tailCount then
    some (a + (b - tailBase))
  else none

/-! ### Taking apart -/

/-- The row of a sorted array of expansions for a code point, searched by halving. -/
def findExpansion? (n : Nat) (rows : Array Expansion) : Nat → Nat → Nat → Option Expansion
  | 0, _, _ => none
  | fuel + 1, low, high =>
    if low < high then
      let middle := (low + high) / 2
      match rows[middle]? with
      | none => none
      | some row =>
        if row.source = n then some row
        else if row.source < n then findExpansion? n rows fuel (middle + 1) high
        else findExpansion? n rows fuel low middle
    else none

/-- Everything a code point stands for; most stand for themselves. -/
def expand (n : Nat) : List Nat :=
  if n < 0x80 then [n]
  else
    match splitSyllable? n with
    | some parts => parts
    | none =>
      match findExpansion? n expansions expansions.size 0 expansions.size with
      | some row => row.parts
      | none =>
        match shifts.find? fun s => s.first ≤ n && n ≤ s.last with
        | some s => [s.target + (n - s.first)]
        | none => [n]

/-! ### Ordering marks -/

/-- The combining class of a code point; zero for those that do not combine. -/
def combiningClass (n : Nat) : Nat :=
  if n < 0x300 then 0
  else
    match classes.find? fun row => row.1 ≤ n && n ≤ row.2.1 with
    | some row => row.2.2
    | none => 0

/-- Puts a mark behind the marks of its own class or a lower one that end the reversed text. -/
def placeMark (mark : Nat × Nat) : List (Nat × Nat) → List (Nat × Nat)
  | [] => [mark]
  | last :: rest =>
    if mark.2 < last.2 then last :: placeMark mark rest else mark :: last :: rest

/--
Marks that follow each other, in the stable order of their classes; each code point
carries its class.
-/
def orderMarks (text : List (Nat × Nat)) : List (Nat × Nat) :=
  (text.foldl (fun done c => if c.2 = 0 then c :: done else placeMark c done) []).reverse

/-! ### Putting together -/

/-- The character that two characters form together, when there is one. -/
def compose? (a b : Nat) : Option Nat :=
  match joinSyllable? a b with
  | some c => some c
  | none => (compositions.find? fun row => row.1 == a && row.2.1 == b).map (·.2.2)

/--
The state of composition: the finished text reversed, the last starter, and the
marks that follow it reversed.
-/
structure Composing where
  done : List Nat
  starter : Option Nat
  marks : List (Nat × Nat)

namespace Composing

/-- The finished text with the open starter and its marks behind it, reversed. -/
def flush (s : Composing) : List Nat :=
  s.marks.map (·.1) ++ s.starter.toList ++ s.done

/--
Takes in one code point.  It joins the starter when the pair composes and no mark
between them has the same class or, for a starter, any class at all.
-/
def add (s : Composing) (c : Nat × Nat) : Composing :=
  match s.starter with
  | none =>
    if c.2 = 0 then { done := s.done, starter := some c.1, marks := [] }
    else { s with done := c.1 :: s.done }
  | some first =>
    let blocked :=
      match s.marks with
      | [] => false
      | last :: _ => last.2 ≥ c.2
    match (if blocked then none else compose? first c.1) with
    | some joined => { s with starter := some joined }
    | none =>
      if c.2 = 0 then { done := s.flush, starter := some c.1, marks := [] }
      else { s with marks := c :: s.marks }

end Composing

/-- Joins every mark to the starter before it where the two have a character of their own. -/
def composeAll (text : List (Nat × Nat)) : List Nat :=
  (text.foldl Composing.add ⟨[], none, []⟩).flush.reverse

/-- The text in compatibility composition. -/
def normalize (text : String) : String :=
  let parts := text.toList.flatMap fun c => expand c.toNat
  let marked := parts.map fun n => (n, combiningClass n)
  String.ofList ((composeAll (orderMarks marked)).map Char.ofNat)

end SessionAuth.Text.Compatibility
