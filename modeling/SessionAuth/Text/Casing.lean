/-
Lower case.

Logins are compared without regard to case, so both sides are brought to lower case
first.  The mapping is the full one: it covers every script, one letter becomes two
(the capital `I` with a dot), and a capital sigma at the end of a word becomes a
final sigma.
-/
import SessionAuth.Text.Ranges

namespace SessionAuth.Text.Casing

/-! ### Tables -/

/-- A run of code points, `step` apart, that all move by the same amount to lower case. -/
structure Run where
  first : Nat
  last : Nat
  step : Nat
  target : Nat
  deriving Repr

/-- The rows of a table of runs. -/
def Run.ofNumbers : List Nat → List Run
  | a :: b :: c :: d :: rest => ⟨a, b, c, d⟩ :: Run.ofNumbers rest
  | _ => []

/-- Where a run sends a code point, when the run covers it. -/
def Run.target? (run : Run) (n : Nat) : Option Nat :=
  if run.first ≤ n ∧ n ≤ run.last ∧ (n - run.first) % run.step = 0 then
    some (run.target + (n - run.first))
  else none

/-- The lower case of single letters outside ASCII. -/
def runs : List Run := Run.ofNumbers (hexNumbers "
  c0 d6 1 e0 d8 de 1 f8 100 12e 2 101 132 136 2 133 139 147 2 13a 14a 176 2 14b 178 178 1 ff 179
  17d 2 17a 181 181 1 253 182 184 2 183 186 186 1 254 187 187 1 188 189 18a 1 256 18b 18b 1 18c
  18e 18e 1 1dd 18f 18f 1 259 190 190 1 25b 191 191 1 192 193 193 1 260 194 194 1 263 196 196 1
  269 197 197 1 268 198 198 1 199 19c 19c 1 26f 19d 19d 1 272 19f 19f 1 275 1a0 1a4 2 1a1 1a6 1a6
  1 280 1a7 1a7 1 1a8 1a9 1a9 1 283 1ac 1ac 1 1ad 1ae 1ae 1 288 1af 1af 1 1b0 1b1 1b2 1 28a 1b3
  1b5 2 1b4 1b7 1b7 1 292 1b8 1b8 1 1b9 1bc 1bc 1 1bd 1c4 1c4 1 1c6 1c5 1c5 1 1c6 1c7 1c7 1 1c9
  1c8 1c8 1 1c9 1ca 1ca 1 1cc 1cb 1db 2 1cc 1de 1ee 2 1df 1f1 1f1 1 1f3 1f2 1f4 2 1f3 1f6 1f6 1
  195 1f7 1f7 1 1bf 1f8 21e 2 1f9 220 220 1 19e 222 232 2 223 23a 23a 1 2c65 23b 23b 1 23c 23d 23d
  1 19a 23e 23e 1 2c66 241 241 1 242 243 243 1 180 244 244 1 289 245 245 1 28c 246 24e 2 247 370
  372 2 371 376 376 1 377 37f 37f 1 3f3 386 386 1 3ac 388 38a 1 3ad 38c 38c 1 3cc 38e 38f 1 3cd
  391 3a1 1 3b1 3a3 3ab 1 3c3 3cf 3cf 1 3d7 3d8 3ee 2 3d9 3f4 3f4 1 3b8 3f7 3f7 1 3f8 3f9 3f9 1
  3f2 3fa 3fa 1 3fb 3fd 3ff 1 37b 400 40f 1 450 410 42f 1 430 460 480 2 461 48a 4be 2 48b 4c0 4c0
  1 4cf 4c1 4cd 2 4c2 4d0 52e 2 4d1 531 556 1 561 10a0 10c5 1 2d00 10c7 10c7 1 2d27 10cd 10cd 1
  2d2d 13a0 13ef 1 ab70 13f0 13f5 1 13f8 1c89 1c89 1 1c8a 1c90 1cba 1 10d0 1cbd 1cbf 1 10fd 1e00
  1e94 2 1e01 1e9e 1e9e 1 df 1ea0 1efe 2 1ea1 1f08 1f0f 1 1f00 1f18 1f1d 1 1f10 1f28 1f2f 1 1f20
  1f38 1f3f 1 1f30 1f48 1f4d 1 1f40 1f59 1f5f 2 1f51 1f68 1f6f 1 1f60 1f88 1f8f 1 1f80 1f98 1f9f 1
  1f90 1fa8 1faf 1 1fa0 1fb8 1fb9 1 1fb0 1fba 1fbb 1 1f70 1fbc 1fbc 1 1fb3 1fc8 1fcb 1 1f72 1fcc
  1fcc 1 1fc3 1fd8 1fd9 1 1fd0 1fda 1fdb 1 1f76 1fe8 1fe9 1 1fe0 1fea 1feb 1 1f7a 1fec 1fec 1 1fe5
  1ff8 1ff9 1 1f78 1ffa 1ffb 1 1f7c 1ffc 1ffc 1 1ff3 2126 2126 1 3c9 212a 212a 1 6b 212b 212b 1 e5
  2132 2132 1 214e 2160 216f 1 2170 2183 2183 1 2184 24b6 24cf 1 24d0 2c00 2c2f 1 2c30 2c60 2c60 1
  2c61 2c62 2c62 1 26b 2c63 2c63 1 1d7d 2c64 2c64 1 27d 2c67 2c6b 2 2c68 2c6d 2c6d 1 251 2c6e 2c6e
  1 271 2c6f 2c6f 1 250 2c70 2c70 1 252 2c72 2c72 1 2c73 2c75 2c75 1 2c76 2c7e 2c7f 1 23f 2c80
  2ce2 2 2c81 2ceb 2ced 2 2cec 2cf2 2cf2 1 2cf3 a640 a66c 2 a641 a680 a69a 2 a681 a722 a72e 2 a723
  a732 a76e 2 a733 a779 a77b 2 a77a a77d a77d 1 1d79 a77e a786 2 a77f a78b a78b 1 a78c a78d a78d 1
  265 a790 a792 2 a791 a796 a7a8 2 a797 a7aa a7aa 1 266 a7ab a7ab 1 25c a7ac a7ac 1 261 a7ad a7ad
  1 26c a7ae a7ae 1 26a a7b0 a7b0 1 29e a7b1 a7b1 1 287 a7b2 a7b2 1 29d a7b3 a7b3 1 ab53 a7b4 a7c2
  2 a7b5 a7c4 a7c4 1 a794 a7c5 a7c5 1 282 a7c6 a7c6 1 1d8e a7c7 a7c9 2 a7c8 a7cb a7cb 1 264 a7cc
  a7da 2 a7cd a7dc a7dc 1 19b a7f5 a7f5 1 a7f6 ff21 ff3a 1 ff41 10400 10427 1 10428 104b0 104d3 1
  104d8 10570 1057a 1 10597 1057c 1058a 1 105a3 1058c 10592 1 105b3 10594 10595 1 105bb 10c80
  10cb2 1 10cc0 10d50 10d65 1 10d70 118a0 118bf 1 118c0 16e40 16e5f 1 16e60 16ea0 16eb8 1 16ebb
  1e900 1e921 1 1e922")

/-- Code points with the property `Cased`. -/
def cased : List Range := Range.ofGaps 0 (hexNumbers "
  41 19 7 19 30 0 b 0 5 0 6 16 2 1e 2 c2 2 3 5 cf 3 22 8 1 1f 4 61 0 2b 3 3 1 3 3 2 0 7 0 2 2 2 0
  2 13 2 52 2 8a 9 a5 2 25 a 28 b18 25 2 0 6 0 3 2a 2 3 2a1 55 3 5 883 a 6 2a 3 2 41 bf 41 115 3 5
  3 25 3 5 3 7 2 0 2 0 2 0 2 1e 3 34 2 6 2 0 4 2 2 6 4 3 3 5 5 c 6 2 2 6 75 0 e 0 11 c 66 0 5 0 3
  9 2 0 4 4 7 0 2 0 2 0 2 3 2 5 5 0 3 3 6 4 5 0 12 1f 4 1 332 33 717 e4 7 3 4 1 d 25 2 0 6 0 7913
  2d 13 1d 85 65 4 3 2 4c 15 5 2 2 336 2a 2 d 7 4f 4f41 6 d 4 40a 19 7 19 4a6 4f 61 23 5 23 75 a 2
  e 2 6 2 1 2 a 2 e 2 6 2 1 1c4 0 3 2 2 29 2 8 4c6 32 e 32 5e 15 b 15 b1b 3f 5561 3f 21 18 3 18
  652d 54 2 46 2 1 3 0 3 1 3 3 2 b 2 0 2 6 2 40 2 3 3 7 2 6 2 1b 2 3 2 4 2 0 4 6 2 153 3 18 2 18 2
  1e 2 18 2 1e 2 18 2 1e 2 18 2 1e 2 18 2 7 735 9 2 13 7 5 106 3d 893 43 7ed 19 7 19 7 19")

/-- Code points with the property `Case_Ignorable`. -/
def caseIgnorable : List Range := Range.ofGaps 0 (hexNumbers "
  27 0 7 0 c 0 24 0 2 0 48 0 5 0 2 0 5 0 3 1 1f8 bf 5 1 5 0 a 1 2 0 fc 6 d0 0 6 0 32 2c 2 0 2 1 2
  1 2 0 2d 0 c 5 b a 2 0 24 0 b 14 11 0 66 7 2 9 2 3 22 0 2 0 1f 1a 5c a 3b a 5 0 3 0 19 17 2c 2
  2d 0 8 1 6 8 2a 39 38 0 2 0 5 7 5 0 4 6 b 1 e 0 10 0 3b 0 5 3 9 0 15 1 1b 0 3 1 3a 0 5 1 5 1 3 2
  4 0 1f 1 4 0 c 1 3a 0 5 4 2 1 5 0 15 1 17 5 2 0 3b 0 3 0 2 3 9 0 8 1 c 1 1f 0 3e 0 d 0 33 0 4 0
  38 0 2 2 6 2 2 3 8 1 c 1 1e 0 3b 0 3 0 7 0 6 1 15 1 1d 1 3a 1 5 3 9 0 15 1 1e 0 49 0 8 2 2 0 5b
  0 3 6 c 8 63 0 3 8 a 0 2 6 4a 1 1c 0 2 0 2 0 38 d 2 4 2 1 6 a 2 23 a 0 67 3 2 5 2 1 3 1 1a 1 5 2
  11 3 e 0 3 1 7 0 10 0 5f 0 261 2 3b3 2 1e 1 1f 1 1f 1 41 1 2 6 9 0 3 a 4 0 6 0 2e 4 34 0 42 1 23
  0 77 2 5 1 a 0 7 2 dc 1 3 0 3b 0 2 6 2 0 2 0 3 7 7 9 3 0 28 0 9 2d 3 b 15 3 31 0 2 4 2 0 6 0 29
  8 d 1 21 3 3 1 2 2 39 0 2 1 4 0 2 2 3b 7 3 1 41 5 53 2 2 c 2 6 5 0 7 0 4 1 33 3e e 0 23 64 1be 0
  2 2 c 2 e 2 e 2 e 1 d 4 9 1 b 0 3 0 3 4 32 4 2 9 2 0 e 0 11 c 34 20 b8c 1 72 2 7e 0 10 0 61 1f
  30 0 1d6 0 25 3 4 4 6 0 5e 5 5e 2 6f17 0 4e3 5 10f 0 63 3 2 9 2 0 1d 3 51 1 f 21 4f 0 18 2 67 3
  4 1 9 0 4 0 5 0 1a 1 6 0 98 1 1b 11 e 0 27 7 1a a 2f 2 31 0 3 3 3 1 12 0 16 1 43 5 3 1 3 1 d 0 9
  0 24 0 c 0 34 0 2 2 3 1 6 1 2 0 1c 0 f 1 6 1 2 0 65 4 a 2 7a 0 3 0 5 0 4f31 0 94 10 23e f 4 0 d
  f 23 0 3 0 aa 0 8 0 7 0 c 0 24 0 2 0 30 0 2e 1 44 0 16 2 202 0 e3 0 96 4 406 5 2 29 2 8 247 2 2
  1 6 3 29 2 5 0 a6 1 23e 3 27 0 1b 4 2 0 13c 1 19 0 35 5 47 a 32 3 7c 0 37 e 2a 0 3 1 b 2 32 3 3
  1 3 0 5 0 b 0 33 2 25 4 2 7 3f 0 d 1 35 8 b 3 3 0 60 2 3 0 2 1 7 0 3 0 9e 0 4 7 16 1 3a 1 4 0 26
  6 4 4 47 5 e 0 2 0 2 0 f 1 56 7 3 2 2 0 18 0 55 5 2 0 5 1 2 1 ef 3 7 1 2 1 1c 1 56 7 3 0 2 1 6b
  0 2 0 3 5 2 0 66 0 2 0 3 3 2 4 104 8 2 1 101 1 2 0 5 0 91 3 3 1 5 0 21 9 29 5 3 3 9 0 a 5 3 2 2f
  c 2 1 c7 0 2 2 2 0 ca 6 2 5 2 0 53 15 3 6 2 1 2 1 7b 5 4 0 2 1 2 6 2 0 49 1 4 0 2 0 42 0 11a 1 c
  1 35 4 6 0 2 0 18 0 14d6 10 7 e 2cc9 b 4 2 9c1 4 3c 6 a 3 1fd 2 29 1 1e3 0 40 10 41 1 2 1 e 1
  3ffd 3 2 6 2 1 c9f 1 2 3 125d 2d 3 16 221 2 a f 3 6 1f 3 95 2 7bc 36 5 31 9 0 f 0 17 4 2 e 551 6
  2 10 3 6 2 1 2 4 6 3d 22 0 a1 d 171 0 3e 3 1fc 4 ff 1 f4 0 3 0 8 1 6 0 a 0 1d1 6 6e 7 ab0 4
  c0c02 0 1f 5f 81 ef")

/-! ### Mapping -/

/-- A letter, looking past characters that do not count, stands next in `text`. -/
def meetsLetter (text : List Char) : Bool :=
  match text.dropWhile fun c => Range.contains c.toNat caseIgnorable with
  | [] => false
  | c :: _ => Range.contains c.toNat cased

/-- The lower case of one character wherever it stands; a capital sigma is the exception. -/
def lowerChar (c : Char) : List Char :=
  if c.toNat < 0x80 then [c.toLower]
  else if c.toNat = 0x130 then ['i', '\u0307']
  else
    match runs.findSome? (·.target? c.toNat) with
    | some n => [Char.ofNat n]
    | none => [c]

/--
The lower case of a text whose already passed characters are `before`, nearest first.
A capital sigma is final when a letter precedes it and none follows.
-/
def lowerFrom (before : List Char) : List Char → List Char
  | [] => []
  | c :: rest =>
    let here :=
      if c = 'Σ' then
        if meetsLetter before && !meetsLetter rest then ['ς'] else ['σ']
      else lowerChar c
    here ++ lowerFrom (c :: before) rest

/-- The text in lower case. -/
def lower (text : String) : String :=
  String.ofList (lowerFrom [] text.toList)

end SessionAuth.Text.Casing
