/-!
# The digest SHA-256

* **Padding** (`pad`): the message, one set bit, zeros, and the length of the message in bits as eight bytes.
* **Schedule and rounds** (`schedule`, `State.round`, `compress`): sixty-four words from a block of sixteen, and one
  round for each of them.
* **Digest** (`digest`, `hex`): the eight words of the last state, and their text in hexadecimal digits.
-/

namespace Wireframe.Sha256

/-- The constants of the sixty-four rounds. -/
def constants : List UInt32 := [
  0x428a2f98, 0x71374491, 0xb5c0fbcf, 0xe9b5dba5, 0x3956c25b, 0x59f111f1, 0x923f82a4, 0xab1c5ed5,
  0xd807aa98, 0x12835b01, 0x243185be, 0x550c7dc3, 0x72be5d74, 0x80deb1fe, 0x9bdc06a7, 0xc19bf174,
  0xe49b69c1, 0xefbe4786, 0x0fc19dc6, 0x240ca1cc, 0x2de92c6f, 0x4a7484aa, 0x5cb0a9dc, 0x76f988da,
  0x983e5152, 0xa831c66d, 0xb00327c8, 0xbf597fc7, 0xc6e00bf3, 0xd5a79147, 0x06ca6351, 0x14292967,
  0x27b70a85, 0x2e1b2138, 0x4d2c6dfc, 0x53380d13, 0x650a7354, 0x766a0abb, 0x81c2c92e, 0x92722c85,
  0xa2bfe8a1, 0xa81a664b, 0xc24b8b70, 0xc76c51a3, 0xd192e819, 0xd6990624, 0xf40e3585, 0x106aa070,
  0x19a4c116, 0x1e376c08, 0x2748774c, 0x34b0bcb5, 0x391c0cb3, 0x4ed8aa4a, 0x5b9cca4f, 0x682e6ff3,
  0x748f82ee, 0x78a5636f, 0x84c87814, 0x8cc70208, 0x90befffa, 0xa4506ceb, 0xbef9a3f7, 0xc67178f2]

/-- The eight words that a digest is made of. -/
structure State where
  a : UInt32
  b : UInt32
  c : UInt32
  d : UInt32
  e : UInt32
  f : UInt32
  g : UInt32
  h : UInt32
deriving DecidableEq

def State.start : State :=
  ⟨0x6a09e667, 0xbb67ae85, 0x3c6ef372, 0xa54ff53a, 0x510e527f, 0x9b05688c, 0x1f83d9ab, 0x5be0cd19⟩

/-- A word turned to the right. -/
def rotate (x : UInt32) (n : UInt32) : UInt32 := (x >>> n) ||| (x <<< (32 - n))

/-- One round: a constant and a word of the schedule are mixed into the state. -/
def State.round (s : State) (k w : UInt32) : State :=
  let sum1 := rotate s.e 6 ^^^ rotate s.e 11 ^^^ rotate s.e 25
  let choice := (s.e &&& s.f) ^^^ ((~~~ s.e) &&& s.g)
  let t1 := s.h + sum1 + choice + k + w
  let sum0 := rotate s.a 2 ^^^ rotate s.a 13 ^^^ rotate s.a 22
  let majority := (s.a &&& s.b) ^^^ (s.a &&& s.c) ^^^ (s.b &&& s.c)
  ⟨t1 + (sum0 + majority), s.a, s.b, s.c, s.d + t1, s.e, s.f, s.g⟩

def State.add (s t : State) : State :=
  ⟨s.a + t.a, s.b + t.b, s.c + t.c, s.d + t.d, s.e + t.e, s.f + t.f, s.g + t.g, s.h + t.h⟩

/-- The word that follows the words of a schedule; it reads the last sixteen. -/
def nextWord (ws : Array UInt32) : UInt32 :=
  let back (n : Nat) : UInt32 := ws.getD (ws.size - n) 0
  let x := back 15
  let y := back 2
  let sigma0 := rotate x 7 ^^^ rotate x 18 ^^^ (x >>> 3)
  let sigma1 := rotate y 17 ^^^ rotate y 19 ^^^ (y >>> 10)
  back 16 + sigma0 + back 7 + sigma1

/-- The sixty-four words of a block of sixteen. -/
def schedule (block : List UInt32) : List UInt32 :=
  ((List.range 48).foldl (fun ws _ => ws.push (nextWord ws)) block.toArray).toList

/-- The state after a block. -/
def compress (s : State) (block : List UInt32) : State :=
  s.add ((constants.zip (schedule block)).foldl (fun t kw => t.round kw.1 kw.2) s)

/-- Bytes in groups of four as words, the first byte in the highest place. -/
def wordsOf : List UInt8 → List UInt32
  | a :: b :: c :: d :: r =>
    ((a.toUInt32 <<< 24) ||| (b.toUInt32 <<< 16) ||| (c.toUInt32 <<< 8) ||| d.toUInt32) :: wordsOf r
  | _ => []

/-- The `n` low bytes of a number, the highest first. -/
def bytesOf (n : Nat) : Nat → List UInt8
  | 0 => []
  | k + 1 => UInt8.ofNat (n / Nat.pow 256 k % 256) :: bytesOf n k

/-- A message filled up to whole blocks of sixty-four bytes. -/
def pad (message : List UInt8) : List UInt8 :=
  let zeros := (64 - (message.length + 9) % 64) % 64
  message ++ 0x80 :: List.replicate zeros 0 ++ bytesOf (8 * message.length) 8

/-- The state after `n` blocks of words. -/
def blocks (s : State) (words : List UInt32) : Nat → State
  | 0 => s
  | n + 1 => blocks (compress s (words.take 16)) (words.drop 16) n

/-- The digest of a message, as the words of the last state. -/
def digest (message : List UInt8) : State :=
  let words := wordsOf (pad message)
  blocks State.start words (words.length / 16)

def State.words (s : State) : List UInt32 := [s.a, s.b, s.c, s.d, s.e, s.f, s.g, s.h]

def hexWord (w : UInt32) : List Char :=
  let ds := Nat.toDigits 16 w.toNat
  List.replicate (8 - ds.length) '0' ++ ds

/-- The digest of a text in UTF-8, in hexadecimal digits. -/
def hex (text : String) : String := String.ofList ((digest text.toUTF8.toList).words.flatMap hexWord)

end Wireframe.Sha256
