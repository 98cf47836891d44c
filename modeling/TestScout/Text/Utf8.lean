/-!
Reading bytes as UTF-8 when they may not be. A byte sequence that is no character is shown as one
U+FFFD for each longest stretch that could still have become one, so a reader sees how much was
lost; `readOne` takes exactly one character or one such stretch off the front.
-/

namespace TestScout.Text

def isContinuation (b : UInt8) : Bool := 0x80 ≤ b && b ≤ 0xBF

/-- What may follow a first byte: the range of the second byte and how many bytes there are. -/
structure Lead where
  low : UInt8
  high : UInt8
  size : Nat

/-- The first bytes of characters of two to four bytes. -/
def lead? (b : UInt8) : Option Lead :=
  if 0xC2 ≤ b && b ≤ 0xDF then some ⟨0x80, 0xBF, 2⟩
  else if b == 0xE0 then some ⟨0xA0, 0xBF, 3⟩
  else if b == 0xED then some ⟨0x80, 0x9F, 3⟩
  else if 0xE1 ≤ b && b ≤ 0xEF then some ⟨0x80, 0xBF, 3⟩
  else if b == 0xF0 then some ⟨0x90, 0xBF, 4⟩
  else if 0xF1 ≤ b && b ≤ 0xF3 then some ⟨0x80, 0xBF, 4⟩
  else if b == 0xF4 then some ⟨0x80, 0x8F, 4⟩
  else none

/-- The bytes of `rest` that go on with a character begun by `l`, as far as they do. -/
def Lead.follow (l : Lead) (rest : List UInt8) : List UInt8 :=
  match rest with
  | [] => []
  | b :: more =>
    if l.low ≤ b && b ≤ l.high then b :: (more.take (l.size - 2)).takeWhile isContinuation else []

/-- The code point that a first byte and its continuations spell. -/
def codePoint (first : UInt8) (l : Lead) (following : List UInt8) : Nat :=
  following.foldl (fun n b => n * 64 + (b.toNat - 0x80)) (first.toNat % Nat.pow 2 (7 - l.size))

/-- One character, or `none` for a stretch that is none, and how many more bytes it took. -/
def readOne (first : UInt8) (rest : List UInt8) : Option Char × Nat :=
  if first < 0x80 then (some (Char.ofNat first.toNat), 0)
  else
    match lead? first with
    | none => (none, 0)
    | some l =>
      let following := l.follow rest
      if following.length + 1 = l.size then
        (some (Char.ofNat (codePoint first l following)), following.length)
      else (none, following.length)

/-- The characters of `bytes`, with U+FFFD wherever they are not UTF-8. -/
def lossyChars : List UInt8 → List Char
  | [] => []
  | b :: rest =>
    let (c, more) := readOne b rest
    c.getD '\uFFFD' :: lossyChars (rest.drop more)
termination_by bytes => bytes.length
decreasing_by
  rw [List.length_drop, List.length_cons]
  omega

def ofBytes? (bytes : List UInt8) : Option String :=
  String.fromUTF8? ⟨bytes.toArray⟩

def ofBytesLossy (bytes : List UInt8) : String :=
  match ofBytes? bytes with
  | some s => s
  | none => String.ofList (lossyChars bytes)

def byteCount : List Char → Nat
  | [] => 0
  | c :: cs => c.utf8Size + byteCount cs

def toBytes (s : String) : List UInt8 := s.toByteArray.data.toList

@[simp] theorem ofBytes?_toBytes (s : String) : ofBytes? (toBytes s) = some s := by
  have h : (⟨(toBytes s).toArray⟩ : ByteArray) = s.toByteArray := by simp [toBytes]
  simp only [ofBytes?, String.fromUTF8?, h, s.isValidUTF8, dite_true]
  rfl

@[simp] theorem ofBytesLossy_toBytes (s : String) : ofBytesLossy (toBytes s) = s := by
  simp [ofBytesLossy]

end TestScout.Text
