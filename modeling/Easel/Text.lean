namespace Easel

-- Whatever a client sends and whatever is written about it is a list of characters: the rules speak
-- of one character after the other, and so do the proofs.
abbrev Text := List Char

namespace Text

def ofNat (n : Nat) : Text :=
  Nat.toDigits 10 n

def ofInt : Int → Text
  | .ofNat n   => ofNat n
  | .negSucc n => '-' :: ofNat (n + 1)

-- The text in UTF-8.
def bytes (t : Text) : List UInt8 :=
  t.flatMap String.utf8EncodeChar

-- The text whose UTF-8 form is `bs`, if there is one.
def ofBytes? (bs : List UInt8) : Option Text :=
  bs.toByteArray.utf8Decode?.map Array.toList

@[simp]
theorem bytes_append (t u : Text) : (t ++ u).bytes = t.bytes ++ u.bytes :=
  List.flatMap_append

theorem ofBytes?_eq_some_iff {bs : List UInt8} {t : Text} :
    ofBytes? bs = some t ↔ bs = t.bytes := by
  constructor
  case mp =>
    intro h
    obtain ⟨cs, hd, rfl⟩ := Option.map_eq_some_iff.mp h
    have hs : bs.toByteArray.utf8Decode?.isSome := by simp [hd]
    have he := ByteArray.utf8Encode_get_utf8Decode? (h := hs)
    simp only [hd, Option.get_some] at he
    have ht := congrArg (·.data.toList) he
    simpa [List.utf8Encode, bytes] using ht.symm
  case mpr =>
    rintro rfl
    have h : t.bytes.toByteArray.utf8Decode? = some t.toArray := List.utf8Decode?_utf8Encode
    simp [ofBytes?, h]

@[simp]
theorem ofBytes?_bytes (t : Text) : ofBytes? t.bytes = some t :=
  ofBytes?_eq_some_iff.mpr rfl

theorem bytes_inj {t u : Text} : t.bytes = u.bytes ↔ t = u := by
  constructor
  case mpr => exact congrArg bytes
  case mp =>
    intro h
    have ho := congrArg ofBytes? h
    rw [ofBytes?_bytes, ofBytes?_bytes] at ho
    exact Option.some.inj ho

def dropEndWhile (p : Char → Bool) (t : Text) : Text :=
  (t.reverse.dropWhile p).reverse

-- Equality up to the case of the letters A to Z; every other character must be the same.
def sameLetters (t u : Text) : Bool :=
  t.map Char.toLower == u.map Char.toLower

end Text
end Easel
