namespace Chance

abbrev Number := Fin (4294967296)

structure Positive where
  value : Nat
  pos : 0 < value
  small : value < 4294967296
deriving DecidableEq

namespace Number

def read? (digits : List Char) : Option Number :=
  let n := Nat.ofDigitChars 10 digits 0
  if h : n < 4294967296 then some ⟨n, h⟩ else none

def text (n : Number) : List Char := Nat.toDigits 10 n.val

theorem read?_text (n : Number) : read? n.text = some n := by
  simp only [read?, text, Nat.ofDigitChars_ten_toDigits]
  exact dif_pos n.isLt

end Number

namespace Positive

def one : Positive := ⟨1, by decide, by decide⟩

def ofNumber? (n : Number) : Option Positive :=
  if h : 0 < n.val then some ⟨n.val, h, n.isLt⟩ else none

def ofInt? (n : Int) : Option Positive :=
  if h : 0 < n ∧ n < 4294967296 then some ⟨n.toNat, by omega, by omega⟩ else none

def toNumber (n : Positive) : Number := ⟨n.value, n.small⟩

def text (n : Positive) : List Char := Nat.toDigits 10 n.value

theorem ofNumber?_toNumber (n : Positive) : ofNumber? n.toNumber = some n := dif_pos n.pos

end Positive

def integerText (n : Int) : List Char :=
  if n < 0 then '-' :: Nat.toDigits 10 n.natAbs else Nat.toDigits 10 n.natAbs

end Chance
