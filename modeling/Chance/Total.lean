namespace Chance.Total

def limit : Nat := 9223372036854775807

def cut (n : Nat) : Nat := min n limit

def add? (a b : Nat) : Option Nat := if a + b ≤ limit then some (a + b) else none

end Chance.Total
