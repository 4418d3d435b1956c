namespace Chance

structure NonemptyList (α : Type) where
  head : α
  tail : List α
deriving DecidableEq

namespace NonemptyList

variable {α β : Type}

def toList (xs : NonemptyList α) : List α := xs.head :: xs.tail

def singleton (x : α) : NonemptyList α := ⟨x, []⟩

def cons (x : α) (xs : NonemptyList α) : NonemptyList α := ⟨x, xs.toList⟩

def ofList? : List α → Option (NonemptyList α)
  | [] => none
  | x :: xs => some ⟨x, xs⟩

@[simp] theorem toList_cons (x : α) (xs : NonemptyList α) : (cons x xs).toList = x :: xs.toList :=
  rfl

theorem toList_injective {xs ys : NonemptyList α} (h : xs.toList = ys.toList) : xs = ys := by
  cases xs
  cases ys
  simpa [toList] using h

theorem ofList?_toList (xs : NonemptyList α) : ofList? xs.toList = some xs := rfl

end NonemptyList

end Chance
