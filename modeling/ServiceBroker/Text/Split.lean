/-!
# Cutting lists

## Main definitions

* `splitAt`: a list cut at every element that a test holds of
* `cutAt`: a list cut at the first such element
-/

namespace ServiceBroker

variable {α : Type}

/-- A list cut at every element that `p` holds of. -/
def splitAt (p : α → Bool) : List α → List (List α)
  | [] => [[]]
  | a :: rest =>
    if p a then [] :: splitAt p rest
    else
      match splitAt p rest with
      | [] => [[a]]
      | first :: others => (a :: first) :: others

/-- What stands before the first element that `p` holds of, and what stands after it; nothing stands
after it if there is no such element. -/
def cutAt (p : α → Bool) : List α → List α × List α
  | [] => ([], [])
  | a :: rest =>
    if p a then ([], rest)
    else
      let (front, back) := cutAt p rest
      (a :: front, back)

end ServiceBroker
