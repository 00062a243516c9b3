/-!
# Names of savepoints

Every savepoint of a session has a name of its own: it contains the count of the savepoints named
before it, as far as 64 bits hold it. A random part makes it differ from the names that other
sessions give.
-/

namespace EntityStore.Savepoint

def alphabet : List Char := "0123456789abcdefghijklmnopqrstuvwxyz".toList

/-- The random part made from `n`: six characters of the `alphabet`. -/
def randomPart (n : Nat) : List Char :=
  (List.range 6).map fun place => alphabet.getD (n / Nat.pow 36 place % 36) '0'

/-- How many counts there are. The one after the last is 0 again. -/
def counts : Nat := Nat.pow 2 64

/-- The name of the savepoint with a `count` and a random part. -/
def name (count random : Nat) : String :=
  "sp_" ++ toString (count % counts) ++ "_" ++ String.ofList (randomPart random)

end EntityStore.Savepoint
