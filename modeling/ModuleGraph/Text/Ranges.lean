/-!
# Tables

Search in a table whose entries are in ascending order, each for one number or for a range of
them.
-/

set_option autoImplicit false

namespace ModuleGraph.Text

variable {α β : Type}

/-- Finds, by halving the window from `lo` below `hi`, the entry of a table whose bounds hold `n`.
Each round of `fuel` halves the window. -/
def search (bounds : α → Nat × Nat) (table : Array α) (n : Nat) :
    Nat → Nat → Nat → Option α
  | 0, _, _ => none
  | fuel + 1, lo, hi =>
      if lo < hi then
        let mid := (lo + hi) / 2
        match table[mid]? with
        | none => none
        | some entry =>
            if n < (bounds entry).1 then search bounds table n fuel lo mid
            else if (bounds entry).2 < n then search bounds table n fuel (mid + 1) hi
            else some entry
      else none

/-- The entry whose bounds hold `n`, of a sorted table with at most `2 ^ 15` entries. -/
def findIn? (bounds : α → Nat × Nat) (table : Array α) (n : Nat) : Option α :=
  search bounds table n 16 0 table.size

/-- Whether a sorted table of inclusive ranges holds a character. -/
def inTable (table : Array (Nat × Nat)) (c : Char) : Bool := (findIn? id table c.toNat).isSome

/-- The value of the range that holds a character, in a sorted table of inclusive ranges. -/
def valueInTable? (table : Array (Nat × Nat × β)) (c : Char) : Option β :=
  (findIn? (fun entry => (entry.1, entry.2.1)) table c.toNat).map fun entry => entry.2.2

/-- The value of a key in a table that is sorted by its keys. -/
def keyInTable? (table : Array (Nat × β)) (n : Nat) : Option β :=
  (findIn? (fun entry => (entry.1, entry.1)) table n).map Prod.snd

end ModuleGraph.Text
