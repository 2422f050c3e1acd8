/-!
# Totals

The total weight of a list: what its items weigh together. Widths, lengths and the measures by which
recursions end are totals.
-/

namespace Scriptlet

/-- What the items of a list weigh together. -/
def total (weigh : α → Nat) (items : List α) : Nat :=
  items.foldr (fun item rest => weigh item + rest) 0

@[simp]
theorem total_nil (weigh : α → Nat) : total weigh [] = 0 :=
  rfl

@[simp]
theorem total_cons (weigh : α → Nat) (item : α) (rest : List α) :
    total weigh (item :: rest) = weigh item + total weigh rest :=
  rfl

@[simp]
theorem total_append (weigh : α → Nat) (front back : List α) :
    total weigh (front ++ back) = total weigh front + total weigh back := by
  induction front with
  | nil => simp
  | cons item rest ih => simp [ih, Nat.add_assoc]

end Scriptlet
