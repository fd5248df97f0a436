import CardCatalog.Text.Distance
import Mathlib.Order.Bounds.Basic
import Mathlib.Order.MinMax

/-!
# Edits

The edit distance said without a table: an edit inserts, deletes or replaces one character
(`Edit`), and the distance of two texts is the least number of edits that lead from one to the
other (`isLeast_distance`).

The table is read row by row (`distance_cons_cons`). As many edits as it says do lead from one text
to the other (`edits_distance`), and fewer do not, because no edit moves a text by more than one
(`distance_le_of_edit`). Where two characters agree the table looks at one neighbour only, which is
why it must first be known that neighbours differ by one at most (`near_cons_left`,
`near_cons_right`).
-/

namespace CardCatalog.Text

/-! ## Edits -/

/-- One character is inserted, deleted or replaced. -/
inductive Edit : Text → Text → Prop
  | insert (c : Char) (t : Text) : Edit t (c :: t)
  | delete (c : Char) (t : Text) : Edit (c :: t) t
  | replace (c d : Char) (t : Text) : Edit (c :: t) (d :: t)
  | behind (c : Char) {s t : Text} : Edit s t → Edit (c :: s) (c :: t)

/-- So many edits lead from one text to another. -/
inductive Edits : Nat → Text → Text → Prop
  | done (t : Text) : Edits 0 t t
  | step {n : Nat} {s t u : Text} : Edit s t → Edits n t u → Edits (n + 1) s u

theorem Edits.behind {n : Nat} {s t : Text} (h : Edits n s t) (c : Char) :
    Edits n (c :: s) (c :: t) := by
  induction h with
  | done t => exact Edits.done (c :: t)
  | step hedit _ ih => exact Edits.step (hedit.behind c) ih

theorem edits_insert_all (b : Text) : Edits b.length [] b := by
  induction b with
  | nil => exact Edits.done []
  | cons d b ih => exact Edits.step (.insert d []) (ih.behind d)

theorem edits_delete_all (a : Text) : Edits a.length a [] := by
  induction a with
  | nil => exact Edits.done []
  | cons c a ih => exact Edits.step (.delete c a) ih

/-! ## The table -/

theorem distanceRow_nil (a : Text) : distanceRow a [] = [a.length] := by
  induction a with
  | nil => rfl
  | cons c a ih =>
    rw [distanceRow, ih]
    rfl

theorem distanceRow_cons (a : Text) (d : Char) (b : Text) :
    distanceRow a (d :: b) = distance a (d :: b) :: distanceRow a b := by
  induction a with
  | nil => simp [distance, distanceRow, List.range_succ]
  | cons c a ih =>
    rw [distance, distanceRow, ih, nextRow, List.headD_cons]
    rfl

theorem distance_nil_right (a : Text) : distance a [] = a.length := by
  rw [distance, distanceRow_nil, List.headD_cons]

theorem distance_nil_left (b : Text) : distance [] b = b.length := by
  simp [distance, distanceRow, List.range_succ]

theorem distance_cons_cons (c d : Char) (a b : Text) :
    distance (c :: a) (d :: b) =
      if c = d then distance a b
      else 1 + min (distance a (d :: b)) (min (distance a b) (distance (c :: a) b)) := by
  rw [distance, distanceRow, distanceRow_cons, nextRow, List.headD_cons]
  rfl

/-! ## The distance is reached -/

theorem edits_distance (a b : Text) : Edits (distance a b) a b := by
  induction a generalizing b with
  | nil =>
    rw [distance_nil_left]
    exact edits_insert_all b
  | cons c a iha =>
    induction b with
    | nil =>
      rw [distance_nil_right]
      exact edits_delete_all (c :: a)
    | cons d b ihb =>
      rw [distance_cons_cons]
      split
      · next hcd =>
        subst hcd
        exact (iha b).behind c
      -- the table takes the best of deleting `c`, replacing it by `d`, and inserting `d`
      · have hdelete : Edits (distance a (d :: b) + 1) (c :: a) (d :: b) :=
          Edits.step (.delete c a) (iha (d :: b))
        have hreplace : Edits (distance a b + 1) (c :: a) (d :: b) :=
          Edits.step (.replace c d a) ((iha b).behind d)
        have hinsert : Edits (distance (c :: a) b + 1) (c :: a) (d :: b) :=
          Edits.step (.insert d (c :: a)) (ihb.behind d)
        rw [Nat.add_comm]
        rcases min_choice (distance a (d :: b)) (min (distance a b) (distance (c :: a) b)) with
          h | h <;> rw [h]
        · exact hdelete
        · rcases min_choice (distance a b) (distance (c :: a) b) with h | h <;> rw [h]
          · exact hreplace
          · exact hinsert

/-! ## No fewer edits do -/

/-- The two numbers differ by one at most. -/
def Near (m n : Nat) : Prop := m ≤ n + 1 ∧ n ≤ m + 1

theorem near_cons_left {a : Text} (hright : ∀ b d, Near (distance a (d :: b)) (distance a b))
    (c : Char) (b : Text) : Near (distance (c :: a) b) (distance a b) := by
  induction b with
  | nil =>
    rw [distance_nil_right, distance_nil_right, List.length_cons]
    unfold Near
    omega
  | cons d b ih =>
    have hnear := hright b d
    rw [distance_cons_cons]
    unfold Near at *
    split <;> omega

theorem near_cons_right (a b : Text) (d : Char) : Near (distance a (d :: b)) (distance a b) := by
  induction a generalizing b d with
  | nil =>
    rw [distance_nil_left, distance_nil_left, List.length_cons]
    unfold Near
    omega
  | cons c a ih =>
    have hleft := near_cons_left ih c b
    have hright := ih b d
    rw [distance_cons_cons]
    unfold Near at *
    split <;> omega

theorem distance_replace_le (c d : Char) (a b : Text) :
    distance (c :: a) b ≤ distance (d :: a) b + 1 := by
  induction b with
  | nil =>
    rw [distance_nil_right, distance_nil_right, List.length_cons, List.length_cons]
    omega
  | cons e b ih =>
    have hright := near_cons_right a b e
    have hleft := near_cons_left (near_cons_right a) d b
    rw [distance_cons_cons, distance_cons_cons]
    unfold Near at *
    split <;> split <;> omega

theorem distance_behind_le {s t : Text} (h : ∀ b, distance s b ≤ distance t b + 1) (c : Char)
    (b : Text) : distance (c :: s) b ≤ distance (c :: t) b + 1 := by
  induction b with
  | nil =>
    have hnil := h []
    rw [distance_nil_right, distance_nil_right] at hnil
    rw [distance_nil_right, distance_nil_right, List.length_cons, List.length_cons]
    omega
  | cons d b ih =>
    have hskip := h (d :: b)
    have hkeep := h b
    rw [distance_cons_cons, distance_cons_cons]
    split <;> omega

/-- **An edit brings a text nearer to another by one at most.** -/
theorem distance_le_of_edit {s t : Text} (h : Edit s t) (b : Text) :
    distance s b ≤ distance t b + 1 := by
  induction h generalizing b with
  | insert c t => exact (near_cons_left (near_cons_right t) c b).2
  | delete c t => exact (near_cons_left (near_cons_right t) c b).1
  | replace c d t => exact distance_replace_le c d t b
  | behind c _ ih => exact distance_behind_le ih c b

theorem distance_self (a : Text) : distance a a = 0 := by
  induction a with
  | nil => rfl
  | cons c a ih => rw [distance_cons_cons, if_pos rfl, ih]

theorem distance_le_of_edits {n : Nat} {a b : Text} (h : Edits n a b) : distance a b ≤ n := by
  induction h with
  | done t => exact (distance_self t).le
  | step hedit _ ih => exact (distance_le_of_edit hedit _).trans (Nat.succ_le_succ ih)

/-- **The distance is the least number of edits that lead from one text to the other.** -/
theorem isLeast_distance (a b : Text) : IsLeast {n | Edits n a b} (distance a b) :=
  ⟨edits_distance a b, fun _ h => distance_le_of_edits h⟩

end CardCatalog.Text
