/-
Running totals, pages and sorted splits.

`runs f s l` pairs each element of a list with the total that has run up to it from `s`.  A page of
a list that starts from the total of what is before it is a page of the whole run, and the pages
together are the run.  A list that is sorted by a total order splits where the order does.
-/
import Mathlib.Algebra.BigOperators.Group.List.Basic
import Mathlib.Data.List.Sort

namespace Running

variable {α M : Type*} [AddMonoid M] {f : α → M} {s : M} {l l' : List α}

/-- The elements with the totals that have run up to them. -/
def runs (f : α → M) (s : M) : List α → List (α × M)
  | [] => []
  | x :: l => (x, s + f x) :: runs f (s + f x) l

@[simp] lemma runs_nil : runs f s [] = [] := rfl

@[simp] lemma runs_cons (x : α) : runs f s (x :: l) = (x, s + f x) :: runs f (s + f x) l := rfl

@[simp] lemma length_runs : (runs f s l).length = l.length := by
  induction l generalizing s with
  | nil => rfl
  | cons x l ih => rw [runs_cons, List.length_cons, ih, List.length_cons]

@[simp] lemma map_fst_runs : (runs f s l).map Prod.fst = l := by
  induction l generalizing s with
  | nil => rfl
  | cons x l ih => rw [runs_cons, List.map_cons, ih]

lemma runs_append : runs f s (l ++ l') = runs f s l ++ runs f (s + (l.map f).sum) l' := by
  induction l generalizing s with
  | nil => simp
  | cons x l ih =>
      rw [List.cons_append, runs_cons, ih, runs_cons, List.map_cons, List.sum_cons, ← add_assoc]
      rfl

lemma runs_page (k n : ℕ) : runs f (s + ((l.take k).map f).sum) ((l.drop k).take n) =
    ((runs f s l).drop k).take n := by
  have hsplit : runs f s l =
      runs f s (l.take k) ++ runs f (s + ((l.take k).map f).sum) (l.drop k) := by
    rw [← runs_append, List.take_append_drop]
  have hpage : runs f (s + ((l.take k).map f).sum) (l.drop k) =
      runs f (s + ((l.take k).map f).sum) ((l.drop k).take n) ++
        runs f (s + ((l.take k).map f).sum + (((l.drop k).take n).map f).sum)
          ((l.drop k).drop n) := by
    rw [← runs_append, List.take_append_drop]
  by_cases hk : k ≤ l.length
  · have hlen : (runs f s (l.take k)).length = k := by simp [hk]
    rw [hsplit, List.drop_left' hlen]
    by_cases hn : n ≤ (l.drop k).length
    · have hlen' : (runs f (s + ((l.take k).map f).sum) ((l.drop k).take n)).length = n := by
        rw [length_runs, List.length_take, Nat.min_eq_left hn]
      rw [hpage, List.take_left' hlen']
    · have hle : (l.drop k).length ≤ n := Nat.le_of_not_le hn
      have hle' : (runs f (s + ((l.take k).map f).sum) (l.drop k)).length ≤ n := by
        rw [length_runs]
        exact hle
      rw [List.take_of_length_le hle, List.take_of_length_le hle']
  · have hle : l.length ≤ k := Nat.le_of_not_le hk
    have hle' : (runs f s l).length ≤ k := by
      rw [length_runs]
      exact hle
    rw [List.drop_eq_nil_of_le hle, List.drop_eq_nil_of_le hle', List.take_nil, List.take_nil]
    rfl

/-- The total at a place is what has run up to it, with the place. -/
lemma getElem?_runs (i : ℕ) : (runs f s l)[i]? =
    l[i]?.map fun x => (x, s + ((l.take (i + 1)).map f).sum) := by
  induction l generalizing s i with
  | nil => rfl
  | cons x l ih =>
      cases i with
      | zero => simp
      | succ i =>
          rw [runs_cons, List.getElem?_cons_succ, ih, List.getElem?_cons_succ]
          refine congrArg (fun g => l[i]?.map g) ?_
          funext y
          rw [List.take_succ_cons, List.map_cons, List.sum_cons, add_assoc]

lemma pages {n : ℕ} (m : ℕ) (l : List α) :
    (List.range m).flatMap (fun p => (l.drop (p * n)).take n) = l.take (m * n) := by
  induction m with
  | zero => simp
  | succ m ih =>
      rw [List.range_succ, List.flatMap_append, ih, Nat.succ_mul, List.take_add]
      simp

section Sorted

variable {r : α → α → Prop} [DecidableRel r] [Std.Total r] [IsTrans α r] {p : α → Bool}

lemma insertionSort_split (hanti : ∀ a ∈ l, ∀ b ∈ l, r a b → r b a → a = b)
    (hp : ∀ a b, p a = true → p b = false → r a b) :
    l.insertionSort r = (l.filter p).insertionSort r ++ (l.filter (! p ·)).insertionSort r := by
  have hperm :
      List.Perm ((l.filter p).insertionSort r ++ (l.filter (! p ·)).insertionSort r) l := by
    refine ((List.perm_insertionSort r _).append (List.perm_insertionSort r _)).trans ?_
    exact List.filter_append_perm p l
  have hsorted : ((l.filter p).insertionSort r ++
      (l.filter (! p ·)).insertionSort r).Pairwise r := by
    rw [List.pairwise_append]
    refine ⟨List.pairwise_insertionSort r _, List.pairwise_insertionSort r _, ?_⟩
    intro a ha b hb
    rw [List.mem_insertionSort, List.mem_filter] at ha hb
    exact hp a b ha.2 (by simpa using hb.2)
  refine List.Perm.eq_of_pairwise ?_ (List.pairwise_insertionSort r l) hsorted
    ((List.perm_insertionSort r l).trans hperm.symm)
  intro a b ha hb
  exact hanti a ((List.mem_insertionSort r).mp ha) b (hperm.mem_iff.mp hb)

end Sorted

end Running
