import Mathlib.Data.List.Basic
import Mathlib.Data.List.Nodup

/-!
Keeping the first element for each key.

The loop `collect` has a list of what it has kept and a set of the keys it has seen. What
it keeps are the elements that a search for their key would find (`mem_collect_iff`), and
no key is kept twice (`nodup_collect`).
-/

namespace FirstByKey

variable {α κ : Type} [DecidableEq κ] (key : α → κ)

def collect (acc : List α × List κ) (a : α) : List α × List κ :=
  if key a ∈ acc.2 then acc else (acc.1 ++ [a], key a :: acc.2)

variable {key} {acc : List α × List κ} {l : List α} {a : α}

theorem mem_foldl_collect_iff :
    a ∈ (l.foldl (collect key) acc).1 ↔
      a ∈ acc.1 ∨ key a ∉ acc.2 ∧ l.find? (fun b => key b = key a) = some a := by
  induction l generalizing acc with
  | nil => simp
  | cons b l ih =>
      rw [List.foldl_cons, ih, collect]
      by_cases seen : key b ∈ acc.2
      · rw [if_pos seen]
        have other : key a ∉ acc.2 → key b ≠ key a := by
          rintro new same
          exact new (same ▸ seen)
        refine or_congr_right (and_congr_right fun new => ?_)
        rw [List.find?_cons_of_neg (by simpa using other new)]
      · rw [if_neg seen, List.mem_append, List.mem_singleton, List.mem_cons, not_or, or_assoc]
        refine or_congr_right ?_
        by_cases same : key b = key a
        · rw [List.find?_cons_of_pos (by simpa using same), Option.some.injEq]
          rw [same] at seen
          simp [seen, same, eq_comm]
        · rw [List.find?_cons_of_neg (by simpa using same)]
          have different : a ≠ b := by
            rintro rfl
            exact same rfl
          simp [different, Ne.symm same]

theorem mem_collect_iff :
    a ∈ (l.foldl (collect key) ([], [])).1 ↔ l.find? (fun b => key b = key a) = some a := by
  simp [mem_foldl_collect_iff]

theorem nodup_foldl_collect (keys : acc.2 = (acc.1.map key).reverse)
    (nodup : (acc.1.map key).Nodup) : ((l.foldl (collect key) acc).1.map key).Nodup := by
  induction l generalizing acc with
  | nil => exact nodup
  | cons b l ih =>
      rw [List.foldl_cons]
      by_cases seen : key b ∈ acc.2
      · rw [collect, if_pos seen]
        exact ih keys nodup
      · rw [collect, if_neg seen]
        refine ih (by simp [keys]) ?_
        rw [keys, List.mem_reverse] at seen
        rw [List.map_append]
        exact nodup.append (List.nodup_singleton _) (by simpa using seen)

theorem nodup_collect : ((l.foldl (collect key) ([], [])).1.map key).Nodup :=
  nodup_foldl_collect rfl List.nodup_nil

end FirstByKey
