import Mathlib.Data.List.Basic
import Mathlib.Data.List.Induction

/-!
# Queues that refuse what does not fit

A queue of capacity `cap` that is offered a list of elements, one after the other, keeps the longest
prefix that fits behind its old contents and refuses the rest. `Fed` says so, and `Fed.trans` puts
two lists of offers together, so that a loop of offers is treated by induction. Where it does not
matter what is refused, `offer` is one offer and `foldl_offer` a list of them.
-/

namespace DeltaV

variable {α : Type*} {cap : ℕ}

/-- What a queue holds and what has been refused, before and after it is offered the list. -/
structure Fed (cap : ℕ) (queue refused : List α) (xs : List α) (queue' refused' : List α) :
    Prop where
  queue_eq : queue' = queue ++ xs.take (cap - queue.length)
  refused_eq : refused' = refused ++ xs.drop (cap - queue.length)

namespace Fed

variable {queue queue' queue'' refused refused' refused'' xs ys : List α}

/-- No offer changes nothing. -/
theorem refl (queue refused : List α) : Fed cap queue refused [] queue refused :=
  ⟨by simp, by simp⟩

/-- One offer is accepted exactly when there is room. -/
theorem single (queue refused : List α) (x : α) :
    Fed cap queue refused [x] (queue ++ if queue.length < cap then [x] else [])
      (refused ++ if queue.length < cap then [] else [x]) := by
  by_cases h : queue.length < cap
  · obtain ⟨k, hk⟩ : ∃ k, cap - queue.length = k + 1 := ⟨cap - queue.length - 1, by omega⟩
    exact ⟨by simp [h, hk], by simp [h, hk]⟩
  · have hk : cap - queue.length = 0 := by omega
    exact ⟨by simp [h, hk], by simp [h, hk]⟩

/-- Offers one after the other are offers of one list. -/
theorem trans (h : Fed cap queue refused xs queue' refused')
    (h' : Fed cap queue' refused' ys queue'' refused'') :
    Fed cap queue refused (xs ++ ys) queue'' refused'' := by
  -- The room left for the second list is what the first has not used.
  have hlen : cap - queue'.length = cap - queue.length - xs.length := by
    rw [h.queue_eq, List.length_append, List.length_take]
    omega
  constructor
  · calc queue'' = queue' ++ ys.take (cap - queue.length - xs.length) := by rw [h'.queue_eq, hlen]
      _ = queue ++ (xs.take (cap - queue.length) ++ ys.take (cap - queue.length - xs.length)) := by
        rw [h.queue_eq, List.append_assoc]
      _ = queue ++ (xs ++ ys).take (cap - queue.length) := by rw [List.take_append]
  · calc refused'' = refused' ++ ys.drop (cap - queue.length - xs.length) := by
          rw [h'.refused_eq, hlen]
      _ = refused ++ (xs.drop (cap - queue.length) ++ ys.drop (cap - queue.length - xs.length)) := by
        rw [h.refused_eq, List.append_assoc]
      _ = refused ++ (xs ++ ys).drop (cap - queue.length) := by rw [List.drop_append]

end Fed

/-- A list offered one element: it is appended if there is room. -/
def offer (cap : ℕ) (queue : List α) (x : α) : List α :=
  if queue.length < cap then queue ++ [x] else queue

/-- An offer keeps to the capacity. -/
theorem length_offer_le {queue : List α} (h : queue.length ≤ cap) (x : α) :
    (offer cap queue x).length ≤ cap := by
  unfold offer
  split_ifs with hroom
  · rw [List.length_append, List.length_singleton]
    exact hroom
  · exact h

/-- An offer to the beginning of a list is the beginning of the longer list. -/
theorem offer_take (xs : List α) (x : α) :
    offer cap (xs.take cap) x = (xs ++ [x]).take cap := by
  unfold offer
  rw [List.length_take]
  split_ifs with hroom
  · rw [List.take_of_length_le (by omega), List.take_of_length_le]
    rw [List.length_append, List.length_singleton]
    omega
  · rw [List.take_append_of_le_length (by omega)]

/-- A list of offers to an empty list keeps as many as fit. -/
theorem foldl_offer (xs : List α) : xs.foldl (offer cap) [] = xs.take cap := by
  induction xs using List.reverseRecOn with
  | nil => simp
  | append_singleton xs x ih => rw [List.foldl_concat, ih, offer_take]

end DeltaV
