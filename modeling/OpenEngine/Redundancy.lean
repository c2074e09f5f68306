import Mathlib.Data.List.Basic
import Mathlib.Order.Defs.PartialOrder

/-!
# Asking one party after the other

Parties that do the same work are asked in some order until one answers. What a search does depends
on three kinds of reply only: silence, an answer that leaves the next search where it starts, and an
answer that moves it. The order decides who is asked and who answers; the party that answers is the
last one asked.
-/

namespace Redundancy

/-- What a reply does to the search. -/
inductive Reply where
  | silent
  | verdict
  | value
deriving DecidableEq

/-- The search ends with the reply. -/
def Reply.isAnswer : Reply → Bool
  | .silent => false
  | .verdict | .value => true

variable {ι : Type*}

/-- The parties asked, in order: those up to the first that answers. -/
def asked (reply : ι → Reply) : List ι → List ι
  | [] => []
  | party :: rest => if (reply party).isAnswer then [party] else party :: asked reply rest

/-- The party that answers. -/
def answerer (reply : ι → Reply) (order : List ι) : Option ι :=
  order.find? fun party => (reply party).isAnswer

variable {reply : ι → Reply}

/-- A party that answers is the last one asked. -/
theorem asked_of_answer {party : ι} (answers : (reply party).isAnswer = true) (rest : List ι) :
    asked reply (party :: rest) = [party] := by
  rw [asked, if_pos answers]

/-- Behind a silent party the search goes on. -/
theorem asked_of_silent {party : ι} (silent : (reply party).isAnswer = false) (rest : List ι) :
    asked reply (party :: rest) = party :: asked reply rest := by
  rw [asked, silent, if_neg Bool.false_ne_true]

/-- Parties are asked in order. -/
theorem asked_prefix (order : List ι) : asked reply order <+: order := by
  induction order with
  | nil => exact List.prefix_refl _
  | cons party rest ih =>
    rw [asked]
    split
    · exact ⟨rest, rfl⟩
    · exact (List.prefix_cons_inj party).mpr ih

/-- The first party in the order is asked. -/
theorem head?_asked (order : List ι) : (asked reply order).head? = order.head? := by
  cases order with
  | nil => rfl
  | cons party rest =>
    rw [asked]
    split <;> rfl

/-- The party that answers is the last one asked. -/
theorem getLast?_asked {order : List ι} {party : ι} (found : answerer reply order = some party) :
    (asked reply order).getLast? = some party := by
  induction order with
  | nil => cases found
  | cons first rest ih =>
    cases answers : (reply first).isAnswer with
    | true =>
      rw [answerer, List.find?_cons_of_pos (by simp [answers])] at found
      rw [asked_of_answer answers, List.getLast?_singleton, found]
    | false =>
      rw [answerer, List.find?_cons_of_neg (by simp [answers])] at found
      rw [asked_of_silent answers, List.getLast?_cons, ih found, Option.getD_some]

/-- Asked or not, the first party in the order that answers is the one that answers. -/
theorem answerer_asked (order : List ι) :
    answerer reply (asked reply order) = answerer reply order := by
  induction order with
  | nil => rfl
  | cons first rest ih =>
    cases answers : (reply first).isAnswer with
    | true =>
      rw [asked_of_answer answers, answerer, answerer, List.find?_cons_of_pos (by simp [answers]),
        List.find?_cons_of_pos (by simp [answers])]
    | false =>
      rw [asked_of_silent answers, answerer, answerer, List.find?_cons_of_neg (by simp [answers]),
        List.find?_cons_of_neg (by simp [answers])]
      exact ih

/-- A search among renamed parties asks the renamed. -/
theorem asked_map {κ : Type*} (reply : κ → Reply) (name : ι → κ) (order : List ι) :
    asked reply (order.map name) = (asked (fun party => reply (name party)) order).map name := by
  induction order with
  | nil => rfl
  | cons party rest ih =>
    rw [List.map_cons, asked, asked]
    split
    · rfl
    · rw [ih, List.map_cons]

/-- A search among renamed parties is answered by the renamed. -/
theorem answerer_map {κ : Type*} (reply : κ → Reply) (name : ι → κ) (order : List ι) :
    answerer reply (order.map name) =
      (answerer (fun party => reply (name party)) order).map name :=
  List.find?_map

/-- Of parties asked in increasing order the least one that answers does. -/
theorem answerer_of_least [Preorder ι] {order : List ι} {party : ι}
    (sorted : order.Pairwise (· < ·)) (listed : party ∈ order)
    (answers : (reply party).isAnswer = true)
    (least : ∀ other ∈ order, (reply other).isAnswer = true → ¬ other < party) :
    answerer reply order = some party := by
  obtain ⟨before, after, split⟩ := List.append_of_mem listed
  refine List.find?_eq_some_iff_append.mpr ⟨answers, before, after, split, ?_⟩
  intro earlier isEarlier
  rw [split] at sorted least
  have ordered := (List.pairwise_append.mp sorted).2.2 earlier isEarlier party List.mem_cons_self
  rw [Bool.not_eq_true', Bool.eq_false_iff]
  exact fun replied => least earlier (List.mem_append_left _ isEarlier) replied ordered

end Redundancy
