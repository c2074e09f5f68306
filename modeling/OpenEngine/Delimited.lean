import Mathlib.Data.List.TakeWhile

/-!
# Parts of a text between separators

The first part of a text that is split at any of some separators, and the two parts on either side
of the last occurrence of one. Each is stated by what the parts are, so a caller never reasons about
the search for the separator.
-/

namespace Delimited

variable {α : Type*} [DecidableEq α]

/-- What is empty or starts with one of the separators. -/
def StartsAt (separators rest : List α) : Prop := ∀ first ∈ rest.head?, first ∈ separators

instance (separators rest : List α) : Decidable (StartsAt separators rest) :=
  inferInstanceAs (Decidable (∀ first ∈ rest.head?, _))

/-- The first part of a text split at the separators; the whole text without one. -/
def before (separators text : List α) : List α := text.takeWhile (· ∉ separators)

/-- The first part is what stands free of separators before one or the end. -/
theorem before_eq_iff {separators text part : List α} :
    before separators text = part ↔
      ∃ rest, text = part ++ rest ∧ (∀ entry ∈ part, entry ∉ separators) ∧
        StartsAt separators rest := by
  constructor
  · rintro rfl
    refine ⟨text.dropWhile (· ∉ separators), List.takeWhile_append_dropWhile.symm, ?_, ?_⟩
    · intro entry member
      simpa using List.mem_takeWhile_imp member
    · intro first here
      by_contra absent
      have stopped := List.head?_dropWhile_not (· ∉ separators) text
      rw [here] at stopped
      simp [absent] at stopped
  · rintro ⟨rest, rfl, free, starts⟩
    unfold before
    rw [List.takeWhile_append_of_pos (by simpa using free)]
    cases rest with
    | nil => simp
    | cons first rest =>
      have stop : first ∈ separators := starts first rfl
      simp [stop]

/-- The parts before and after the first separator. -/
def splitOnce (separator : α) (text : List α) : Option (List α × List α) :=
  match text.dropWhile (· ≠ separator) with
  | [] => none
  | _ :: back => some (before [separator] text, back)

/-- The two parts are those around a separator with none before it. -/
theorem splitOnce_of_free {separator : α} {front back : List α} (free : separator ∉ front) :
    splitOnce separator (front ++ separator :: back) = some (front, back) := by
  have first : before [separator] (front ++ separator :: back) = front := by
    refine before_eq_iff.mpr ⟨separator :: back, rfl, fun entry member => ?_, by simp [StartsAt]⟩
    rw [List.mem_singleton]
    rintro rfl
    exact free member
  have rest : (front ++ separator :: back).dropWhile (· ≠ separator) = separator :: back := by
    rw [List.dropWhile_append_of_pos fun entry member => ?_]
    · simp
    · simpa using fun same : entry = separator => free (same ▸ member)
  unfold splitOnce
  rw [rest, first]

/-- Two texts with a separator are told apart by the parts around their first one. -/
theorem free_append_cons_inj {separator : α} {front other back later : List α}
    (free : separator ∉ front) (absent : separator ∉ other) :
    front ++ separator :: back = other ++ separator :: later ↔ front = other ∧ back = later := by
  constructor
  · intro same
    have left : splitOnce separator (front ++ separator :: back) = some (front, back) :=
      splitOnce_of_free free
    rw [same, splitOnce_of_free absent] at left
    obtain ⟨fronts, backs⟩ := Prod.mk.inj (Option.some.inj left)
    exact ⟨fronts.symm, backs.symm⟩
  · rintro ⟨rfl, rfl⟩
    rfl

/-- The parts before and after the last separator. -/
def rsplitOnce (separator : α) : List α → Option (List α × List α)
  | [] => none
  | first :: rest =>
    match rsplitOnce separator rest with
    | some (front, back) => some (first :: front, back)
    | none => if first = separator then some ([], rest) else none

/-- There are no two parts without a separator. -/
theorem rsplitOnce_eq_none_iff {separator : α} {text : List α} :
    rsplitOnce separator text = none ↔ separator ∉ text := by
  induction text with
  | nil => simp [rsplitOnce]
  | cons first rest ih =>
    rw [rsplitOnce, List.mem_cons, not_or]
    cases later : rsplitOnce separator rest with
    | some parts =>
      have present : separator ∈ rest := by
        by_contra absent
        rw [ih.mpr absent] at later
        contradiction
      simp [present]
    | none =>
      have absent : separator ∉ rest := ih.mp later
      simp [absent, eq_comm]

/-- The two parts are those around a separator with none after it. -/
theorem rsplitOnce_eq_some_iff {separator : α} {text front back : List α} :
    rsplitOnce separator text = some (front, back) ↔
      text = front ++ separator :: back ∧ separator ∉ back := by
  constructor
  · intro split
    induction text generalizing front with
    | nil => contradiction
    | cons first rest ih =>
      rw [rsplitOnce] at split
      cases later : rsplitOnce separator rest with
      | some parts =>
        obtain ⟨before, after⟩ := parts
        rw [later] at split
        obtain ⟨rfl, rfl⟩ := Prod.mk.inj (Option.some.inj split)
        obtain ⟨parts, absent⟩ := ih later
        exact ⟨by rw [parts, List.cons_append], absent⟩
      | none =>
        rw [later] at split
        dsimp only at split
        split at split
        · next here =>
          obtain ⟨rfl, rfl⟩ := Prod.mk.inj (Option.some.inj split)
          exact ⟨by rw [here, List.nil_append], rsplitOnce_eq_none_iff.mp later⟩
        · contradiction
  · rintro ⟨rfl, absent⟩
    induction front with
    | nil =>
      rw [List.nil_append, rsplitOnce, rsplitOnce_eq_none_iff.mpr absent]
      exact if_pos rfl
    | cons first front ih => rw [List.cons_append, rsplitOnce, ih]

/-- Two texts with a separator are told apart by the parts around their last one. -/
theorem append_cons_inj {separator : α} {front other back later : List α}
    (absent : separator ∉ back) (free : separator ∉ later) :
    front ++ separator :: back = other ++ separator :: later ↔ front = other ∧ back = later := by
  constructor
  · intro same
    have left := rsplitOnce_eq_some_iff.mpr ⟨same, free⟩
    have right := rsplitOnce_eq_some_iff.mpr ⟨(rfl : front ++ separator :: back = _), absent⟩
    exact Prod.mk.inj (Option.some.inj (right.symm.trans left))
  · rintro ⟨rfl, rfl⟩
    rfl

omit [DecidableEq α] in
/-- Two parts around a separator are those of the same text, or one front continues the other behind
the separator. -/
theorem append_cons_eq_append_cons {separator : α} {front other back later : List α} :
    front ++ separator :: back = other ++ separator :: later ↔
      (front = other ∧ back = later) ∨
      (∃ gap, other = front ++ separator :: gap ∧ back = gap ++ separator :: later) ∨
      ∃ gap, front = other ++ separator :: gap ∧ later = gap ++ separator :: back := by
  rw [List.append_eq_append_iff]
  constructor
  · rintro (⟨gap, longer, rest⟩ | ⟨gap, longer, rest⟩)
    · cases gap with
      | nil => exact .inl ⟨by simpa using longer.symm, (List.cons.inj rest).2⟩
      | cons first gap =>
        obtain ⟨same, rest⟩ := List.cons.inj rest
        exact .inr (.inl ⟨gap, same ▸ longer, rest⟩)
    · cases gap with
      | nil => exact .inl ⟨by simpa using longer, (List.cons.inj rest).2.symm⟩
      | cons first gap =>
        obtain ⟨same, rest⟩ := List.cons.inj rest
        exact .inr (.inr ⟨gap, same ▸ longer, rest⟩)
  · rintro (⟨rfl, rfl⟩ | ⟨gap, rfl, rfl⟩ | ⟨gap, rfl, rfl⟩)
    · exact .inl ⟨[], by simp, by simp⟩
    · exact .inl ⟨separator :: gap, rfl, rfl⟩
    · exact .inr ⟨separator :: gap, rfl, rfl⟩

omit [DecidableEq α] in
/-- Behind a part without the separator, any other part of the text up to a separator starts with
it. -/
theorem prefix_of_free {separator : α} {part front rest back : List α} (free : separator ∉ part)
    (same : part ++ separator :: rest = front ++ separator :: back) :
    part ++ [separator] <+: front ++ [separator] := by
  obtain ⟨rfl, -⟩ | ⟨gap, rfl, -⟩ | ⟨gap, rfl, -⟩ := append_cons_eq_append_cons.mp same
  · exact List.prefix_refl _
  · exact ⟨gap ++ [separator], by simp⟩
  · exact absurd (by simp) free

omit [DecidableEq α] in
/-- Of two texts that each open the whole and end it behind a separator, the one whose middle part
is free of separators is at least as long. -/
theorem length_le_of_repeated {separator : α} {text other marker part middle : List α}
    (free : separator ∉ part)
    (same : text ++ (marker ++ (part ++ separator :: text)) =
      other ++ (marker ++ (middle ++ separator :: other))) : other.length ≤ text.length := by
  by_contra longer
  have lengths := congrArg List.length same
  simp only [List.length_append, List.length_cons] at lengths
  have extra : other.length - text.length - 1 < part.reverse.length := by
    rw [List.length_reverse]
    omega
  -- From the end, the separator before `other` stands among the characters of `part`.
  have mirrored := congrArg (fun chars => chars.reverse[other.length]?) same
  have before : other.length = text.reverse.length + 1 + (other.length - text.length - 1) := by
    rw [List.length_reverse]
    omega
  have found : (other ++ (marker ++ (middle ++ separator :: other))).reverse[other.length]? =
      some separator := by
    simp
  have inside : (text ++ (marker ++ (part ++ separator :: text))).reverse[other.length]? =
      part.reverse[other.length - text.length - 1]? := by
    rw [before]
    simp only [List.reverse_append, List.reverse_cons, List.append_assoc]
    rw [Nat.add_assoc, List.getElem?_append_right (Nat.le_add_right _ _), Nat.add_sub_cancel_left,
      List.getElem?_append_right (by simp), List.length_singleton, Nat.add_sub_cancel_left,
      List.getElem?_append_left (by omega)]
    simp
  rw [inside, found] at mirrored
  exact free (List.mem_reverse.mp (List.mem_of_getElem? mirrored))

omit [DecidableEq α] in
/-- A text and a part without the separator are told apart in `text marker part separator text`. -/
theorem repeated_inj {separator : α} {text other marker part middle : List α}
    (absent : separator ∉ part) (free : separator ∉ middle) :
    text ++ (marker ++ (part ++ separator :: text)) =
        other ++ (marker ++ (middle ++ separator :: other)) ↔ text = other ∧ part = middle := by
  constructor
  · intro same
    have long := length_le_of_repeated absent same
    have short := length_le_of_repeated free same.symm
    obtain ⟨rfl, rest⟩ := List.append_inj same (Nat.le_antisymm short long)
    exact ⟨rfl, List.append_cancel_right (List.append_cancel_left rest)⟩
  · rintro ⟨rfl, rfl⟩
    rfl

end Delimited
