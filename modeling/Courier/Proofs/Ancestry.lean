import Courier.Proofs.Paths
import Mathlib.Data.List.Infix

/-!
# Directories above and below

A directory contains itself and whatever has its parent in it. Comparing two paths level by level
decides just that, and a plain name read in a directory leads to the one of this name whose parent
that directory is. So the comparison by levels, the way up and the way down by a name all speak of
one order, with the root at its top and each directory below a chain of others.
-/

namespace Courier.RemotePath

variable {top path above one other third : RemotePath} {segments others : List Segment}
  {name : String}

/-- The directory is `top`, or its parent is in `top`. -/
inductive Contains (top : RemotePath) : RemotePath → Prop
  | self : Contains top top
  | child {path above : RemotePath} (parent : path.parent? = some above)
      (contains : Contains top above) : Contains top path

theorem contains_iff_of_parent? (parent : path.parent? = some above) :
    Contains top path ↔ top = path ∨ Contains top above := by
  constructor
  · rintro (_ | ⟨again, contains⟩)
    · exact .inl rfl
    · obtain rfl := Option.some.inj (parent.symm.trans again)
      exact .inr contains
  · rintro (rfl | contains)
    · exact .self
    · exact .child parent contains

/-- The induction is on the lower path, from its last level up. -/
theorem contains_absolute_iff :
    Contains (absolute segments) (absolute others) ↔ segments <+: others := by
  induction others using List.reverseRecOn with
  | nil =>
      rw [List.prefix_nil]
      constructor
      · rintro (_ | ⟨parent, -⟩)
        · rfl
        · cases parent
      · rintro rfl
        exact .self
  | append_singleton others segment ih =>
      rw [contains_iff_of_parent? (parent?_append_singleton others segment), ih,
        List.prefix_concat_iff, absolute.injEq]

/-- Comparing level by level tells whether a directory contains another. -/
theorem isAtOrAbove_iff (specified : top.isUnspecified = false) (path : RemotePath) :
    top.isAtOrAbove path = true ↔ Contains top path := by
  cases top with
  | unspecified => cases specified
  | absolute segments =>
      cases path with
      | absolute others => exact List.isPrefixOf_iff_prefix.trans contains_absolute_iff.symm
      | unspecified =>
          refine iff_of_false Bool.false_ne_true ?_
          rintro (_ | ⟨parent, -⟩)
          cases parent

theorem Contains.trans (this : Contains one other) (that : Contains other third) :
    Contains one third := by
  induction that with
  | self => exact this
  | child parent _ ih => exact .child parent ih

theorem isAtOrAbove_iff_contains :
    top.isAtOrAbove path = true ↔ top.isUnspecified = false ∧ Contains top path := by
  cases top with
  | unspecified => exact iff_of_false Bool.false_ne_true fun specified => nomatch specified.1
  | absolute segments => exact (isAtOrAbove_iff rfl path).trans (and_iff_right rfl).symm

theorem isAtOrAbove_root (specified : path.isUnspecified = false) :
    root.isAtOrAbove path = true := by
  cases path with
  | unspecified => cases specified
  | absolute segments => rfl

/-- Of two directories that contain a third, one contains the other. -/
theorem Contains.comparable (this : Contains one path) (that : Contains other path) :
    Contains one other ∨ Contains other one := by
  induction this with
  | self => exact .inr that
  | child parent contains ih =>
      rcases (contains_iff_of_parent? parent).1 that with rfl | that
      · exact .inl (.child parent contains)
      · exact ih that

/-- No directory contains its parent. -/
theorem not_contains_parent (parent : path.parent? = some above) : ¬ Contains path above := by
  intro contains
  cases path with
  | unspecified => cases parent
  | absolute segments =>
      cases segments using List.reverseRecOn with
      | nil => cases parent
      | append_singleton segments segment =>
          obtain rfl := Option.some.inj ((parent?_append_singleton ..).symm.trans parent)
          have shorter := (contains_absolute_iff.1 contains).length_le
          rw [List.length_append, List.length_singleton] at shorter
          omega

/-- What contains a directory other than itself contains its parent, so no two directories contain
each other. -/
theorem Contains.antisymm (this : Contains one other) (that : Contains other one) :
    one = other := by
  cases this with
  | self => rfl
  | child parent inside => exact absurd (that.trans inside) (not_contains_parent parent)

/-- Different directories with one parent contain nothing in common. -/
theorem Contains.eq_of_parent? (parent : one.parent? = some above)
    (same : other.parent? = some above) (this : Contains one path) (that : Contains other path) :
    one = other := by
  rcases this.comparable that with inside | inside
  · rcases (contains_iff_of_parent? same).1 inside with is | inside
    · exact is
    · exact absurd inside (not_contains_parent parent)
  · rcases (contains_iff_of_parent? parent).1 inside with is | inside
    · exact is.symm
    · exact absurd inside (not_contains_parent same)

/-- A plain name leads to the directory of this name in the one where it is read. -/
theorem join_plain (specified : path.isUnspecified = false) (plain : IsPlainName name) :
    (path.join name).parent? = some path ∧ (path.join name).lastName? = some name := by
  cases path with
  | unspecified => cases specified
  | absolute segments =>
      have relative : name.toList.head? ≠ some '/' :=
        fun slash => plain.2.2.2 (List.mem_of_head? slash)
      have down : (absolute segments).join name = absolute (segments ++ [⟨name, plain⟩]) :=
        (join_of_relative segments relative).trans
          (congrArg absolute (resolve_plain segments ⟨name, plain⟩))
      rw [down]
      exact ⟨parent?_append_singleton .., lastName?_append_singleton ..⟩

/-- A directory has a parent and a last name just where it is reached from that parent by that
name. -/
theorem parent?_and_lastName?_iff :
    path.parent? = some above ∧ path.lastName? = some name ↔
      IsPlainName name ∧ above.isUnspecified = false ∧ above.join name = path := by
  constructor
  · rintro ⟨parent, last⟩
    obtain ⟨segments, segment, rfl, rfl, rfl⟩ := exists_of_parent? parent last
    have relative : segment.name.toList.head? ≠ some '/' :=
      fun slash => segment.plain.2.2.2 (List.mem_of_head? slash)
    have down := join_of_relative segments relative
    rw [resolve_plain] at down
    exact ⟨segment.plain, rfl, down⟩
  · rintro ⟨plain, specified, rfl⟩
    exact join_plain specified plain

/-- Containment is the order of ancestors: a directory contains itself and those from which the way
up leads to it. The root contains every directory, the ancestors of a directory form a chain, and
the unspecified path has no part in the order. A directory is reached from its parent by its last
name, and from no other directory by a plain name. -/
theorem containment_by_ancestry (path other third : RemotePath) (name : String) :
    (path.isAtOrAbove other = true ↔ path.isUnspecified = false ∧ Contains path other) ∧
    (path.isUnspecified = false → path.isAtOrAbove path = true ∧ root.isAtOrAbove path = true) ∧
    (path.isAtOrAbove other = true → other.isAtOrAbove third = true →
      path.isAtOrAbove third = true) ∧
    (path.isAtOrAbove other = true → other.isAtOrAbove path = true → path = other) ∧
    (path.isAtOrAbove third = true → other.isAtOrAbove third = true →
      path.isAtOrAbove other = true ∨ other.isAtOrAbove path = true) ∧
    unspecified.isAtOrAbove path = false ∧ path.isAtOrAbove unspecified = false ∧
    (path.parent? = some other ∧ path.lastName? = some name ↔
      IsPlainName name ∧ other.isUnspecified = false ∧ other.join name = path) := by
  have order (top path : RemotePath) : top.isAtOrAbove path = true ↔ _ := isAtOrAbove_iff_contains
  refine ⟨order path other, ?_, ?_, ?_, ?_, ?_, ?_, parent?_and_lastName?_iff⟩
  · intro specified
    exact ⟨(order ..).2 ⟨specified, .self⟩, isAtOrAbove_root specified⟩
  · intro this that
    obtain ⟨specified, inside⟩ := (order ..).1 this
    exact (order ..).2 ⟨specified, inside.trans ((order ..).1 that).2⟩
  · intro this that
    exact ((order ..).1 this).2.antisymm ((order ..).1 that).2
  · intro this that
    obtain ⟨specified, inside⟩ := (order ..).1 this
    obtain ⟨otherSpecified, otherInside⟩ := (order ..).1 that
    rcases inside.comparable otherInside with above | above
    · exact .inl ((order ..).2 ⟨specified, above⟩)
    · exact .inr ((order ..).2 ⟨otherSpecified, above⟩)
  · rfl
  · cases path <;> rfl

/-- A directory two levels below another, where both were come by past other places. -/
theorem containment_by_ancestry_dotted :
    let top := ofString "/etc/..//home"
    let path := top.join "user/./docs"
    Contains top path ∧ root.isAtOrAbove path = true ∧ path.isAtOrAbove top = false ∧
      IsPlainName "docs" ∧ (ofString "/home/user").join "docs" = path := by
  intro top path
  have below : top.isAtOrAbove path = true := by decide
  have parent : path.parent? = some (ofString "/home/user") := by decide
  obtain ⟨order, -, -, antisymm, -⟩ := containment_by_ancestry top path root ""
  obtain ⟨-, -, trans, -⟩ := containment_by_ancestry root top path ""
  obtain ⟨-, -, -, -, -, -, -, last⟩ :=
    containment_by_ancestry path (ofString "/home/user") root "docs"
  obtain ⟨plain, -, down⟩ := last.1 ⟨parent, by decide⟩
  refine ⟨(order.1 below).2, trans (by decide) below, ?_, plain, down⟩
  cases upside : path.isAtOrAbove top with
  | false => rfl
  | true => exact absurd (antisymm below upside) (by decide)

end Courier.RemotePath
