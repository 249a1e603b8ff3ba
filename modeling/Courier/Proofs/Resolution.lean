import Courier.Proofs.Paths
import Mathlib.Data.List.Basic

/-!
# Paths as lists of names

A path has a name for each level below the root. Told in plain texts, without any promise about
them, a path is made by reading a text part by part, by going up, and by writing a path out and
reading it again with more behind it. However paths are made in this way, each name keeps standing
for one level, and joining comes to going on part by part.
-/

namespace Courier

/-- Cutting a text into pieces is splitting a list at a value. -/
theorem Text.pieces_eq_splitOn (sep : Char) (cs : List Char) : pieces sep cs = cs.splitOn sep := by
  induction cs with
  | nil => rfl
  | cons c rest ih =>
      unfold pieces List.splitOn
      rw [List.splitOnP_cons_eq_if_modifyHead, ih]
      by_cases separates : c = sep
      · simp [separates, List.splitOn]
      · cases cut : rest.splitOn sep with
        | nil => exact absurd (ih.trans cut) (pieces_ne_nil sep rest)
        | cons piece others =>
            rw [List.splitOn] at cut
            simp [separates, cut]

theorem Segment.name_injective : Function.Injective Segment.name := by
  rintro ⟨name, plain⟩ ⟨other, _⟩ same
  obtain rfl : name = other := same
  rfl

namespace RemotePath

variable {path other : RemotePath} {names : List String} {sub : String}

/-! ## Names -/

/-- The names of the levels below the root; none of the unspecified path. -/
def names? : RemotePath → Option (List String)
  | unspecified => none
  | absolute segments => some (segments.map Segment.name)

theorem names?_injective : Function.Injective names? := by
  intro path other same
  cases path with
  | unspecified =>
      cases other with
      | unspecified => rfl
      | absolute segments => cases same
  | absolute segments =>
      cases other with
      | unspecified => cases same
      | absolute others =>
          exact congrArg absolute
            (List.map_injective_iff.2 Segment.name_injective (Option.some.inj same))

/-- Each name stands for one level. -/
theorem plain_of_names? (named : path.names? = some names) {name : String} (mem : name ∈ names) :
    IsPlainName name := by
  cases path with
  | unspecified => cases named
  | absolute segments =>
      obtain rfl := Option.some.inj named
      obtain ⟨segment, -, rfl⟩ := List.mem_map.1 mem
      exact segment.plain

theorem text_injective : Function.Injective text :=
  Function.LeftInverse.injective ofString_text

/-- The parts of a text between its slashes. -/
def parts (text : String) : List String := (text.toList.splitOn '/').map String.ofList

theorem parts_append (front back : String) :
    parts (front ++ "/" ++ back) = parts front ++ parts back := by
  have letters : (front ++ "/" ++ back).toList = front.toList ++ '/' :: back.toList := by simp
  unfold parts
  rw [letters, ← Text.pieces_eq_splitOn, Text.pieces_append, List.map_append,
    Text.pieces_eq_splitOn, Text.pieces_eq_splitOn]

/-- Where a part leads from a directory: nowhere if it is empty or a dot, up if it is two dots, else
down. -/
def onward (names : List String) (part : String) : List String :=
  if part = "" ∨ part = "." then names
  else if part = ".." then names.dropLast
  else names ++ [part]

/-- The directory a text leads to, if it begins at the root. -/
def reading (text : String) : Option (List String) :=
  if text.toList.head? = some '/' then some ((parts text).foldl onward []) else none

/-- The text of a directory. -/
def written (names : List String) : String :=
  if names = [] then "/" else String.join (names.map ("/" ++ ·))

/-- A part has no slash in it, so it leads down exactly if it is a plain name. -/
theorem names_follow (dirs : List Segment) {part : List Char} (whole : '/' ∉ part) :
    (follow dirs part).map Segment.name = onward (dirs.map Segment.name) (String.ofList part) := by
  unfold follow onward
  simp only
  by_cases plain : IsPlainName (String.ofList part)
  · have down : ¬ (String.ofList part = "" ∨ String.ofList part = ".") :=
      not_or.2 ⟨plain.1, plain.2.1⟩
    rw [dif_pos plain, if_neg down, if_neg plain.2.2.1]
    simp
  · rw [dif_neg plain]
    by_cases up : String.ofList part = ".."
    · rw [if_pos up, if_neg (by simp [up]), if_pos up, List.map_dropLast]
    · have stays : String.ofList part = "" ∨ String.ofList part = "." := by
        by_contra other
        obtain ⟨filled, dot⟩ := not_or.1 other
        exact plain ⟨filled, dot, up, by simpa using whole⟩
      rw [if_neg up, if_pos stays]

/-- Following a text is going on part by part. -/
theorem names_resolve (dirs : List Segment) (text : String) :
    (resolve dirs text.toList).map Segment.name =
      (parts text).foldl onward (dirs.map Segment.name) := by
  have cuts : parts text = (Text.pieces '/' text.toList).map String.ofList := by
    rw [parts, Text.pieces_eq_splitOn]
  have whole : ∀ part ∈ Text.pieces '/' text.toList, '/' ∉ part := fun _ =>
    Text.not_mem_of_mem_pieces
  unfold resolve
  rw [cuts, List.foldl_map]
  generalize Text.pieces '/' text.toList = pieces at whole
  induction pieces generalizing dirs with
  | nil => rfl
  | cons part rest ih =>
      obtain ⟨first, others⟩ := List.forall_mem_cons.1 whole
      rw [List.foldl_cons, List.foldl_cons, ← names_follow dirs first]
      exact ih _ others

theorem ofString_of_relative {text : String} (relative : text.toList.head? ≠ some '/') :
    ofString text = unspecified := by
  unfold ofString
  split
  · rename_i rest slash
    exact absurd (by rw [slash]; rfl) relative
  · rfl

theorem names?_ofString (text : String) : (ofString text).names? = reading text := by
  unfold reading
  by_cases slash : text.toList.head? = some '/'
  · rw [if_pos slash, ofString_of_head slash]
    exact congrArg some (names_resolve [] text)
  · rw [if_neg slash, ofString_of_relative slash]
    rfl

theorem segmentsText_eq_join (segments : List Segment) :
    segmentsText segments = String.join ((segments.map Segment.name).map ("/" ++ ·)) := by
  induction segments with
  | nil => rfl
  | cons segment rest ih =>
      rw [List.map_cons, List.map_cons, String.join_cons, ← ih]
      rfl

theorem text_eq_written (named : path.names? = some names) : path.text = written names := by
  cases path with
  | unspecified => cases named
  | absolute segments =>
      obtain rfl := Option.some.inj named
      cases segments with
      | nil => rfl
      | cons segment rest => exact segmentsText_eq_join (segment :: rest)

theorem names?_parent (path : RemotePath) :
    (path.parent?.getD path).names? = path.names?.map List.dropLast := by
  cases path with
  | unspecified => rfl
  | absolute segments =>
      cases segments with
      | nil => rfl
      | cons segment rest => exact congrArg some List.map_dropLast

theorem unspecified_join (relative : sub.toList.head? ≠ some '/') :
    unspecified.join sub = unspecified := by
  unfold join
  rw [if_neg relative]
  rfl

/-- Joining a relative text is going on part by part. -/
theorem names?_join (path : RemotePath) (relative : sub.toList.head? ≠ some '/') :
    (path.join sub).names? = path.names?.map fun names => (parts sub).foldl onward names := by
  cases path with
  | unspecified => rw [unspecified_join relative]; rfl
  | absolute segments =>
      rw [join_of_relative segments relative]
      exact congrArg some (names_resolve segments sub)

/-- To join is to write the directory out and to read it again with the text behind it. -/
def joined (names? : Option (List String)) (sub : String) : Option (List String) :=
  if sub.toList.head? = some '/' then reading sub
  else names?.bind fun names => reading (written names ++ "/" ++ sub)

theorem names?_join_eq_joined (path : RemotePath) (sub : String) :
    (path.join sub).names? = joined path.names? sub := by
  unfold join joined
  by_cases slash : sub.toList.head? = some '/'
  · rw [if_pos slash, if_pos slash, names?_ofString]
  · rw [if_neg slash, if_neg slash]
    cases path with
    | unspecified => rfl
    | absolute segments =>
        have text : (absolute segments).text = written (segments.map Segment.name) :=
          text_eq_written rfl
        rw [if_neg (by simp [isUnspecified]), text]
        exact names?_ofString _

/-! ## How paths are made -/

/-- A way to come from one path to another. -/
inductive Making where
  | read (text : String)
  | root
  | unspecified
  | join (sub : String)
  /-- To the directory above, if there is one. -/
  | parent

namespace Making

def make : Making → RemotePath → RemotePath
  | read text, _ => ofString text
  | root, _ => .root
  | unspecified, _ => .unspecified
  | join sub, path => path.join sub
  | parent, path => path.parent?.getD path

/-- The same done with names that promise nothing. -/
def told : Making → Option (List String) → Option (List String)
  | read text, _ => reading text
  | root, _ => some []
  | unspecified, _ => none
  | join sub, names? => joined names? sub
  | parent, names? => names?.map List.dropLast

/-- One step. -/
theorem names?_make (making : Making) (path : RemotePath) :
    (making.make path).names? = making.told path.names? := by
  cases making with
  | read text => exact names?_ofString text
  | root => rfl
  | unspecified => rfl
  | parent => exact names?_parent path
  | join sub => exact names?_join_eq_joined path sub

end Making

/-- Starting from the unspecified path. -/
def made (steps : List Making) : RemotePath :=
  steps.foldl (fun path step => step.make path) unspecified

def namesMade (steps : List Making) : Option (List String) :=
  steps.foldl (fun names? step => step.told names?) none

/-- All steps. -/
theorem names?_made (steps : List Making) : (made steps).names? = namesMade steps := by
  have run (path : RemotePath) :
      (steps.foldl (fun path step => step.make path) path).names? =
        steps.foldl (fun names? step => step.told names?) path.names? := by
    induction steps generalizing path with
    | nil => rfl
    | cons step rest ih =>
        rw [List.foldl_cons, List.foldl_cons, ← step.names?_make path]
        exact ih _
  exact run unspecified

/-- However a path was made, each of its names stands for exactly one level. It is read from its own
text, so paths with the same text are the same, and a text stands for no directory exactly if it
does not begin at the root. -/
theorem made_regular (steps others : List Making) :
    (made steps).names? = namesMade steps ∧
      (∀ names, namesMade steps = some names →
        ∀ name ∈ names, name ≠ "" ∧ '/' ∉ name.toList ∧ name ≠ "." ∧ name ≠ "..") ∧
      ofString (made steps).text = made steps ∧
      (made steps = made others ↔ (made steps).text = (made others).text) ∧
      ∀ text, (ofString text).isUnspecified = true ↔ text.toList.head? ≠ some '/' := by
  refine ⟨names?_made steps, ?_, ofString_text _, text_injective.eq_iff.symm, ?_⟩
  · intro names made name mem
    obtain ⟨filled, dot, dots, whole⟩ := plain_of_names? ((names?_made steps).trans made) mem
    exact ⟨filled, whole, dot, dots⟩
  · intro text
    constructor
    · intro unspecified slash
      rw [ofString_of_head slash] at unspecified
      cases unspecified
    · intro relative
      rw [ofString_of_relative relative]
      rfl

/-- Two ways to one directory, of which the first leads past the root. -/
theorem made_regular_dotted :
    let steps : List Making :=
      [.read "/a//b/./../..", .join "../c/..d/.", .parent, .join "e/", .join ".."]
    (made steps).names? = some ["c"] ∧ (∀ name ∈ ["c"], name ≠ "" ∧ '/' ∉ name.toList) ∧
      ofString (made steps).text = made steps ∧ made steps = made [.root, .join "c"] := by
  intro steps
  have told : namesMade steps = some ["c"] := by decide
  obtain ⟨names, plain, round, same, -⟩ := made_regular steps [.root, .join "c"]
  refine ⟨names.trans told, ?_, round, same.2 (by decide)⟩
  intro name mem
  exact ⟨(plain _ told name mem).1, (plain _ told name mem).2.1⟩

/-- Joining a text that does not begin at the root goes on from the directory part by part, so
nothing happens if it is empty, and two such texts are joined one after the other as with a slash
between them. A text that begins at the root replaces the path, and no other leads anywhere from the
unspecified path. -/
theorem join_part_by_part (path : RemotePath) (sub : String) :
    (sub.toList.head? ≠ some '/' →
      (path.join sub).names? = path.names?.map fun names => (parts sub).foldl onward names) ∧
    path.join "" = path ∧
    (∀ other : String, sub ≠ "" → sub.toList.head? ≠ some '/' → other.toList.head? ≠ some '/' →
      (path.join sub).join other = path.join (sub ++ "/" ++ other)) ∧
    (sub.toList.head? = some '/' → path.join sub = ofString sub) ∧
    (sub.toList.head? ≠ some '/' → unspecified.join sub = unspecified) := by
  refine ⟨names?_join path, ?_, ?_, join_of_absolute path, unspecified_join⟩
  · apply names?_injective
    rw [names?_join path (by decide)]
    exact Option.map_id'
  · intro other filled relative otherRelative
    have longer : (sub ++ "/" ++ other).toList.head? ≠ some '/' := by
      cases letters : sub.toList with
      | nil => exact absurd (String.toList_eq_nil_iff.1 letters) filled
      | cons first rest =>
          rw [letters] at relative
          simpa [letters] using relative
    apply names?_injective
    rw [names?_join _ otherRelative, names?_join path relative, names?_join path longer,
      Option.map_map]
    congr 1
    funext names
    rw [parts_append, List.foldl_append]
    rfl

/-- Dots before, after and across the seam. -/
theorem join_part_by_part_dotted :
    let path := ofString "/home"
    let sub := "user/../..//.."
    let other := "./x/../y/"
    ((path.join sub).join other).names? = some ["y"] ∧
      (path.join sub).join other = path.join (sub ++ "/" ++ other) := by
  intro path sub other
  have both := (join_part_by_part path sub).2.2.1 other (by decide) (by decide) (by decide)
  have longer := (join_part_by_part path (sub ++ "/" ++ other)).1 (by decide)
  refine ⟨?_, both⟩
  rw [both, longer]
  decide

end RemotePath

end Courier
