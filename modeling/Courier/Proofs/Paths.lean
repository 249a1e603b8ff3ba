import Courier.WireLine
import Mathlib.Data.List.Induction

/-!
# Where path texts lead

Reading a path text is following its parts one by one, so reading one text after another is reading
the two with a slash between them. A name seen from a directory, and the same name in full, are both
read by following the name's parts: the one from the directory on, the other from the root past the
directory.
-/

namespace Courier

/-! ## Pieces of a text with a separator in it -/

namespace Text

variable {sep : Char} {front back : List Char}

theorem pieces_cons_of_ne {c : Char} (other : c ≠ sep) (rest : List Char) :
    ∃ piece others, pieces sep rest = piece :: others ∧
      pieces sep (c :: rest) = (c :: piece) :: others := by
  cases cut : pieces sep rest with
  | nil => exact absurd cut (pieces_ne_nil sep rest)
  | cons piece others =>
      refine ⟨piece, others, rfl, ?_⟩
      rw [pieces, if_neg other, cut]

theorem pieces_append (sep : Char) (front back : List Char) :
    pieces sep (front ++ sep :: back) = pieces sep front ++ pieces sep back := by
  induction front with
  | nil => simp [pieces]
  | cons c rest ih =>
      rw [List.cons_append]
      by_cases separates : c = sep
      · rw [pieces, if_pos separates, ih, pieces, if_pos separates]
        rfl
      · obtain ⟨piece, others, cut, longer⟩ := pieces_cons_of_ne separates rest
        obtain ⟨piece', others', cut', longer'⟩ :=
          pieces_cons_of_ne separates (rest ++ sep :: back)
        rw [longer', longer]
        rw [ih, cut, List.cons_append] at cut'
        obtain ⟨rfl, rfl⟩ := List.cons.inj cut'
        rfl

theorem pieces_of_not_mem (whole : sep ∉ front) : pieces sep front = [front] := by
  induction front with
  | nil => rfl
  | cons c rest ih =>
      obtain ⟨other, plain⟩ := not_or.1 (List.mem_cons.not.1 whole)
      rw [pieces, if_neg (Ne.symm other), ih plain]

end Text

/-! ## Following parts -/

namespace RemotePath

theorem follow_plain (dirs : List Segment) (segment : Segment) :
    follow dirs segment.name.toList = dirs ++ [segment] := by
  unfold follow
  simp only [String.ofList_toList, dif_pos segment.plain]

@[simp] theorem resolve_nil (dirs : List Segment) : resolve dirs [] = dirs := by
  show follow dirs [] = dirs
  unfold follow
  rw [dif_neg (by decide), if_neg (by decide)]

/-- One text after the other is read as both with a slash between them. -/
theorem resolve_append (dirs : List Segment) (front back : List Char) :
    resolve dirs (front ++ '/' :: back) = resolve (resolve dirs front) back := by
  unfold resolve
  rw [Text.pieces_append, List.foldl_append]

theorem resolve_slash (dirs : List Segment) (text : List Char) :
    resolve dirs ('/' :: text) = resolve dirs text := by
  have split := resolve_append dirs [] text
  rwa [List.nil_append, resolve_nil] at split

theorem resolve_plain (dirs : List Segment) (segment : Segment) :
    resolve dirs segment.name.toList = dirs ++ [segment] := by
  unfold resolve
  rw [Text.pieces_of_not_mem segment.plain.2.2.2]
  exact follow_plain dirs segment

theorem segmentsText_append (segments : List Segment) (segment : Segment) :
    (segmentsText (segments ++ [segment])).toList =
      (segmentsText segments).toList ++ '/' :: segment.name.toList := by
  induction segments with
  | nil => simp [segmentsText]
  | cons first rest ih =>
      show ("/" ++ first.name ++ segmentsText (rest ++ [segment])).toList =
        ("/" ++ first.name ++ segmentsText rest).toList ++ '/' :: segment.name.toList
      simp only [String.toList_append, ih, List.append_assoc]

/-- The text of directories leads down through them. -/
theorem resolve_segmentsText (dirs segments : List Segment) :
    resolve dirs (segmentsText segments).toList = dirs ++ segments := by
  induction segments using List.reverseRecOn with
  | nil => simp [segmentsText]
  | append_singleton segments segment ih =>
      rw [segmentsText_append, resolve_append, ih, resolve_plain, List.append_assoc]

/-- What stands in full in a directory is read by following it from the directory on. -/
theorem resolve_text (segments : List Segment) (back : List Char) :
    resolve [] ((text (absolute segments)).toList ++ '/' :: back) = resolve segments back := by
  rw [resolve_append]
  cases segments with
  | nil => rw [show (text (absolute [])).toList = '/' :: [] from rfl, resolve_slash, resolve_nil]
  | cons segment rest =>
      rw [show text (absolute (segment :: rest)) = segmentsText (segment :: rest) from rfl,
        resolve_segmentsText, List.nil_append]

theorem ofString_of_head {text : String} (h : text.toList.head? = some '/') :
    ofString text = absolute (resolve [] text.toList) := by
  unfold ofString
  cases letters : text.toList with
  | nil => simp [letters] at h
  | cons first rest =>
      obtain rfl : first = '/' := by simpa [letters] using h
      exact congrArg absolute (resolve_slash [] rest).symm

theorem text_head {path : RemotePath} (h : path.isUnspecified = false) :
    path.text.toList.head? = some '/' := by
  cases path with
  | unspecified => cases h
  | absolute segments =>
      cases segments with
      | nil => rfl
      | cons segment rest => simp [RemotePath.text, segmentsText]

/-- A path is read from its own text. -/
theorem ofString_text (path : RemotePath) : ofString path.text = path := by
  cases path with
  | unspecified => rfl
  | absolute segments =>
      have read := resolve_text segments []
      rw [resolve_append, resolve_nil, resolve_nil] at read
      rw [ofString_of_head (text_head rfl), read]

/-! ### Names in a directory -/

theorem ofString_inside (segments : List Segment) (name : String) :
    ofString ((absolute segments).text ++ "/" ++ name) =
      absolute (resolve segments name.toList) := by
  have letters : ((absolute segments).text ++ "/" ++ name).toList =
      (absolute segments).text.toList ++ '/' :: name.toList := by simp
  rw [ofString_of_head, letters, resolve_text]
  rw [letters, List.head?_append, text_head rfl]
  rfl

/-- A relative name is followed from the directory on. -/
theorem join_of_relative (segments : List Segment) {name : String}
    (relative : name.toList.head? ≠ some '/') :
    (absolute segments).join name = absolute (resolve segments name.toList) := by
  unfold join
  rw [if_neg relative]
  exact ofString_inside segments name

theorem join_of_absolute (path : RemotePath) {name : String}
    (absolute : name.toList.head? = some '/') : path.join name = ofString name := if_pos absolute

/-- The name in full is followed from the directory on, whatever it is. -/
theorem ofString_nameOf_full (segments : List Segment) (name : String) :
    ofString ((absolute segments).nameOf .full name) = absolute (resolve segments name.toList) := by
  have full : ¬ (Naming.full = .bare ∨ (absolute segments).isUnspecified = true) := by
    rintro (bare | unspecified)
    · cases bare
    · cases unspecified
  unfold nameOf
  rw [if_neg full]
  split
  · exact ofString_inside segments name
  · rename_i top
    cases segments with
    | nil =>
        have letters : ("/" ++ name).toList = '/' :: name.toList := by simp
        rw [ofString_of_head (by rw [letters]; rfl), letters, resolve_slash]
    | cons segment rest => exact absurd rfl top

/-! ### The last level -/

theorem parent?_append_singleton (segments : List Segment) (segment : Segment) :
    (absolute (segments ++ [segment])).parent? = some (absolute segments) := by
  cases segments with
  | nil => rfl
  | cons first rest =>
      show some (absolute (first :: (rest ++ [segment])).dropLast) = _
      rw [← List.cons_append, List.dropLast_concat]

theorem lastName?_append_singleton (segments : List Segment) (segment : Segment) :
    (absolute (segments ++ [segment])).lastName? = some segment.name := by
  show Option.map Segment.name (segments ++ [segment]).getLast? = _
  rw [List.getLast?_concat]
  rfl

/-- The directory above and the last name make up the path. -/
theorem exists_of_parent? {path parent : RemotePath} {name : String}
    (above : path.parent? = some parent) (last : path.lastName? = some name) :
    ∃ segments segment, parent = absolute segments ∧ segment.name = name ∧
      path = absolute (segments ++ [segment]) := by
  cases path with
  | unspecified => cases above
  | absolute segments =>
      cases segments using List.reverseRecOn with
      | nil => cases above
      | append_singleton segments segment =>
          rw [parent?_append_singleton] at above
          rw [lastName?_append_singleton] at last
          exact ⟨segments, segment, (Option.some.inj above).symm, Option.some.inj last, rfl⟩

theorem join_isUnspecified {path : RemotePath} (specified : path.isUnspecified = false)
    (name : String) : (path.join name).isUnspecified = false := by
  cases path with
  | unspecified => cases specified
  | absolute segments =>
      by_cases slash : name.toList.head? = some '/'
      · rw [join_of_absolute _ slash, ofString_of_head slash]
        rfl
      · rw [join_of_relative segments slash]
        rfl

end RemotePath

end Courier
